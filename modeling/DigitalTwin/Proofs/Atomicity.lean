import DigitalTwin.Proofs.Run

/-! What a failure leaves behind. A change of twins that fails leaves stores, routes and subscriptions as
    they were. Saving states touches the state store only, and when the save of one record fails, it has
    stored the states of the records before it. -/

namespace DigitalTwin

/-- The operations that change twins or route stored twins anew. -/
def Operation.isChange : Operation → Bool
  | .add .. => true
  | .update .. => true
  | .remove .. => true
  | .restore => true
  | _ => false

/-- One history has grown by some states and no other history has changed. -/
structure StateStore.Grown (s t : StateStore) (twinId : String) (states : List State) : Prop where
  own : t.history twinId = s.history twinId ++ states
  others : ∀ id, id ≠ twinId → t.history id = s.history id

theorem StateStore.grown_appendAll (s : StateStore) {twinId : String} {states : List State}
    (h : ∀ state ∈ states, state.twinId = twinId) : s.Grown (s.appendAll states) twinId states where
  own := by rw [history_appendAll_of_twinId h, if_pos rfl]
  others id hne := by rw [history_appendAll_of_twinId h, if_neg hne.symm]

namespace Hub

variable {hub hub' : Hub} {clock : Clock} {m : Message} {route : Route} {ms : List Senml.Measurement}
  {r : Except ServiceError Nat} {e : ServiceError}

/-- Twins, routes and subscriptions are as they were, and the transport was asked for publications only. -/
structure Steady (hub hub' : Hub) : Prop where
  identities : hub'.identities = hub.identities
  notifyChannel : hub'.notifyChannel = hub.notifyChannel
  twins : hub'.twins = hub.twins
  routes : hub'.routes = hub.routes
  active : hub'.active = hub.active
  broker : hub'.broker = hub.broker
  calls : ∃ calls, hub'.calls = hub.calls ++ calls ∧ ∀ call ∈ calls, IsPublication call

/-- Nothing is changed but that an id may have been used up. -/
structure Untouched (hub hub' : Hub) : Prop where
  steady : Steady hub hub'
  states : hub'.states = hub.states
  ids : hub'.ids = hub.ids ∨ hub'.ids = hub.ids.rest

theorem Steady.of_records (hub : Hub) (faults : FaultPlan) (ids : IdSource) (states : StateStore) :
    Steady hub { hub with faults, ids, states } :=
  ⟨rfl, rfl, rfl, rfl, rfl, rfl, [], (List.append_nil _).symm, fun _ h => (nomatch h)⟩

theorem Steady.announce (h : Steady hub hub') (operation : String) (now : Instant)
    (outcome : Except ServiceError Json) : Steady hub (Hub.announce operation now outcome hub') := by
  obtain ⟨faults, published, ha, hp⟩ := announce_frame operation now outcome hub'
  obtain ⟨calls, hc, hcp⟩ := h.calls
  rw [ha]
  refine ⟨h.identities, h.notifyChannel, h.twins, h.routes, h.active, h.broker, calls ++ published, ?_, ?_⟩
  · show hub'.calls ++ published = _
    rw [hc, List.append_assoc]
  · intro call hcall
    rcases List.mem_append.mp hcall with hcall | hcall
    · exact hcp call hcall
    · exact hp call hcall

theorem Untouched.of_ids (hub : Hub) (faults : FaultPlan) {ids : IdSource} (h : ids = hub.ids ∨ ids = hub.ids.rest) :
    Untouched hub { hub with faults, ids } :=
  ⟨.of_records hub faults ids hub.states, rfl, h⟩

theorem Untouched.of_faults (hub : Hub) (faults : FaultPlan) : Untouched hub { hub with faults } :=
  .of_ids hub faults (Or.inl rfl)

theorem Untouched.announce (h : Untouched hub hub') (operation : String) (now : Instant)
    (outcome : Except ServiceError Json) : Untouched hub (Hub.announce operation now outcome hub') := by
  obtain ⟨faults, calls, ha, -⟩ := announce_frame operation now outcome hub'
  refine ⟨h.steady.announce _ _ _, ?_, ?_⟩
  · rw [ha]
    exact h.states
  · rw [ha]
    exact h.ids

/-! ### Changes of twins -/

theorem register_error {token : String} {given : Twin} {d : Definition} {now : Instant}
    (h : (outcome (register token given d now) hub).1 = .error e) :
    Untouched hub (outcome (register token given d now) hub).2 := by
  unfold outcome at *
  rcases register_cases token given d now hub with ⟨e, faults, ids, hids, hr⟩ | ⟨owner, faults, twins, -, -, -, -, hr⟩
  · rw [hr]
    exact .of_ids hub faults hids
  · rw [hr] at h
    cases h

theorem revise_error {token : String} {given : Twin} {d : Definition} {now : Instant}
    (h : (outcome (revise token given d now) hub).1 = .error e) :
    Untouched hub (outcome (revise token given d now) hub).2 := by
  unfold outcome at *
  rcases revise_cases token given d now hub with ⟨e, faults, hr⟩ | ⟨owner, current, faults, twins, -, -, -, -, -, -, hr⟩
  · rw [hr]
    exact .of_faults hub faults
  · rw [hr] at h
    cases h

theorem unregister_error {token id : String} (h : (outcome (unregister token id) hub).1 = .error e) :
    Untouched hub (outcome (unregister token id) hub).2 := by
  unfold outcome at *
  rcases unregister_cases token id hub with ⟨e, faults, hr⟩ | ⟨faults, hr⟩ | ⟨owner, twin, faults, -, -, -, hr⟩
  · rw [hr]
    exact .of_faults hub faults
  · rw [hr] at h
    cases h
  · rw [hr] at h
    cases h

theorem restore_error (h : (outcome restore hub).1 = .error e) : Untouched hub (outcome restore hub).2 := by
  unfold outcome at *
  rcases restore_cases hub with ⟨e, -, hr⟩ | ⟨-, hr⟩
  · rw [hr]
    exact .of_faults hub _
  · rw [hr] at h
    cases h

theorem error_of_map {α β : Type} {f : α → β} {r : Except ServiceError α} (h : r.map f = .error e) : r = .error e := by
  cases r <;> cases h
  rfl

/-- A change that fails changes nothing. --/
theorem change_error (hq : Quiet hub) {op : Operation} (hop : op.isChange = true)
    (he : (perform clock op hub).1 = .error e) : Untouched hub (perform clock op hub).2 := by
  cases op with
  | add token given d =>
    rw [perform_add hq clock] at he ⊢
    exact (register_error (error_of_map he)).announce _ _ _
  | update token given d =>
    rw [perform_update hq clock] at he ⊢
    exact (revise_error (error_of_map he)).announce _ _ _
  | remove token id =>
    rw [perform_remove hq clock] at he ⊢
    exact (unregister_error (error_of_map he)).announce _ _ _
  | restore => exact restore_error (error_of_map (r := (outcome restore hub).1) (f := Reply.count) he)
  | view | list | save | saveAll | receive | states | restart | seedTwin | seedState | plan => cases hop

/-! ### Saving states -/

namespace Recording

theorem of_unrouted (h : Recording clock m hub r hub') (hr : hub.routes.get? m.key = none) :
    r = .error .notFound ∧ hub'.states = hub.states := by
  cases h <;> simp_all

theorem of_malformed (h : Recording clock m hub r hub') (hr : hub.routes.get? m.key = some route)
    (hd : Senml.decode m.payload clock.start = .error e) : r = .error e ∧ hub'.states = hub.states := by
  cases h <;> simp_all

theorem of_unread (h : Recording clock m hub r hub') (hr : hub.routes.get? m.key = some route)
    (hd : Senml.decode m.payload clock.start = .ok ms) (hne : ms ≠ [])
    (hl : hub.faults.outcome? .lastState 0 = some e) : r = .error e ∧ hub'.states = hub.states := by
  cases h <;> simp_all

/-- With no failure due, all records become states. --/
theorem of_empty (h : Recording clock m { hub with faults := .empty } r hub')
    (hr : hub.routes.get? m.key = some route) (hd : Senml.decode m.payload clock.start = .ok ms) :
    r = .ok ms.length ∧
      hub'.states = hub.states.appendAll (snapshots route clock 0 (hub.states.last? route.twinId) ms) := by
  cases h <;> simp_all [snapshots]

/-- The first save that fails is the one that counts. --/
theorem of_broken (h : Recording clock m hub r hub') (hr : hub.routes.get? m.key = some route)
    (hd : Senml.decode m.payload clock.start = .ok ms) (hl : hub.faults.outcome? .lastState 0 = none) {i : Nat}
    (hi : i < ms.length) (hs : ∀ j < i, hub.faults.outcome? .saveState j = none)
    (he : hub.faults.outcome? .saveState i = some e) :
    r = .error e ∧
      hub'.states = hub.states.appendAll ((snapshots route clock 0 (hub.states.last? route.twinId) ms).take i) := by
  cases h with
  | unrouted hr' => simp_all
  | malformed hr' hd' => simp_all
  | blank hr' hd' => simp_all
  | unread hr' hd' hne hl' => simp_all
  | saved hr' hd' hne hl' hs' =>
    cases hd.symm.trans hd'
    rw [hs' i hi] at he
    cases he
  | broken hr' hd' hne hl' hi' hs' he' =>
    cases hr.symm.trans hr'
    cases hd.symm.trans hd'
    rename_i i' e' faults
    have same : i' = i := by
      rcases Nat.lt_trichotomy i' i with hlt | heq | hgt
      · rw [hs i' hlt] at he'
        cases he'
      · exact heq
      · rw [hs' i hgt] at he
        cases he
    subst same
    cases he.symm.trans he'
    exact ⟨rfl, rfl⟩

/-- Whatever recording a message comes to, it adds to the history of the twin that the key is routed to. --/
theorem adds (h : Recording clock m hub r hub') :
    Steady hub hub' ∧ hub'.ids = hub.ids ∧ ∃ states, hub'.states = hub.states.appendAll states ∧
      ∀ state ∈ states, ∃ route, hub.routes.get? m.key = some route ∧ state.twinId = route.twinId := by
  obtain ⟨faults, states, rfl, hs⟩ := h.added
  refine ⟨.of_records hub faults hub.ids _, rfl, states, rfl, fun state hm => ?_⟩
  rcases hs with rfl | ⟨route, ms, hr, -, hs⟩
  · cases hm
  · exact ⟨route, hr, twinId_of_mem_snapshots state (hs.subset hm)⟩

end Recording

/-- What every way to record a message comes to, saving its states comes to. --/
theorem save_outcome (hq : Quiet hub) {states : StateStore}
    (h : ∀ r' hub₁, Recording clock m hub r' hub₁ → r' = r ∧ hub₁.states = states) :
    (perform clock (.save m) hub).1 = r.map .count ∧ (perform clock (.save m) hub).2.states = states := by
  obtain ⟨hr, hs⟩ := h _ _ (recordStates_recording clock m hub)
  rw [perform_save hq]
  exact ⟨congrArg (Except.map Reply.count) hr, (states_announce _ _ _ _).trans hs⟩

theorem save_adds (hq : Quiet hub) (clock : Clock) (m : Message) :
    Steady hub (perform clock (.save m) hub).2 ∧ (perform clock (.save m) hub).2.ids = hub.ids ∧
      ∃ states, (perform clock (.save m) hub).2.states = hub.states.appendAll states ∧
        ∀ state ∈ states, ∃ route, hub.routes.get? m.key = some route ∧ state.twinId = route.twinId := by
  obtain ⟨steady, hids, hstates⟩ := (recordStates_recording clock m hub).adds
  rw [perform_save hq, states_announce]
  exact ⟨steady.announce _ _ _, (ids_announce _ _ _ _).trans hids, hstates⟩

/-- What saving a message adds to the states is behind what was there, and with the twin that is routed. --/
theorem save_histories (hq : Quiet hub) (clock : Clock) (m : Message) (id : String) :
    hub.states.history id <+: (perform clock (.save m) hub).2.states.history id ∧
      ((∀ route, hub.routes.get? m.key = some route → route.twinId ≠ id) →
        (perform clock (.save m) hub).2.states.history id = hub.states.history id) := by
  obtain ⟨-, -, states, hs, routed⟩ := save_adds hq clock m
  rw [hs, StateStore.history_appendAll]
  refine ⟨List.prefix_append _ _, fun other => ?_⟩
  rw [List.filter_eq_nil_iff.mpr fun state hm => ?_, List.append_nil]
  obtain ⟨route, hr, hid⟩ := routed state hm
  rw [decide_eq_true_iff, hid]
  exact other route hr

/-! ### Failures in runs -/

/-- In whatever state a run has left a hub, and whatever calls of collaborators fail next: a change that
    fails leaves it as it was; saving states without a route, a payload or the last state stores nothing;
    if a record cannot be stored, the history of the routed twin ends with the states of the records before
    it, as they would be without the failure, and no other history has changed; and whatever saving states
    comes to, it adds to the history of the routed twin and does nothing else. --/
theorem follow_failure_atomic (identities : IdentityTable) (ids : IdSource) (notifyChannel : Option String)
    (turns : List Turn) (faults : FaultPlan) (clock : Clock) :
    let hub := { (Hub.new identities ids notifyChannel).follow turns with faults }
    (∀ op e, op.isChange = true → (perform clock op hub).1 = .error e → Untouched hub (perform clock op hub).2) ∧
    ∀ m, let after := perform clock (.save m) hub
      (hub.routes.get? m.key = none → after.1 = .error .notFound ∧ after.2.states = hub.states) ∧
      (∀ route e, hub.routes.get? m.key = some route → Senml.decode m.payload clock.start = .error e →
        after.1 = .error e ∧ after.2.states = hub.states) ∧
      (∀ route ms e, hub.routes.get? m.key = some route → Senml.decode m.payload clock.start = .ok ms → ms ≠ [] →
        faults.outcome? .lastState 0 = some e → after.1 = .error e ∧ after.2.states = hub.states) ∧
      (∀ route ms i e, hub.routes.get? m.key = some route → Senml.decode m.payload clock.start = .ok ms →
        faults.outcome? .lastState 0 = none → i < ms.length →
        (∀ j < i, faults.outcome? .saveState j = none) → faults.outcome? .saveState i = some e →
        let intact := perform clock (.save m) { hub with faults := .empty }
        ∃ states, states.length = ms.length ∧ (∀ state ∈ states, state.twinId = route.twinId) ∧
          intact.1 = .ok (.count ms.length) ∧ intact.2.states = hub.states.appendAll states ∧
          hub.states.Grown intact.2.states route.twinId states ∧
          after.1 = .error e ∧ after.2.states = hub.states.appendAll (states.take i) ∧
          hub.states.Grown after.2.states route.twinId (states.take i)) ∧
      Steady hub after.2 ∧ after.2.ids = hub.ids ∧
      (∃ states, after.2.states = hub.states.appendAll states ∧
        ∀ state ∈ states, ∃ route, hub.routes.get? m.key = some route ∧ state.twinId = route.twinId) ∧
      ∀ id, hub.states.history id <+: after.2.states.history id ∧
        ((∀ route, hub.routes.get? m.key = some route → route.twinId ≠ id) →
          after.2.states.history id = hub.states.history id) := by
  intro hub
  have hq : Quiet hub := ((Quiet.new identities ids notifyChannel).follow turns).due faults
  refine ⟨fun op e hop he => change_error hq hop he, fun m => ⟨fun hr => ?_, fun route e hr hd => ?_,
    fun route ms e hr hd hne hl => ?_, fun route ms i e hr hd hl hi hs he => ?_, ?_⟩⟩
  · exact save_outcome hq fun _ _ hrec => hrec.of_unrouted hr
  · exact save_outcome hq fun _ _ hrec => hrec.of_malformed hr hd
  · exact save_outcome hq fun _ _ hrec => hrec.of_unread hr hd hne hl
  · obtain ⟨intact, intact'⟩ := save_outcome (hq.due .empty) fun _ _ hrec => hrec.of_empty hr hd
    obtain ⟨broken, broken'⟩ := save_outcome hq fun _ _ hrec => hrec.of_broken hr hd hl hi hs he
    have own : ∀ state ∈ snapshots route clock 0 (hub.states.last? route.twinId) ms, state.twinId = route.twinId :=
      twinId_of_mem_snapshots
    exact ⟨snapshots route clock 0 (hub.states.last? route.twinId) ms, length_snapshots _ _ _, own, intact, intact',
      intact' ▸ hub.states.grown_appendAll own, broken, broken',
      broken' ▸ hub.states.grown_appendAll fun state hm => own state (List.mem_of_mem_take hm)⟩
  · obtain ⟨steady, hids, added⟩ := save_adds hq clock m
    exact ⟨steady, hids, added, save_histories hq clock m⟩

set_option maxRecDepth 4000 in
/-- Of two records, the second cannot be stored. --/
theorem follow_failure_atomic_second_record :
    let given : Twin := ⟨"", "", "pump", [], ⟨0, 0⟩, ⟨0, 0⟩, 0, []⟩
    let flow : Attribute := ⟨"flow", "plant", "a", true⟩
    let m : Message := ⟨"plant", "a", "pump", [91, 123, 125, 44, 123, 125, 93], ⟨2, 0⟩⟩
    let hub := (Hub.new ⟨[("token", "ann")]⟩ ⟨fun _ => "t", 0⟩ none).follow
      [⟨.empty, .at ⟨1, 0⟩, .add "token" given ⟨0, ⟨0, 0⟩, [flow]⟩⟩]
    let faults : FaultPlan := Table.empty.insert .saveState [⟨1, none⟩, ⟨1, some (.storage "full")⟩]
    let after := perform (.at ⟨2, 0⟩) (.save m) { hub with faults }
    hub.routes.get? m.key = some ⟨"t", flow, 0⟩ ∧
      ∃ states : List State, states.length = 2 ∧ after.1 = .error (.storage "full") ∧
        after.2.states = hub.states.appendAll (states.take 1) ∧
        hub.states.Grown after.2.states "t" (states.take 1) := by
  intro given flow m hub faults after
  have hr : hub.routes.get? m.key = some ⟨"t", flow, 0⟩ := by decide +kernel
  have hd : Senml.decode [91, 123, 125, 44, 123, 125, 93] ⟨2, 0⟩ =
      .ok [⟨"", none, none, .null⟩, ⟨"", none, none, .null⟩] := by rfl
  obtain ⟨-, -, -, broken, -⟩ := (follow_failure_atomic ⟨[("token", "ann")]⟩ ⟨fun _ => "t", 0⟩ none
    [⟨.empty, .at ⟨1, 0⟩, .add "token" given ⟨0, ⟨0, 0⟩, [flow]⟩⟩] faults (.at ⟨2, 0⟩)).2 m
  obtain ⟨states, length, -, -, -, -, failed, kept, grown⟩ :=
    broken _ _ 1 (.storage "full") hr hd (by decide) (by decide) (by decide) (by decide)
  exact ⟨hr, states, length, failed, kept, grown⟩

end Hub
end DigitalTwin
