import DigitalTwin.Proofs.Atomicity
import DigitalTwin.Proofs.FaultFree
import DigitalTwin.Proofs.Provenance

/-! What the owners of twins can do to each other, and what they can learn of each other: nothing. A call
    that changes twins leaves those of other owners and their routes as they were, and what an owner reads
    is told by that owner's twins and their histories alone. -/

namespace DigitalTwin

/-- The token of a call that changes twins. -/
def Operation.writer? : Operation → Option String
  | .add token .. => some token
  | .update token .. => some token
  | .remove token _ => some token
  | _ => none

/-- The token of a call that reads twins or states. -/
def Operation.reader? : Operation → Option String
  | .view token _ => some token
  | .list token .. => some token
  | .states token .. => some token
  | _ => none

theorem Operation.messages_of_writer {op : Operation} {token : String} (h : op.writer? = some token) :
    op.messages = [] := by
  cases op <;> first | rfl | cases h

/-! ### Twins by owner -/

namespace TwinStore

variable {s t : TwinStore} {twin u : Twin} {id owner : String}

/-- The twins of an owner, the longest stored first. -/
def ownedBy (s : TwinStore) (owner : String) : List Twin := s.toList.filter (·.owner = owner)

/-- The twins of everybody else, the longest stored first. -/
def foreignTo (s : TwinStore) (owner : String) : List Twin := s.toList.filter (·.owner ≠ owner)

theorem mem_ownedBy : twin ∈ s.ownedBy owner ↔ twin ∈ s.toList ∧ twin.owner = owner := by
  simp [ownedBy]

theorem mem_foreignTo : twin ∈ s.foreignTo owner ↔ twin ∈ s.toList ∧ twin.owner ≠ owner := by
  simp [foreignTo]

/-- With an id that a twin of the owner has, there is no foreign twin. --/
theorem WellFormed.id_ne_of_foreign (h : s.WellFormed) (hg : s.get? id = some twin) (ho : twin.owner = owner)
    (hu : u ∈ s.foreignTo owner) : u.id ≠ id := by
  intro hid
  obtain ⟨hm, hforeign⟩ := mem_foreignTo.mp hu
  rw [h.get?_eq_some.mpr ⟨hm, hid⟩] at hg
  cases hg
  exact hforeign ho

theorem foreignTo_insert (h : s.WellFormed) (hi : s.insert twin = .ok t) (ho : twin.owner = owner) :
    t.foreignTo owner = s.foreignTo owner := by
  obtain ⟨-, hl, -⟩ := insert_ok h hi
  simp [foreignTo, hl, ho]

theorem foreignTo_replace (h : s.WellFormed) (hr : s.replace twin = .ok t) (ho : twin.owner = owner)
    (hg : s.get? twin.id = some u) (hu : u.owner = owner) : t.foreignTo owner = s.foreignTo owner := by
  obtain ⟨-, hl, -⟩ := replace_ok h hr
  have own : ∀ v ∈ s.toList, v.id = twin.id → v.owner = owner := by
    intro v hv hid
    rw [h.get?_eq_some.mpr ⟨hv, hid⟩] at hg
    cases hg
    exact hu
  -- The new twin and the one whose place it takes have the same owner, so both are left out.
  have same : s.toList.filter ((fun v => decide (v.owner ≠ owner)) ∘ fun v => if v.id = twin.id then twin else v) =
      s.foreignTo owner := by
    refine List.filter_congr fun v hv => ?_
    by_cases hid : v.id = twin.id
    · simp [hid, ho, own v hv hid]
    · simp [hid]
  rw [foreignTo, hl, List.filter_map, same]
  refine (List.map_congr_left fun v hv => if_neg ?_).trans (List.map_id' _)
  exact h.id_ne_of_foreign hg hu hv

theorem foreignTo_erase (h : s.WellFormed) (hg : s.get? id = some twin) (ho : twin.owner = owner) :
    (s.erase id).foreignTo owner = s.foreignTo owner := by
  obtain ⟨-, hl⟩ := erase_toList h id
  rw [foreignTo, hl, List.filter_filter]
  refine List.filter_congr fun v hv => ?_
  by_cases hv' : v.owner = owner
  · simp [hv']
  · have hne := h.id_ne_of_foreign hg ho (mem_foreignTo.mpr ⟨hv, hv'⟩)
    simp [hv', hne]

/-- The twin with an id, if it is the owner's. -/
def own? (s : TwinStore) (owner id : String) : Option Twin := (s.get? id).filter (·.owner = owner)

theorem WellFormed.own?_eq_some (h : s.WellFormed) :
    s.own? owner id = some twin ↔ twin ∈ s.ownedBy owner ∧ twin.id = id := by
  rw [own?, Option.filter_eq_some_iff, h.get?_eq_some, mem_ownedBy, decide_eq_true_iff]
  exact and_right_comm

/-- Two stores with the same twins of an owner find the same of them. --/
theorem own?_congr (h : s.WellFormed) (h' : t.WellFormed) (same : s.ownedBy owner = t.ownedBy owner) (id : String) :
    s.own? owner id = t.own? owner id := by
  ext twin
  rw [h.own?_eq_some, h'.own?_eq_some, same]

/-- What a listing asks for is looked for among the own twins. --/
theorem filter_accepts (s : TwinStore) (owner : String) (name : Option String) (metadata : Option JsonFields) :
    s.toList.filter (Filter.accepts ⟨owner, name, metadata⟩) =
      (s.ownedBy owner).filter fun twin => name.all twin.nameContains && metadata.all twin.hasMetadata := by
  rw [ownedBy, List.filter_filter]
  refine List.filter_congr fun twin _ => ?_
  by_cases ho : twin.owner = owner <;> simp [Filter.accepts, ho]

end TwinStore

namespace Hub

variable {hub hub' hub'' : Hub} {clock : Clock} {op : Operation} {token owner : String}

/-! ### Identities -/

/-- A token stands for an identity if the call goes through and the token is known. --/
theorem outcome_identify (token : String) (hub : Hub) :
    (outcome (identify token) hub).1 =
      match hub.faults.outcome? .identify 0 with
      | some e => .error e
      | none => hub.identities.identify token := by
  unfold outcome identify
  rcases pass_outcome .identify hub with ⟨hn, h⟩ | ⟨e, he, h⟩
  · rw [bind_ok h, bind_get, ofExcept_apply, hn]
    dsimp only
    cases hub.identities.identify token <;> rfl
  · rw [bind_error h, he]

theorem identify_of_outcome (h : (outcome (identify token) hub).1 = .ok owner) :
    hub.identities.identify token = .ok owner := by
  rw [outcome_identify] at h
  cases hf : hub.faults.outcome? .identify 0 with
  | some e =>
    rw [hf] at h
    cases h
  | none =>
    rw [hf] at h
    exact h

/-- Without an identity a call that changes twins goes no further. --/
theorem writer_unidentified (hq : Quiet hub) (hop : op.writer? = some token) {e : ServiceError}
    (he : (outcome (identify token) hub).1 = .error e) (clock : Clock) : (perform clock op hub).1 = .error e := by
  have stopped : ∃ after, identify token hub = .error e after := by
    unfold outcome at he
    cases hi : identify token hub with
    | ok owner after =>
      rw [hi] at he
      cases he
    | error e' after =>
      rw [hi] at he
      cases he
      exact ⟨after, rfl⟩
  obtain ⟨after, stopped⟩ := stopped
  cases op with
  | add token' given d =>
    cases hop
    have failed : register token given d clock.start hub = .error e after := bind_error stopped
    rw [perform_add hq, outcome, failed]
    rfl
  | update token' given d =>
    cases hop
    have failed : revise token given d clock.start hub = .error e after := bind_error stopped
    rw [perform_update hq, outcome, failed]
    rfl
  | remove token' id =>
    cases hop
    have failed : unregister token id hub = .error e after := bind_error stopped
    rw [perform_remove hq, outcome, failed]
    rfl
  | view | list | save | saveAll | receive | states | restore | restart | seedTwin | seedState | plan => cases hop

/-! ### What others have -/

/-- The twins of everybody but the owner are stored as they were, and so are all states. What is routed to
    such a twin was routed to it before, and the other way round. -/
structure Isolated (owner : String) (hub hub' : Hub) : Prop where
  twins : hub'.twins.foreignTo owner = hub.twins.foreignTo owner
  routes : ∀ twin ∈ hub.twins.foreignTo owner, ∀ key route, route.twinId = twin.id →
    (hub'.routes.get? key = some route ↔ hub.routes.get? key = some route)
  states : hub'.states = hub.states

namespace Isolated

theorem of_eq (ht : hub'.twins = hub.twins) (hr : hub'.routes = hub.routes) (hs : hub'.states = hub.states) :
    Isolated owner hub hub' :=
  ⟨by rw [ht], fun _ _ _ _ _ => by rw [hr], hs⟩

theorem trans (h : Isolated owner hub hub') (h' : Isolated owner hub' hub'') : Isolated owner hub hub'' := by
  refine ⟨h'.twins.trans h.twins, fun twin ht key route hid => ?_, h'.states.trans h.states⟩
  have ht' : twin ∈ hub'.twins.foreignTo owner := h.twins ▸ ht
  exact (h'.routes twin ht' key route hid).trans (h.routes twin ht key route hid)

end Isolated

/-- A twin that is stored and routed takes no key of a foreign one and gives it none. --/
theorem Sourced.isolated_put (h : Sourced hub) {twin : Twin} {twins : TwinStore} {ids : IdSource}
    (hf : hub.routes.requireFree twin = .ok ()) (htwins : twins.foreignTo owner = hub.twins.foreignTo owner)
    (hid : ∀ u ∈ hub.twins.foreignTo owner, u.id ≠ twin.id) :
    Isolated owner hub { hub with ids, twins, routes := (hub.routes.insert twin).2 } := by
  refine ⟨htwins, fun u hu key route hu' => ?_, rfl⟩
  have hne : route.twinId ≠ twin.id := hu' ▸ hid u hu
  exact RouteTable.get?_insert_of_ne h.consistent hf hne

theorem Sourced.isolated (h : Sourced hub) (hop : op.writer? = some token)
    (hi : hub.identities.identify token = .ok owner) (he : Effect clock op hub hub') : Isolated owner hub hub' := by
  cases he with
  | transport same => exact .of_eq same.twins same.routes same.states
  | issue => exact .of_eq rfl rfl rfl
  | add hop' hi' hd hf hs =>
    subst hop'
    cases hop
    cases hi.symm.trans hi'
    obtain ⟨-, -, fresh⟩ := TwinStore.insert_ok h.store hs
    exact h.isolated_put hf (TwinStore.foreignTo_insert h.store hs rfl) fun u hu =>
      fresh u (TwinStore.mem_foreignTo.mp hu).1
  | update hop' hi' hg ho hd hf hs =>
    subst hop'
    cases hop
    cases hi.symm.trans hi'
    obtain ⟨-, hid⟩ := h.store.get?_eq_some.mp hg
    rw [← hid] at hg
    exact h.isolated_put hf (TwinStore.foreignTo_replace h.store hs ho hg ho) fun u hu =>
      h.store.id_ne_of_foreign hg ho hu
  | @remove _ id _ _ hop' hi' hg ho =>
    subst hop'
    cases hop
    cases hi.symm.trans hi'
    refine ⟨TwinStore.foreignTo_erase h.store hg ho, fun u hu key route hu' => ?_, rfl⟩
    have hne : route.twinId ≠ id := hu' ▸ h.store.id_ne_of_foreign hg ho hu
    exact RouteTable.get?_erase_of_ne h.consistent hne
  | restore hop' | restart hop' | seedTwin hop' | seedState hop' =>
    subst hop'
    cases hop
  | record hm =>
    rw [Operation.messages_of_writer hop] at hm
    cases hm

/-- Whatever the caller passes in and whatever id is issued, a call that changes twins is confined to the
    twins of the caller. --/
theorem Sourced.perform_isolated (h : Sourced hub) (hq : Quiet hub) (hop : op.writer? = some token)
    (hi : hub.identities.identify token = .ok owner) (clock : Clock) :
    Sourced (perform clock op hub).2 ∧ Isolated owner hub (perform clock op hub).2 := by
  have kept := (Effects.perform hq clock op).keeps
    (P := fun after => Sourced after ∧ after.identities.identify token = .ok owner ∧ Isolated owner hub after)
    ⟨h, hi, .of_eq rfl rfl rfl⟩ ?_
  · exact ⟨kept.1, kept.2.2⟩
  · rintro after after' he ⟨hs, hi, isolated⟩
    refine ⟨hs.effect he, ?_, isolated.trans (hs.isolated hop hi he)⟩
    cases he with
    | transport same => exact same.identities ▸ hi
    | issue | add | update | remove | restore | record | restart | seedTwin | seedState => exact hi

/-- In whatever state a run has left a hub, over any stored twins and also before its routes are restored,
    and whatever calls of collaborators fail next: a call that changes twins changes nothing if its token is
    not identified. Else the twins of all other owners stay in the store, unchanged and in their order, with
    the routes that they had and no other, and no state of any twin changes. --/
theorem follow_owners_isolated (identities : IdentityTable) (ids : IdSource) (notifyChannel : Option String)
    (turns : List Turn) (faults : FaultPlan) (clock : Clock) (op : Operation) (token : String)
    (hop : op.writer? = some token) :
    let hub := { (Hub.new identities ids notifyChannel).follow turns with faults }
    let after := perform clock op hub
    (∀ e, (outcome (identify token) hub).1 = .error e → after.1 = .error e ∧ Untouched hub after.2) ∧
    ∀ owner, (outcome (identify token) hub).1 = .ok owner →
      Isolated owner hub after.2 ∧
      ∀ twin ∈ hub.twins.toList, twin.owner ≠ owner → after.2.twins.get? twin.id = some twin := by
  intro hub after
  have hq : Quiet hub := ((Quiet.new identities ids notifyChannel).follow turns).due faults
  have hs : Sourced hub := ((Sourced.new identities ids notifyChannel).follow (Quiet.new ..) turns).due faults
  refine ⟨fun e he => ?_, fun owner ho => ?_⟩
  · have failed := writer_unidentified hq hop he clock
    have change : op.isChange = true := by cases op <;> first | rfl | cases hop
    exact ⟨failed, change_error hq change failed⟩
  · obtain ⟨hs', isolated⟩ := hs.perform_isolated hq hop (identify_of_outcome ho) clock
    refine ⟨isolated, fun twin ht hne => ?_⟩
    have kept : twin ∈ after.2.twins.foreignTo owner := isolated.twins ▸ TwinStore.mem_foreignTo.mpr ⟨ht, hne⟩
    exact hs'.store.get?_eq_some.mpr ⟨(TwinStore.mem_foreignTo.mp kept).1, rfl⟩

/-- Bob updates his twin and passes it in as Ann's, at a revision of his choice. --/
theorem follow_owners_isolated_forged_twin :
    let given : Twin := ⟨"", "", "pump", [], ⟨0, 0⟩, ⟨0, 0⟩, 0, []⟩
    let forged : Twin := ⟨"u", "ann", "pump", [], ⟨9, 0⟩, ⟨9, 0⟩, 7, []⟩
    let flow : Attribute := ⟨"flow", "plant", "a", true⟩
    let heat : Attribute := ⟨"heat", "plant", "b", true⟩
    let turns : List Turn :=
      [⟨.empty, .at ⟨1, 0⟩, .add "anns" given ⟨0, ⟨0, 0⟩, [flow]⟩⟩,
        ⟨.empty, .at ⟨2, 0⟩, .add "bobs" given ⟨0, ⟨0, 0⟩, []⟩⟩]
    let hub := { (Hub.new ⟨[("anns", "ann"), ("bobs", "bob")]⟩ ⟨fun n => if n = 0 then "t" else "u", 0⟩ none).follow
      turns with faults := .empty }
    let after := perform (.at ⟨3, 0⟩) (.update "bobs" forged ⟨4, ⟨9, 0⟩, [heat]⟩) hub
    (hub.twins.foreignTo "bob").map (·.id) = ["t"] ∧ after.1.isOk = true ∧ Isolated "bob" hub after.2 ∧
      after.2.routes.get? ⟨"plant", "a"⟩ = some ⟨"t", flow, 0⟩ ∧
      after.2.routes.get? ⟨"plant", "b"⟩ = some ⟨"u", heat, 1⟩ := by
  intro given forged flow heat turns hub after
  have found : (outcome (identify "bobs") hub).1 = .ok "bob" := by decide +kernel
  have isolated := ((follow_owners_isolated ⟨[("anns", "ann"), ("bobs", "bob")]⟩
    ⟨fun n => if n = 0 then "t" else "u", 0⟩ none turns .empty (.at ⟨3, 0⟩)
    (.update "bobs" forged ⟨4, ⟨9, 0⟩, [heat]⟩) "bobs" rfl).2 "bob" found).1
  exact ⟨by decide +kernel, by decide +kernel, isolated, by decide +kernel, by decide +kernel⟩

/-! ### What an owner sees -/

/-- Two hubs that the same tokens open to an owner, with the same twins of the owner in the same order and
    the same histories of these. All else may differ. -/
structure Alike (owner : String) (hub hub' : Hub) : Prop where
  tokens : ∀ token, hub.identities.identify token = .ok owner ↔ hub'.identities.identify token = .ok owner
  twins : hub.twins.ownedBy owner = hub'.twins.ownedBy owner
  histories : ∀ twin ∈ hub.twins.ownedBy owner, hub.states.history twin.id = hub'.states.history twin.id

theorem turn_view (hi : hub.identities.identify token = .ok owner) (clock : Clock) (id : String) :
    (hub.turn ⟨.empty, clock, .view token id⟩).1 =
      match hub.twins.own? owner id with
      | some twin => .ok (.twin twin)
      | none => .error .notFound := by
  show (outcome (viewTwin token id) { hub with faults := .empty }).1.map Reply.twin = _
  unfold outcome TwinStore.own?
  rw [viewTwin_of_empty rfl]
  dsimp only
  rw [hi]
  cases hub.twins.get? id with
  | none => rfl
  | some twin => by_cases ho : twin.owner = owner <;> simp [ho, Option.filter, Except.map]

theorem turn_list (hi : hub.identities.identify token = .ok owner) (clock : Clock) (offset limit : Nat)
    (name : Option String) (metadata : Option JsonFields) :
    (hub.turn ⟨.empty, clock, .list token offset limit name metadata⟩).1 =
      .ok (.twins (.slice ((hub.twins.ownedBy owner).filter fun twin =>
        name.all twin.nameContains && metadata.all twin.hasMetadata) offset limit)) := by
  show (outcome (listTwins token offset limit name metadata) { hub with faults := .empty }).1.map Reply.twins = _
  unfold outcome
  rw [listTwins_of_empty rfl]
  dsimp only
  rw [hi, ← TwinStore.filter_accepts]
  rfl

theorem turn_states (hi : hub.identities.identify token = .ok owner) (clock : Clock) (id : String)
    (offset limit : Nat) :
    (hub.turn ⟨.empty, clock, .states token id offset limit⟩).1 =
      match hub.twins.own? owner id with
      | some _ => .ok (.states (.slice (hub.states.history id) offset limit))
      | none => .ok (.states (.empty offset limit)) := by
  show (outcome (listStates token id offset limit) { hub with faults := .empty }).1.map Reply.states = _
  unfold outcome TwinStore.own?
  rw [listStates_of_empty rfl]
  dsimp only
  rw [hi]
  cases hub.twins.get? id with
  | none => rfl
  | some twin => by_cases ho : twin.owner = owner <;> simp [ho, Option.filter, Except.map, StateStore.page]

/-- What an owner reads while nothing fails does not depend on anything that others have stored: neither a
    result, nor a total, nor the error for a twin that is missing or not the owner's. --/
theorem turn_read_alike (h : hub.twins.WellFormed) (h' : hub'.twins.WellFormed) (alike : Alike owner hub hub')
    (hop : op.reader? = some token) (hi : hub.identities.identify token = .ok owner) (clock clock' : Clock) :
    (hub.turn ⟨.empty, clock, op⟩).1 = (hub'.turn ⟨.empty, clock', op⟩).1 := by
  have hi' := (alike.tokens token).mp hi
  have same := TwinStore.own?_congr h h' alike.twins
  cases op with
  | view token' id =>
    cases hop
    rw [turn_view hi, turn_view hi', same]
  | list token' offset limit name metadata =>
    cases hop
    rw [turn_list hi, turn_list hi', alike.twins]
  | states token' id offset limit =>
    cases hop
    rw [turn_states hi, turn_states hi', same]
    cases ho : hub'.twins.own? owner id with
    | none => rfl
    | some twin =>
      obtain ⟨hm, hid⟩ := h'.own?_eq_some.mp ho
      have history := alike.histories twin (alike.twins ▸ hm)
      rw [hid] at history
      dsimp only
      rw [history]
  | add | update | remove | save | saveAll | receive | restore | restart | seedTwin | seedState | plan => cases hop

/-- Ann sees the same of her twin whether or not Bob has stored one before hers, with a state and under a name
    that she asks for. --/
theorem turn_read_alike_crowded :
    let anns : Twin := ⟨"t", "ann", "pump", [], ⟨1, 0⟩, ⟨1, 0⟩, 0, [⟨0, ⟨1, 0⟩, []⟩]⟩
    let bobs : Twin := ⟨"u", "bob", "pump", [], ⟨0, 0⟩, ⟨0, 0⟩, 0, [⟨0, ⟨0, 0⟩, []⟩]⟩
    let start := Hub.new ⟨[("anns", "ann"), ("bobs", "bob")]⟩ ⟨fun _ => "v", 0⟩ none
    let lone : Hub := { start with twins := ⟨1, ⟨[("t", 0)]⟩, [(0, anns)]⟩ }
    let crowded : Hub := { start with
      twins := ⟨2, ⟨[("u", 0), ("t", 1)]⟩, [(0, bobs), (1, anns)]⟩
      states := ⟨⟨[("u", [⟨"u", 0, 0, ⟨2, 0⟩, []⟩])]⟩⟩ }
    let listing : Operation := .list "anns" 0 5 (some "pump") none
    crowded.twins.toList.length = 2 ∧
      (crowded.turn ⟨.empty, .at ⟨3, 0⟩, listing⟩).1 = (lone.turn ⟨.empty, .at ⟨4, 0⟩, listing⟩).1 := by
  intro anns bobs start lone crowded listing
  have added : TwinStore.empty.insert anns = .ok lone.twins := rfl
  have first : TwinStore.empty.insert bobs = .ok ⟨1, ⟨[("u", 0)]⟩, [(0, bobs)]⟩ := rfl
  have second : TwinStore.insert ⟨1, ⟨[("u", 0)]⟩, [(0, bobs)]⟩ anns = .ok crowded.twins := rfl
  have stored := (TwinStore.insert_ok TwinStore.wellFormed_empty added).1
  have stored' := (TwinStore.insert_ok (TwinStore.insert_ok TwinStore.wellFormed_empty first).1 second).1
  have own : crowded.twins.ownedBy "ann" = [anns] := rfl
  have alike : Alike "ann" crowded lone := by
    refine ⟨fun _ => Iff.rfl, own, fun twin ht => ?_⟩
    rw [own] at ht
    rw [List.mem_singleton.mp ht]
    rfl
  exact ⟨rfl, turn_read_alike stored' stored alike rfl rfl _ _⟩

end Hub
end DigitalTwin
