import DigitalTwin.Proofs.Effect

/-! Subscriptions under failures. Whatever calls fail, the keys that the hub holds to be subscribed and the
    handlers of its broker change together. An alignment none of whose calls fails leaves both at the
    routed keys, whatever earlier ones have missed. -/

namespace DigitalTwin

/-! ### Calls that went through -/

namespace SubscriptionCall

variable {active : List RouteKey}

theorem settle_unsubscribes (keys : List RouteKey) (hn : active.Nodup) :
    ((keys.map unsubscribe).foldl settle active).Nodup ∧
      ∀ key, key ∈ (keys.map unsubscribe).foldl settle active ↔ key ∈ active ∧ key ∉ keys := by
  induction keys generalizing active with
  | nil => exact ⟨hn, fun key => by simp⟩
  | cons k rest ih =>
    obtain ⟨hn', hm⟩ := ih (hn.erase k)
    refine ⟨hn', fun key => (hm key).trans ?_⟩
    rw [hn.mem_erase_iff, List.mem_cons, not_or, and_comm (a := key ≠ k), and_assoc]

theorem settle_subscribes (keys : List RouteKey) (hn : active.Nodup) :
    ((keys.map subscribe).foldl settle active).Nodup ∧
      ∀ key, key ∈ (keys.map subscribe).foldl settle active ↔ key ∈ active ∨ key ∈ keys := by
  induction keys generalizing active with
  | nil => exact ⟨hn, fun key => by simp⟩
  | cons k rest ih =>
    obtain ⟨hn', hm⟩ := ih (hn.insert (a := k))
    refine ⟨hn', fun key => (hm key).trans ?_⟩
    rw [List.mem_insert_iff, List.mem_cons, or_comm (a := key = k), or_assoc]

/-- With all calls made, the wanted keys are active and no others. --/
theorem settle_pending (hn : active.Nodup) (wanted : List RouteKey) :
    ((pending active wanted).foldl settle active).Nodup ∧
      ∀ key, key ∈ (pending active wanted).foldl settle active ↔ key ∈ wanted := by
  unfold pending
  rw [List.foldl_append]
  obtain ⟨hn₁, hm₁⟩ := settle_unsubscribes (RouteKey.difference active wanted) hn
  obtain ⟨hn₂, hm₂⟩ := settle_subscribes (RouteKey.difference wanted active) hn₁
  refine ⟨hn₂, fun key => (hm₂ key).trans ?_⟩
  rw [hm₁, RouteKey.mem_difference, RouteKey.mem_difference]
  by_cases ha : key ∈ active <;> by_cases hw : key ∈ wanted <;> simp [ha, hw]

/-- Of calls with their outcomes, those that went through. -/
def succeeded (outcomes : List (SubscriptionCall × Bool)) : List SubscriptionCall :=
  (outcomes.filter (·.2)).map (·.1)

theorem succeeded_of_all {outcomes : List (SubscriptionCall × Bool)} (h : ∀ p ∈ outcomes, p.2 = true) :
    succeeded outcomes = outcomes.map (·.1) := by
  unfold succeeded
  rw [List.filter_eq_self.mpr h]

end SubscriptionCall

/-! ### The hub's list and the broker's table -/

namespace Broker

variable {b : Broker Unit} {active : List RouteKey}

/-- The broker has handlers on the active keys and on no others. -/
structure Serves (b : Broker Unit) (active : List RouteKey) : Prop where
  nodup : active.Nodup
  handlers : b.handlers.keys.Nodup
  mem_iff : ∀ key, key ∈ active ↔ key ∈ b.handlers.keys

theorem serves_empty : (empty : Broker Unit).Serves [] :=
  ⟨List.nodup_nil, List.nodup_nil, fun _ => Iff.rfl⟩

namespace Serves

theorem settle (h : b.Serves active) (call : SubscriptionCall) : (b.settle call).Serves (call.settle active) := by
  cases call with
  | subscribe key =>
    refine ⟨h.nodup.insert, Table.nodup_keys_insert h.handlers key (), fun k => ?_⟩
    show k ∈ active.insert key ↔ k ∈ (b.handlers.insert key ()).keys
    rw [List.mem_insert_iff, Table.mem_keys_insert, h.mem_iff]
  | unsubscribe key =>
    refine ⟨h.nodup.erase key, Table.nodup_keys_erase h.handlers key, fun k => ?_⟩
    show k ∈ active.erase key ↔ k ∈ (b.handlers.erase key).keys
    rw [h.nodup.mem_erase_iff, Table.mem_keys_erase, h.mem_iff]

theorem settleAll (calls : List SubscriptionCall) (h : b.Serves active) :
    (calls.foldl Broker.settle b).Serves (calls.foldl SubscriptionCall.settle active) := by
  induction calls generalizing b active with
  | nil => exact h
  | cons call rest ih => exact ih (h.settle call)

/-- What the hub and its broker tell of their subscriptions is the same. --/
theorem subscriptions_eq (h : b.Serves active) : b.subscriptions = RouteKey.sorted active :=
  RouteKey.sorted_congr h.handlers h.nodup fun key => (h.mem_iff key).symm

end Serves
end Broker

namespace Hub

open SubscriptionCall

variable {hub hub' hub'' : Hub} {outcomes : List (SubscriptionCall × Bool)} {published : List (Message × Bool)}

/-! ### What is asked of the transport -/

/-- The transport was asked for some changes of subscriptions and then for some publications. Those of the
    changes that went through are in force, and nothing else has changed the subscriptions. -/
structure Fared (outcomes : List (SubscriptionCall × Bool)) (published : List (Message × Bool))
    (hub hub' : Hub) : Prop where
  active : hub'.active = (succeeded outcomes).foldl settle hub.active
  broker : hub'.broker = (succeeded outcomes).foldl Broker.settle hub.broker
  calls : hub'.calls = hub.calls ++ outcomes.map (fun p => .subscription p.1 p.2) ++
    published.map fun p => .publish p.1 p.2
  notifyChannel : hub'.notifyChannel = hub.notifyChannel

namespace Fared

/-- Nothing was asked of the transport. --/
theorem nothing (ha : hub'.active = hub.active) (hb : hub'.broker = hub.broker) (hc : hub'.calls = hub.calls)
    (hn : hub'.notifyChannel = hub.notifyChannel) : Fared [] [] hub hub' :=
  ⟨ha, hb, by simp [hc], hn⟩

theorem serves (h : Fared outcomes published hub hub') (hs : hub.broker.Serves hub.active) :
    hub'.broker.Serves hub'.active := by
  rw [h.active, h.broker]
  exact hs.settleAll _

/-- Publications that follow one another add up. --/
theorem trans {more : List (Message × Bool)} (h : Fared outcomes published hub hub')
    (h' : Fared [] more hub' hub'') : Fared outcomes (published ++ more) hub hub'' := by
  refine ⟨h'.active.trans h.active, h'.broker.trans h.broker, ?_, h'.notifyChannel.trans h.notifyChannel⟩
  rw [h'.calls, h.calls]
  simp

end Fared

theorem announce_fared (operation : String) (now : Instant) (r : Except ServiceError Json) (hub : Hub) :
    ∃ published, Fared [] published hub (announce operation now r hub) := by
  rcases announce_cases operation now r hub with ⟨-, ha⟩ | ⟨channel, -, ha⟩ <;> rw [ha]
  · exact ⟨[], .nothing rfl rfl rfl rfl⟩
  · exact ⟨[(notification channel operation now r, (hub.faults.outcome? .publish 0).isNone)], rfl, rfl, by simp, rfl⟩

theorem Fared.announce (h : Fared outcomes [] hub hub') (operation : String) (now : Instant)
    (r : Except ServiceError Json) : ∃ published, Fared outcomes published hub (Hub.announce operation now r hub') := by
  obtain ⟨published, hp⟩ := announce_fared operation now r hub'
  exact ⟨published, h.trans hp⟩

theorem perform_attempt (calls : List SubscriptionCall) (active : List RouteKey) (hub : Hub) :
    ∃ outcomes faults, outcomes.map (·.1) = calls ∧
      SubscriptionCall.perform attempt calls active hub =
        ((succeeded outcomes).foldl settle active,
          { hub with
            faults
            broker := (succeeded outcomes).foldl Broker.settle hub.broker
            calls := hub.calls ++ outcomes.map fun p => .subscription p.1 p.2 }) := by
  induction calls generalizing active hub with
  | nil => exact ⟨[], hub.faults, rfl, by simp [SubscriptionCall.perform, succeeded]⟩
  | cons call rest ih =>
    unfold SubscriptionCall.perform
    rcases attempt_cases call hub with ⟨faults, ha⟩ | ⟨faults, ha⟩
    · obtain ⟨outcomes, faults', ho, hp⟩ := ih active
        { hub with faults, calls := hub.calls ++ [.subscription call false] }
      refine ⟨(call, false) :: outcomes, faults', by simp [ho], ?_⟩
      simp [ha, hp, succeeded]
    · obtain ⟨outcomes, faults', ho, hp⟩ := ih (call.settle active)
        { hub with faults, broker := hub.broker.settle call, calls := hub.calls ++ [.subscription call true] }
      refine ⟨(call, true) :: outcomes, faults', by simp [ho], ?_⟩
      simp [ha, hp, succeeded]

/-- An alignment makes the calls that are pending, whatever each of them comes to. --/
theorem alignSubscriptions_fared (hub : Hub) :
    ∃ outcomes, Fared outcomes [] hub (alignSubscriptions hub) ∧
      outcomes.map (·.1) = pending hub.active (alignSubscriptions hub).routes.keys := by
  obtain ⟨outcomes, faults, ho, hp⟩ := perform_attempt (pending hub.active hub.routes.keys) hub.active hub
  have ha : alignSubscriptions hub = { hub with
      faults
      active := (succeeded outcomes).foldl settle hub.active
      broker := (succeeded outcomes).foldl Broker.settle hub.broker
      calls := hub.calls ++ outcomes.map fun p => .subscription p.1 p.2 } := by
    unfold alignSubscriptions
    rw [hp]
  rw [ha]
  exact ⟨outcomes, ⟨rfl, rfl, by simp, rfl⟩, ho⟩

/-- With all pending calls made, the routed keys are subscribed and no others. --/
theorem Fared.settled (h : Fared outcomes published hub hub') (hs : hub.broker.Serves hub.active)
    (hp : outcomes.map (·.1) = pending hub.active hub'.routes.keys) (hn : hub'.routes.keys.Nodup)
    (hall : ∀ call, .subscription call false ∉ outcomes.map fun p => TransportCall.subscription p.1 p.2) :
    RouteKey.sorted hub'.active = RouteKey.sorted hub'.routes.keys := by
  have all : ∀ p ∈ outcomes, p.2 = true := by
    rintro ⟨call, ok⟩ hm
    cases ok with
    | true => rfl
    | false => exact absurd (List.mem_map.mpr ⟨_, hm, rfl⟩) (hall call)
  have active : hub'.active = (pending hub.active hub'.routes.keys).foldl settle hub.active := by
    rw [h.active, succeeded_of_all all, hp]
  obtain ⟨hn', hm⟩ := settle_pending hs.nodup hub'.routes.keys
  rw [active]
  exact RouteKey.sorted_congr hn' hn hm

/-! ### Operations and the transport -/

/-- An operation has changed what is to be routed: a twin was added, revised or taken out, or the stored
    twins were routed anew. -/
def TakesEffect (op : Operation) (hub : Hub) (after : Except ServiceError Reply × Hub) : Prop :=
  match op with
  | .add .. | .update .. | .restore => ∃ reply, after.1 = .ok reply
  | .remove _ id => hub.twins.get? id ≠ none ∧ after.2.twins.get? id = none
  | _ => False

/-- The transport was left alone, which is so only if `still` holds, or asked for all that is pending. -/
def Asked (still : Prop) (outcomes : List (SubscriptionCall × Bool)) (hub hub' : Hub) : Prop :=
  outcomes = [] ∧ still ∨ outcomes.map (·.1) = pending hub.active hub'.routes.keys

theorem Asked.imp {still still' : Prop} (h : Asked still outcomes hub hub') (hs : still → still')
    (hr : hub''.routes = hub'.routes) : Asked still' outcomes hub hub'' := by
  rcases h with ⟨ho, h⟩ | ho
  · exact Or.inl ⟨ho, hs h⟩
  · exact Or.inr (hr ▸ ho)

theorem untouched_fared {still : Prop} (hs : still) (ha : hub'.active = hub.active) (hb : hub'.broker = hub.broker)
    (hc : hub'.calls = hub.calls) (hn : hub'.notifyChannel = hub.notifyChannel) :
    ∃ outcomes, Fared outcomes [] hub hub' ∧ Asked still outcomes hub hub' :=
  ⟨[], .nothing ha hb hc hn, Or.inl ⟨rfl, hs⟩⟩

theorem aligned_fared {still : Prop} (ha : hub'.active = hub.active) (hb : hub'.broker = hub.broker)
    (hc : hub'.calls = hub.calls) (hn : hub'.notifyChannel = hub.notifyChannel) :
    ∃ outcomes, Fared outcomes [] hub (alignSubscriptions hub') ∧
      Asked still outcomes hub (alignSubscriptions hub') := by
  obtain ⟨outcomes, hf, hp⟩ := alignSubscriptions_fared hub'
  exact ⟨outcomes, ⟨ha ▸ hf.active, hb ▸ hf.broker, hc ▸ hf.calls, hn ▸ hf.notifyChannel⟩, Or.inr (ha ▸ hp)⟩

theorem register_fared (token : String) (given : Twin) (d : Definition) (now : Instant) (hub : Hub) :
    let after := outcome (register token given d now) hub
    ∃ outcomes, Fared outcomes [] hub after.2 ∧ Asked (∃ e, after.1 = .error e) outcomes hub after.2 := by
  unfold outcome
  rcases register_cases token given d now hub with ⟨e, faults, ids, -, hr⟩ | ⟨owner, faults, twins, -, -, -, -, hr⟩ <;>
    rw [hr]
  · exact untouched_fared ⟨e, rfl⟩ rfl rfl rfl rfl
  · exact aligned_fared rfl rfl rfl rfl

theorem revise_fared (token : String) (given : Twin) (d : Definition) (now : Instant) (hub : Hub) :
    let after := outcome (revise token given d now) hub
    ∃ outcomes, Fared outcomes [] hub after.2 ∧ Asked (∃ e, after.1 = .error e) outcomes hub after.2 := by
  unfold outcome
  rcases revise_cases token given d now hub with
    ⟨e, faults, hr⟩ | ⟨owner, current, faults, twins, -, -, -, -, -, -, hr⟩ <;> rw [hr]
  · exact untouched_fared ⟨e, rfl⟩ rfl rfl rfl rfl
  · exact aligned_fared rfl rfl rfl rfl

theorem unregister_fared (token id : String) (hub : Hub) :
    let after := outcome (unregister token id) hub
    ∃ outcomes, Fared outcomes [] hub after.2 ∧ Asked (after.2.twins = hub.twins) outcomes hub after.2 := by
  unfold outcome
  rcases unregister_cases token id hub with ⟨e, faults, hr⟩ | ⟨faults, hr⟩ | ⟨owner, twin, faults, -, -, -, hr⟩ <;>
    rw [hr]
  · exact untouched_fared rfl rfl rfl rfl rfl
  · exact untouched_fared rfl rfl rfl rfl rfl
  · exact aligned_fared rfl rfl rfl rfl

theorem restore_fared (hub : Hub) :
    let after := outcome restore hub
    ∃ outcomes, Fared outcomes [] hub after.2 ∧ Asked (∃ e, after.1 = .error e) outcomes hub after.2 := by
  unfold outcome
  rcases restore_cases hub with ⟨e, -, hr⟩ | ⟨-, hr⟩ <;> rw [hr]
  · exact untouched_fared ⟨e, rfl⟩ rfl rfl rfl rfl
  · exact aligned_fared rfl rfl rfl rfl

theorem recordStates_fared (clock : Clock) (m : Message) (hub : Hub) :
    Fared [] [] hub (outcome (recordStates clock m) hub).2 := by
  obtain ⟨faults, states, hs, -⟩ := (recordStates_recording clock m hub).added
  rw [hs]
  exact .nothing rfl rfl rfl rfl

theorem saveStates_fared (hq : Quiet hub) (clock : Clock) (m : Message) :
    ∃ published, Fared [] published hub (outcome (saveStates clock m) hub).2 := by
  rw [outcome_saveStates hq]
  exact (recordStates_fared clock m hub).announce _ _ _

theorem saveAll_fared (clock : Clock) (ms : List Message) (hq : Quiet hub) :
    ∃ published, Fared [] published hub (saveAll clock ms hub).2 := by
  induction ms generalizing hub with
  | nil => exact ⟨[], .nothing rfl rfl rfl rfl⟩
  | cons m rest ih =>
    obtain ⟨published, h⟩ := saveStates_fared hq clock m
    obtain ⟨more, h'⟩ := ih (hq.saveStates clock m)
    exact ⟨published ++ more, h.trans h'⟩

theorem not_ok_of_error {α : Type} {r : Except ServiceError α} {make : α → Reply}
    (h : ∃ e, r = .error e) : ¬∃ reply, r.map make = .ok reply := by
  rintro ⟨reply, hr⟩
  obtain ⟨e, rfl⟩ := h
  cases hr

/-- An operation leaves the subscriptions alone, unless it takes effect: then it brings them in line. --/
theorem perform_fared (hq : Quiet hub) (clock : Clock) {op : Operation} (hop : ∀ channel, op ≠ .restart channel) :
    let after := perform clock op hub
    ∃ outcomes published, Fared outcomes published hub after.2 ∧
      Asked (¬TakesEffect op hub after) outcomes hub after.2 := by
  cases op with
  | add token given d =>
    obtain ⟨outcomes, hf, ha⟩ := register_fared token given d clock.start hub
    rw [perform_add hq clock]
    obtain ⟨published, hp⟩ := hf.announce "addTwin" clock.start _
    exact ⟨outcomes, published, hp, ha.imp not_ok_of_error (announce_same _ _ _ _).routes⟩
  | update token given d =>
    obtain ⟨outcomes, hf, ha⟩ := revise_fared token given d clock.start hub
    rw [perform_update hq clock]
    obtain ⟨published, hp⟩ := hf.announce "updateTwin" clock.start _
    exact ⟨outcomes, published, hp, ha.imp not_ok_of_error (announce_same _ _ _ _).routes⟩
  | remove token id =>
    obtain ⟨outcomes, hf, ha⟩ := unregister_fared token id hub
    rw [perform_remove hq clock]
    obtain ⟨published, hp⟩ := hf.announce "removeTwin" clock.start _
    refine ⟨outcomes, published, hp, ha.imp ?_ (announce_same _ _ _ _).routes⟩
    rintro ht ⟨hne, hnone⟩
    rw [(announce_same _ _ _ _).twins, ht] at hnone
    exact hne hnone
  | restore =>
    obtain ⟨outcomes, hf, ha⟩ := restore_fared hub
    rw [perform_restore clock]
    exact ⟨outcomes, [], hf, ha.imp not_ok_of_error rfl⟩
  | save m =>
    obtain ⟨published, hp⟩ := saveStates_fared hq clock m
    exact ⟨[], published, hp, Or.inl ⟨rfl, id⟩⟩
  | saveAll ms =>
    obtain ⟨published, hp⟩ := saveAll_fared clock ms hq
    exact ⟨[], published, hp, Or.inl ⟨rfl, id⟩⟩
  | receive m =>
    obtain ⟨published, hp⟩ := saveStates_fared hq clock m
    show ∃ outcomes published, Fared outcomes published hub (receive clock m hub) ∧ _
    rw [receive_eq hq]
    split
    · exact ⟨[], published, hp, Or.inl ⟨rfl, id⟩⟩
    · exact ⟨[], [], .nothing rfl rfl rfl rfl, Or.inl ⟨rfl, id⟩⟩
  | view token id =>
    obtain ⟨faults, hf⟩ := viewTwin_frame token id hub
    exact ⟨[], [], hf ▸ .nothing rfl rfl rfl rfl, Or.inl ⟨rfl, fun h => h⟩⟩
  | list token offset limit name metadata =>
    obtain ⟨faults, hf⟩ := listTwins_frame token offset limit name metadata hub
    exact ⟨[], [], hf ▸ .nothing rfl rfl rfl rfl, Or.inl ⟨rfl, fun h => h⟩⟩
  | states token id offset limit =>
    obtain ⟨faults, hf⟩ := listStates_frame token id offset limit hub
    exact ⟨[], [], hf ▸ .nothing rfl rfl rfl rfl, Or.inl ⟨rfl, fun h => h⟩⟩
  | restart channel => exact absurd rfl (hop channel)
  | seedTwin twin =>
    unfold Hub.perform
    dsimp only
    split <;> exact ⟨[], [], .nothing rfl rfl rfl rfl, Or.inl ⟨rfl, fun h => h⟩⟩
  | seedState state => exact ⟨[], [], .nothing rfl rfl rfl rfl, Or.inl ⟨rfl, fun h => h⟩⟩
  | plan point failure skip times => exact ⟨[], [], .nothing rfl rfl rfl rfl, Or.inl ⟨rfl, fun h => h⟩⟩

/-! ### Runs -/

/-- What a hub keeps of its subscriptions: its list is that of the broker, and no key is routed twice. -/
structure Tracked (hub : Hub) : Prop where
  serves : hub.broker.Serves hub.active
  routes : hub.routes.keys.Nodup

namespace Tracked

theorem restart (notifyChannel : Option String) (hub : Hub) : Tracked (hub.restart notifyChannel) :=
  ⟨Broker.serves_empty, List.nodup_nil⟩

theorem nodup_routes {clock : Clock} {op : Operation} (h : hub.routes.keys.Nodup) (he : Effect clock op hub hub') :
    hub'.routes.keys.Nodup := by
  cases he with
  | transport same => exact same.routes ▸ h
  | add => exact RouteTable.nodup_keys_insert h _
  | update => exact RouteTable.nodup_keys_insert h _
  | remove => exact RouteTable.nodup_keys_erase h _
  | restore => exact RouteTable.nodup_keys_ofTwins _ _
  | restart => exact List.nodup_nil
  | issue | record | seedTwin | seedState => exact h

theorem turn (h : Tracked hub) (hq : Quiet hub) (t : Turn) : Tracked (hub.turn t).2 := by
  refine ⟨?_, (Effects.turn hq t).keeps (P := fun hub => hub.routes.keys.Nodup) h.routes fun _ _ he hn =>
    nodup_routes hn he⟩
  by_cases hop : ∃ channel, t.op = .restart channel
  · obtain ⟨channel, hop⟩ := hop
    unfold Hub.turn
    rw [hop]
    exact Broker.serves_empty
  · obtain ⟨outcomes, published, hf, -⟩ := perform_fared (hq.due t.faults) t.clock (not_exists.mp hop)
    exact hf.serves h.serves

theorem follow (h : Tracked hub) (hq : Quiet hub) (turns : List Turn) : Tracked (hub.follow turns) := by
  induction turns generalizing hub with
  | nil => exact h
  | cons t rest ih => exact ih (h.turn hq t) (hq.turn t)

end Tracked

/-- From a hub that was started over any stores, through any failures: what the hub and its broker tell of
    their subscriptions is the same at all times, and when an operation takes effect and none of its own
    calls for subscriptions fails, it is the routed keys, whatever calls have failed before. --/
theorem follow_subscriptions_converge (stored : Hub) (notifyChannel : Option String) (turns : List Turn) :
    let hub := (stored.restart notifyChannel).follow turns
    hub.broker.subscriptions = RouteKey.sorted hub.active ∧
    ∀ t, let after := hub.turn t
      ∃ made, after.2.calls = hub.calls ++ made ∧
        (TakesEffect t.op hub after → (∀ call, .subscription call false ∉ made) →
          RouteKey.sorted after.2.active = RouteKey.sorted after.2.routes.keys ∧
          after.2.broker.subscriptions = RouteKey.sorted after.2.routes.keys) := by
  intro hub
  have hq : Quiet hub := (Quiet.restart notifyChannel stored).follow turns
  have h : Tracked hub := (Tracked.restart notifyChannel stored).follow (Quiet.restart notifyChannel stored) turns
  refine ⟨h.serves.subscriptions_eq, fun t => ?_⟩
  intro after
  have h' : Tracked after.2 := h.turn hq t
  -- A new start leaves the old broker behind and asks nothing of the new one.
  by_cases hop : ∃ channel, t.op = .restart channel
  · obtain ⟨channel, hop⟩ := hop
    refine ⟨[], ?_, ?_⟩
    · show (perform t.clock t.op { hub with faults := t.faults }).2.calls = _
      rw [hop]
      exact (List.append_nil _).symm
    · rw [hop]
      exact False.elim
  · obtain ⟨outcomes, published, hf, ha⟩ := perform_fared (hq.due t.faults) t.clock (not_exists.mp hop)
    refine ⟨_, hf.calls.trans (List.append_assoc _ _ _), fun ht hall => ?_⟩
    have hp : outcomes.map (·.1) = pending hub.active after.2.routes.keys := by
      rcases ha with ⟨-, hn⟩ | hp
      · exact absurd ht hn
      · exact hp
    have settled := hf.settled h.serves hp h'.routes fun call hm => hall call (List.mem_append_left _ hm)
    exact ⟨settled, h'.serves.subscriptions_eq.trans settled⟩

set_option maxRecDepth 4000 in
/-- A key was given up and another claimed while the transport was down, so one subscription is stale and
    one is missing. The stale one is wanted again by a second twin, and adding that makes up for both. --/
theorem follow_subscriptions_converge_reclaimed_key :
    let given : Twin := ⟨"t", "", "pump", [], ⟨0, 0⟩, ⟨0, 0⟩, 0, []⟩
    let flow : Attribute := ⟨"flow", "plant", "a", true⟩
    let heat : Attribute := ⟨"heat", "plant", "b", true⟩
    let down : Phase := ⟨1, some (.transport "down")⟩
    let stored := Hub.new ⟨[("token", "ann")]⟩ ⟨fun n => if n = 0 then "t" else "u", 0⟩ none
    let turns : List Turn :=
      [⟨.empty, .at ⟨1, 0⟩, .add "token" given ⟨0, ⟨0, 0⟩, [flow]⟩⟩,
        ⟨⟨[(.subscribe, [down]), (.unsubscribe, [down])]⟩, .at ⟨2, 0⟩, .update "token" given ⟨0, ⟨0, 0⟩, [heat]⟩⟩]
    let hub := (stored.restart none).follow turns
    let after := hub.turn ⟨.empty, .at ⟨3, 0⟩, .add "token" given ⟨0, ⟨0, 0⟩, [flow]⟩⟩
    hub.broker.subscriptions = [⟨"plant", "a"⟩] ∧ hub.routes.keys = [⟨"plant", "b"⟩] ∧
      after.2.routes.keys = [⟨"plant", "b"⟩, ⟨"plant", "a"⟩] ∧
      after.2.broker.subscriptions = RouteKey.sorted after.2.routes.keys := by
  intro given flow heat down stored turns hub after
  obtain ⟨-, converge⟩ := follow_subscriptions_converge stored none turns
  obtain ⟨made, hcalls, hmade⟩ := converge ⟨.empty, .at ⟨3, 0⟩, .add "token" given ⟨0, ⟨0, 0⟩, [flow]⟩⟩
  have effect : TakesEffect (.add "token" given ⟨0, ⟨0, 0⟩, [flow]⟩) hub after := by
    have ok : after.1.isOk = true := by decide +kernel
    cases h : after.1 with
    | ok reply => exact ⟨reply, h⟩
    | error e =>
      rw [h] at ok
      cases ok
  have calls : hub.calls ++ made = hub.calls ++ [.subscription (.subscribe ⟨"plant", "b"⟩) true] :=
    hcalls.symm.trans (by decide +kernel)
  obtain rfl := List.append_cancel_left calls
  have unfailed : ∀ call, TransportCall.subscription call false ∉
      [TransportCall.subscription (.subscribe ⟨"plant", "b"⟩) true] := by simp
  have settled := (hmade effect unfailed).2
  refine ⟨by decide +kernel, by decide +kernel, by decide +kernel, ?_⟩
  rw [settled]

end Hub
end DigitalTwin
