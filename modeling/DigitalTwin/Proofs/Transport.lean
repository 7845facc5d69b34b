import DigitalTwin.Proofs.Ingestion
import DigitalTwin.Proofs.RouteTable

/-! What the hub's dealings with its transport leave as it was. Aligning the subscriptions touches the
    transport only. Nothing is ever routed from the notification channel or subscribed on it (`Quiet`), so
    a notification finds no handler, and announcing how an operation ended does nothing else. -/

namespace DigitalTwin

/-! ### Making calls -/

/-- What holds before the calls are made and is kept by each of them holds behind them. --/
theorem SubscriptionCall.perform_induction {σ : Type} {P : List RouteKey → σ → Prop}
    (attempt : SubscriptionCall → σ → Bool × σ) (calls : List SubscriptionCall) {active : List RouteKey} {s : σ}
    (h : P active s)
    (hcall : ∀ call ∈ calls, ∀ active s, P active s →
      P (if (attempt call s).1 then call.settle active else active) (attempt call s).2) :
    P (perform attempt calls active s).1 (perform attempt calls active s).2 := by
  induction calls generalizing active s with
  | nil => exact h
  | cons call rest ih =>
    exact ih (hcall call List.mem_cons_self active s h) fun c hc => hcall c (List.mem_cons_of_mem _ hc)

/-- The broker behind a call that reached it. -/
def Broker.settle (b : Broker Unit) : SubscriptionCall → Broker Unit
  | .subscribe key => b.subscribe key ()
  | .unsubscribe key => b.unsubscribe key

namespace Hub

variable {α : Type} {hub hub' : Hub} {key : RouteKey}

theorem attempt_cases (call : SubscriptionCall) (hub : Hub) :
    (∃ faults, attempt call hub = (false, { hub with faults, calls := hub.calls ++ [.subscription call false] })) ∨
      ∃ faults, attempt call hub =
        (true, { hub with
          faults, broker := hub.broker.settle call, calls := hub.calls ++ [.subscription call true] }) := by
  unfold attempt
  cases call <;> dsimp only <;> split
  · exact Or.inl ⟨_, rfl⟩
  · exact Or.inr ⟨_, rfl⟩
  · exact Or.inl ⟨_, rfl⟩
  · exact Or.inr ⟨_, rfl⟩

theorem mem_pending {active wanted : List RouteKey} {call : SubscriptionCall}
    (h : call ∈ SubscriptionCall.pending active wanted) :
    (∃ key, call = .unsubscribe key ∧ key ∈ active ∧ key ∉ wanted) ∨
      ∃ key, call = .subscribe key ∧ key ∈ wanted ∧ key ∉ active := by
  rcases List.mem_append.mp h with h | h
  · obtain ⟨key, hk, rfl⟩ := List.mem_map.mp h
    exact Or.inl ⟨key, rfl, RouteKey.mem_difference.mp hk⟩
  · obtain ⟨key, hk, rfl⟩ := List.mem_map.mp h
    exact Or.inr ⟨key, rfl, RouteKey.mem_difference.mp hk⟩

/-- Two hubs differ in their transport, what is known of it and the failures that are due at most. -/
structure SameRecords (hub hub' : Hub) : Prop where
  identities : hub'.identities = hub.identities
  ids : hub'.ids = hub.ids
  notifyChannel : hub'.notifyChannel = hub.notifyChannel
  twins : hub'.twins = hub.twins
  states : hub'.states = hub.states
  routes : hub'.routes = hub.routes

/-- Aligning the subscriptions changes the transport only, and subscribes routed keys only. -/
structure Aligned (hub hub' : Hub) : Prop where
  same : SameRecords hub hub'
  active : ∀ key ∈ hub'.active, key ∈ hub.active ∨ key ∈ hub.routes.keys
  handlers : ∀ key h, hub'.broker.handlers.get? key = some h →
    hub.broker.handlers.get? key = some h ∨ key ∈ hub.routes.keys

theorem alignSubscriptions_aligned (hub : Hub) : Aligned hub (alignSubscriptions hub) := by
  have start : Aligned hub { hub with active := hub.active } :=
    ⟨⟨rfl, rfl, rfl, rfl, rfl, rfl⟩, fun key hk => Or.inl hk, fun key h hk => Or.inl hk⟩
  have kept := SubscriptionCall.perform_induction (P := fun active s => Aligned hub { s with active }) attempt
    (SubscriptionCall.pending hub.active hub.routes.keys) start ?_
  · exact kept
  · rintro call hcall active s ⟨same, hactive, hhandlers⟩
    have same' : ∀ {active broker faults calls}, SameRecords hub { s with active, broker, faults, calls } :=
      ⟨same.identities, same.ids, same.notifyChannel, same.twins, same.states, same.routes⟩
    rcases attempt_cases call s with ⟨faults', ha⟩ | ⟨faults', ha⟩ <;> rw [ha]
    · exact ⟨same', hactive, hhandlers⟩
    · refine ⟨same', ?_, ?_⟩
      · intro key hk
        rcases mem_pending hcall with ⟨k, rfl, -, -⟩ | ⟨k, rfl, hw, -⟩
        · exact hactive key (List.mem_of_mem_erase hk)
        · rcases List.mem_insert_iff.mp hk with rfl | hk
          · exact Or.inr hw
          · exact hactive key hk
      · intro key h hk
        rcases mem_pending hcall with ⟨k, rfl, -, -⟩ | ⟨k, rfl, hw, -⟩
        · have hk : (s.broker.handlers.erase k).get? key = some h := hk
          rw [Table.get?_erase] at hk
          split at hk
          · cases hk
          · exact hhandlers key h hk
        · have hk : (s.broker.handlers.insert k ()).get? key = some h := hk
          rw [Table.get?_insert] at hk
          split at hk
          · rename_i heq
            exact Or.inr (heq ▸ hw)
          · exact hhandlers key h hk

/-! ### Announcing -/

/-- The hub when it has announced how an operation ended and nobody has heard. -/
def announce (operation : String) (now : Instant) (outcome : Except ServiceError Json) (hub : Hub) : Hub :=
  notify (fun _ hub => hub) operation now outcome hub

/-- A call that only publishes. -/
def IsPublication (call : TransportCall) : Prop := ∃ m succeeded, call = .publish m succeeded

theorem announce_cases (operation : String) (now : Instant) (outcome : Except ServiceError Json) (hub : Hub) :
    (hub.notifyChannel = none ∧ announce operation now outcome hub = hub) ∨
      ∃ channel, hub.notifyChannel = some channel ∧
        announce operation now outcome hub =
          { hub with
            faults := (hub.faults.next .publish).2
            calls := hub.calls ++
              [.publish (notification channel operation now outcome) (hub.faults.outcome? .publish 0).isNone] } := by
  unfold announce notify publish
  rw [← FaultPlan.next_fst]
  split
  · rename_i hn
    exact Or.inl ⟨hn, rfl⟩
  · rename_i channel hc
    refine Or.inr ⟨channel, hc, ?_⟩
    cases h : (hub.faults.next .publish).1 <;> simp [h]

/-- With a channel for it, every end is announced. --/
theorem announce_eq {channel : String} (hc : hub.notifyChannel = some channel) (operation : String) (now : Instant)
    (outcome : Except ServiceError Json) :
    announce operation now outcome hub =
      { hub with
        faults := (hub.faults.next .publish).2
        calls := hub.calls ++
          [.publish (notification channel operation now outcome) (hub.faults.outcome? .publish 0).isNone] } := by
  rcases announce_cases operation now outcome hub with ⟨hn, -⟩ | ⟨c, hc', ha⟩
  · rw [hc] at hn
    cases hn
  · rw [hc] at hc'
    cases hc'
    exact ha

theorem announce_frame (operation : String) (now : Instant) (outcome : Except ServiceError Json) (hub : Hub) :
    ∃ faults calls, announce operation now outcome hub = { hub with faults, calls := hub.calls ++ calls } ∧
      ∀ call ∈ calls, IsPublication call := by
  rcases announce_cases operation now outcome hub with ⟨-, ha⟩ | ⟨channel, -, ha⟩ <;> rw [ha]
  · exact ⟨hub.faults, [], by simp, by simp⟩
  · exact ⟨_, _, rfl, fun call hcall => ⟨_, _, List.mem_singleton.mp hcall⟩⟩

theorem announce_same (operation : String) (now : Instant) (outcome : Except ServiceError Json) (hub : Hub) :
    SameRecords hub (announce operation now outcome hub) := by
  obtain ⟨faults, calls, ha, -⟩ := announce_frame operation now outcome hub
  rw [ha]
  exact ⟨rfl, rfl, rfl, rfl, rfl, rfl⟩

theorem states_announce (operation : String) (now : Instant) (outcome : Except ServiceError Json) (hub : Hub) :
    (announce operation now outcome hub).states = hub.states := (announce_same operation now outcome hub).states

theorem ids_announce (operation : String) (now : Instant) (outcome : Except ServiceError Json) (hub : Hub) :
    (announce operation now outcome hub).ids = hub.ids := (announce_same operation now outcome hub).ids

/-- Nothing is routed from the notification channel, and nothing is subscribed on it. -/
structure Quiet (hub : Hub) : Prop where
  routes : ∀ key ∈ hub.routes.keys, some key.channel ≠ hub.notifyChannel
  active : ∀ key ∈ hub.active, some key.channel ≠ hub.notifyChannel
  handlers : ∀ key h, hub.broker.handlers.get? key = some h → some key.channel ≠ hub.notifyChannel

namespace Quiet

theorem congr (h : Quiet hub) (hr : hub'.routes = hub.routes) (ha : hub'.active = hub.active)
    (hb : hub'.broker = hub.broker) (hn : hub'.notifyChannel = hub.notifyChannel) : Quiet hub' := by
  refine ⟨?_, ?_, ?_⟩
  · rw [hr, hn]
    exact h.routes
  · rw [ha, hn]
    exact h.active
  · rw [hb, hn]
    exact h.handlers

theorem new (identities : IdentityTable) (ids : IdSource) (notifyChannel : Option String) :
    Quiet (Hub.new identities ids notifyChannel) :=
  ⟨fun _ hk => (nomatch hk), fun _ hk => (nomatch hk), fun _ _ hk => (nomatch hk)⟩

theorem restart (notifyChannel : Option String) (hub : Hub) : Quiet (hub.restart notifyChannel) :=
  ⟨fun _ hk => (nomatch hk), fun _ hk => (nomatch hk), fun _ _ hk => (nomatch hk)⟩

/-- Aligning subscribes routed keys only, so the routes decide. --/
theorem align (h : Quiet hub) {routes : RouteTable} {hub' : Hub} (hr : hub'.routes = routes)
    (ha : hub'.active = hub.active) (hb : hub'.broker = hub.broker) (hn : hub'.notifyChannel = hub.notifyChannel)
    (hk : ∀ key ∈ routes.keys, some key.channel ≠ hub.notifyChannel) : Quiet (alignSubscriptions hub') := by
  have al := alignSubscriptions_aligned hub'
  have hroutes : (alignSubscriptions hub').routes = routes := al.same.routes.trans hr
  have hnotify : (alignSubscriptions hub').notifyChannel = hub.notifyChannel := al.same.notifyChannel.trans hn
  refine ⟨?_, fun key hkey => ?_, fun key hd hkey => ?_⟩
  · rw [hroutes, hnotify]
    exact hk
  · rw [hnotify]
    rcases al.active key hkey with hkey | hkey
    · exact h.active key (ha ▸ hkey)
    · exact hk key (hr ▸ hkey)
  · rw [hnotify]
    rcases al.handlers key hd hkey with hkey | hkey
    · exact h.handlers key hd (hb ▸ hkey)
    · exact hk key (hr ▸ hkey)

/-- A notification finds no handler. --/
theorem handler?_eq_none (h : Quiet hub) {m : Message} (hm : some m.channel = hub.notifyChannel) :
    hub.broker.handler? m = none := by
  cases hd : hub.broker.handler? m with
  | none => rfl
  | some u => exact absurd hm (h.handlers m.key u hd)

theorem deliver_notification (h : Quiet hub) (clock : Clock) (depth : Nat) {m : Message}
    (hm : some m.channel = hub.notifyChannel) : deliver clock depth m hub = hub := by
  cases depth with
  | zero => rfl
  | succ depth =>
    unfold deliver Broker.publish Broker.deliver
    rw [h.handler?_eq_none hm]

theorem notify_eq (h : Quiet hub) (clock : Clock) (depth : Nat) (operation : String) (now : Instant)
    (outcome : Except ServiceError Json) :
    notify (deliver clock depth) operation now outcome hub = announce operation now outcome hub := by
  unfold announce notify publish
  split
  · rfl
  · rename_i channel hc
    dsimp only
    split
    · rfl
    · have quiet : Quiet { hub with
          faults := (hub.faults.next .publish).2
          calls := hub.calls ++ [.publish (notification channel operation now outcome) true] } :=
        h.congr rfl rfl rfl rfl
      exact quiet.deliver_notification clock depth hc.symm

/-- An action whose end is announced comes to what it comes to by itself, and the announcement is all
    that follows. --/
theorem outcome_announced {action : Action α} (h : Quiet (outcome action hub).2) (clock : Clock) (depth : Nat)
    (operation : String) (now : Instant) (report : α → Json) :
    outcome (announced (deliver clock depth) operation now report action) hub =
      ((outcome action hub).1,
        announce operation now ((outcome action hub).1.map report) (outcome action hub).2) := by
  unfold outcome announced at *
  cases ha : action hub with
  | ok a hub' =>
    rw [ha] at h
    exact congrArg (Prod.mk _) (notify_eq h clock depth operation now _)
  | error e hub' =>
    rw [ha] at h
    exact congrArg (Prod.mk _) (notify_eq h clock depth operation now _)

end Quiet

end Hub
end DigitalTwin
