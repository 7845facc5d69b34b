import DigitalTwin.Proofs.FaultFree
import DigitalTwin.Proofs.Notification

/-! Messages that come through the broker. While nothing fails, the subscribed keys are the routed ones at all times,
    so what the broker hands over is what the service would take, and a message does the same on either way. -/

namespace DigitalTwin
namespace Hub

variable {hub hub' : Hub}

/-! ### Subscribed and routed keys -/

/-- The hub has subscribed to the routed keys and to no others. -/
def Subscribed (hub : Hub) : Prop := ∀ key, key ∈ hub.active ↔ key ∈ hub.routes.keys

theorem subscribed_align (hf : hub.faults = .empty) (hn : hub.active.Nodup) : Subscribed (alignSubscriptions hub) := by
  obtain ⟨active, broker, calls, ha, -, hm⟩ := alignSubscriptions_of_empty hf hn
  rw [ha]
  exact hm

namespace Subscribed

theorem congr (h : Subscribed hub) (ha : hub'.active = hub.active) (hr : hub'.routes = hub.routes) :
    Subscribed hub' := by
  intro key
  rw [ha, hr]
  exact h key

theorem restart (notifyChannel : Option String) (hub : Hub) : Subscribed (hub.restart notifyChannel) :=
  fun _ => Iff.rfl

theorem announce (h : Subscribed hub) (operation : String) (now : Instant) (outcome : Except ServiceError Json) :
    Subscribed (Hub.announce operation now outcome hub) := by
  obtain ⟨faults, calls, ha, -⟩ := announce_frame operation now outcome hub
  rw [ha]
  exact h.congr rfl rfl

theorem storeAndRoute (h : Subscribed hub) (hf : hub.faults = .empty) (hn : hub.active.Nodup) (point : CallPoint)
    (store : TwinStore → Twin → Except ServiceError TwinStore) (twin : Twin) :
    (∃ e hub', Hub.storeAndRoute point store twin hub = .error e hub' ∧ Subscribed hub') ∨
      ∃ hub', Hub.storeAndRoute point store twin hub = .ok () hub' ∧ Subscribed (alignSubscriptions hub') := by
  rw [storeAndRoute_of_empty hf]
  cases hub.routes.requireFree twin with
  | error e => exact Or.inl ⟨e, hub, rfl, h⟩
  | ok u =>
    dsimp only
    cases store hub.twins twin with
    | error e => exact Or.inl ⟨e, hub, rfl, h⟩
    | ok twins => exact Or.inr ⟨_, rfl, subscribed_align hf hn⟩

theorem register (h : Subscribed hub) (hf : hub.faults = .empty) (hn : hub.active.Nodup) (token : String)
    (given : Twin) (d : Definition) (now : Instant) :
    Subscribed (outcome (Hub.register token given d now) hub).2 := by
  unfold outcome
  rw [register_of_empty hf]
  cases hub.identities.identify token with
  | error e => exact h
  | ok owner =>
    dsimp only
    cases d.requireRoutable hub.notifyChannel with
    | error e => exact h
    | ok u =>
      dsimp only
      have issued : Subscribed { hub with ids := hub.ids.rest } := h.congr rfl rfl
      rcases issued.storeAndRoute hf hn .saveTwin TwinStore.insert (given.enrolled d hub.ids.next owner now) with
        ⟨e, after, hs, ha⟩ | ⟨after, hs, ha⟩ <;> rw [hs] <;> exact ha

theorem revise (h : Subscribed hub) (hf : hub.faults = .empty) (hn : hub.active.Nodup) (token : String)
    (given : Twin) (d : Definition) (now : Instant) : Subscribed (outcome (Hub.revise token given d now) hub).2 := by
  unfold outcome
  rw [revise_of_empty hf]
  cases hub.identities.identify token with
  | error e => exact h
  | ok owner =>
    dsimp only
    cases hub.twins.get? given.id with
    | none => exact h
    | some current =>
      dsimp only
      by_cases ho : current.owner ≠ owner
      · rw [if_pos ho]
        exact h
      · rw [if_neg ho]
        cases d.requireRoutable hub.notifyChannel with
        | error e => exact h
        | ok u =>
          dsimp only
          rcases h.storeAndRoute hf hn .updateTwin TwinStore.replace (current.revised given d now) with
            ⟨e, after, hs, ha⟩ | ⟨after, hs, ha⟩ <;> rw [hs] <;> exact ha

theorem unregister (h : Subscribed hub) (hf : hub.faults = .empty) (hn : hub.active.Nodup) (token id : String) :
    Subscribed (outcome (Hub.unregister token id) hub).2 := by
  unfold outcome
  rw [unregister_of_empty hf]
  cases hub.identities.identify token with
  | error e => exact h
  | ok owner =>
    dsimp only
    cases hub.twins.get? id with
    | none => exact h
    | some twin =>
      dsimp only
      by_cases ho : twin.owner ≠ owner
      · rw [if_pos ho]
        exact h
      · rw [if_neg ho]
        exact subscribed_align hf hn

theorem restored (hf : hub.faults = .empty) (hn : hub.active.Nodup) : Subscribed (outcome Hub.restore hub).2 := by
  have due : (hub.faults.next .everyTwin).2 = .empty := by
    rw [hf]
    rfl
  unfold outcome
  rcases restore_cases hub with ⟨e, he, -⟩ | ⟨-, hr⟩
  · rw [hf, FaultPlan.outcome?_empty] at he
    cases he
  · rw [hr]
    exact subscribed_align due hn

theorem saveStates (h : Subscribed hub) (hq : Quiet hub) (clock : Clock) (m : Message) :
    Subscribed (outcome (Hub.saveStates clock m) hub).2 := by
  rw [outcome_saveStates hq]
  obtain ⟨faults, states, hs, -⟩ := (recordStates_recording clock m hub).added
  have recorded : Subscribed (outcome (recordStates clock m) hub).2 := by
    rw [hs]
    exact h.congr rfl rfl
  exact recorded.announce _ _ _

theorem saveAll (clock : Clock) (ms : List Message) (h : Subscribed hub) (hq : Quiet hub) :
    Subscribed (Hub.saveAll clock ms hub).2 := by
  induction ms generalizing hub with
  | nil => exact h
  | cons m rest ih => exact ih (h.saveStates hq clock m) (hq.saveStates clock m)

/-- Without failures, whatever is done leaves the routed keys subscribed and no others. --/
theorem perform (h : Subscribed hub) (hf : hub.faults = .empty) (hn : hub.active.Nodup) (hq : Quiet hub)
    (clock : Clock) (op : Operation) : Subscribed (Hub.perform clock op hub).2 := by
  cases op with
  | add token given d =>
    rw [perform_add hq clock]
    exact (h.register hf hn token given d clock.start).announce _ _ _
  | update token given d =>
    rw [perform_update hq clock]
    exact (h.revise hf hn token given d clock.start).announce _ _ _
  | view token id =>
    obtain ⟨faults, hv⟩ := viewTwin_frame token id hub
    exact hv ▸ h.congr rfl rfl
  | list token offset limit name metadata =>
    obtain ⟨faults, hv⟩ := listTwins_frame token offset limit name metadata hub
    exact hv ▸ h.congr rfl rfl
  | remove token id =>
    rw [perform_remove hq clock]
    exact (h.unregister hf hn token id).announce _ _ _
  | save m => exact h.saveStates hq clock m
  | saveAll ms => exact saveAll clock ms h hq
  | receive m =>
    show Subscribed (Hub.receive clock m hub)
    rw [receive_eq hq]
    split
    · exact h.saveStates hq clock m
    · exact h
  | states token id offset limit =>
    obtain ⟨faults, hv⟩ := listStates_frame token id offset limit hub
    exact hv ▸ h.congr rfl rfl
  | restore => exact restored hf hn
  | restart notifyChannel => exact Subscribed.restart notifyChannel hub
  | seedTwin twin =>
    unfold Hub.perform
    dsimp only
    split <;> exact h.congr rfl rfl
  | seedState state => exact h.congr rfl rfl
  | plan point failure skip times => exact h.congr rfl rfl

/-- A run in which nothing fails keeps the broker's table at the routes. --/
theorem follow (ops : List (Clock × Operation)) (h : Subscribed hub) (ht : Tracked hub) (hq : Quiet hub) :
    Subscribed (hub.follow (ops.map fun p => ⟨.empty, p.1, p.2⟩)) := by
  induction ops generalizing hub with
  | nil => exact h
  | cons p rest ih =>
    have due : Subscribed { hub with faults := .empty } := h.congr rfl rfl
    exact ih (due.perform rfl ht.serves.nodup (hq.due .empty) p.1 p.2) (ht.turn hq ⟨.empty, p.1, p.2⟩)
      (hq.turn ⟨.empty, p.1, p.2⟩)

/-- A message finds a handler if and only if it is routed. --/
theorem contains_iff (h : Subscribed hub) (ht : Tracked hub) (m : Message) :
    hub.broker.handlers.contains m.key = true ↔ m.key ∈ hub.routes.keys := by
  rw [← h m.key, ht.serves.mem_iff, Table.mem_keys]
  exact Option.isSome_iff_exists

end Subscribed

/-! ### What reaches the handler -/

/-- Publishes a message as `publish`, where `deliver` also tells which messages reach the handler. -/
def publishTraced (deliver : Message → Hub → List Message × Hub) (m : Message) (hub : Hub) : List Message × Hub :=
  let (failure, faults) := hub.faults.next .publish
  match failure with
  | some _ => ([], { hub with faults, calls := hub.calls ++ [.publish m false] })
  | none => deliver m { hub with faults, calls := hub.calls ++ [.publish m true] }

/-- Announces how an operation ended as `notify`, and tells which messages reach the handler. -/
def notifyTraced (deliver : Message → Hub → List Message × Hub) (operation : String) (now : Instant)
    (outcome : Except ServiceError Json) (hub : Hub) : List Message × Hub :=
  match hub.notifyChannel with
  | none => ([], hub)
  | some channel => publishTraced deliver (notification channel operation now outcome) hub

/-- What the broker does with a message as `deliver`, and which messages reach the handler meanwhile, in order: the
    message itself, and then what becomes of its notification. -/
def deliverTraced (clock : Clock) : Nat → Message → Hub → List Message × Hub
  | 0, _, hub => ([], hub)
  | depth + 1, m, hub =>
    match hub.broker.handler? m with
    | none => ([], hub)
    | some () =>
      let (result, hub) := outcome (recordStates clock m) hub
      let (more, hub) := notifyTraced (deliverTraced clock depth) "saveStates" clock.start (result.map (report m)) hub
      (m :: more, hub)

theorem notifyTraced_snd {deliver : Message → Hub → Hub} {traced : Message → Hub → List Message × Hub}
    (h : ∀ m hub, (traced m hub).2 = deliver m hub) (operation : String) (now : Instant)
    (outcome : Except ServiceError Json) (hub : Hub) :
    (notifyTraced traced operation now outcome hub).2 = notify deliver operation now outcome hub := by
  unfold notifyTraced notify publishTraced publish
  cases hub.notifyChannel with
  | none => rfl
  | some channel =>
    dsimp only
    cases (hub.faults.next .publish).1 with
    | none => exact h _ _
    | some e => rfl

/-- Telling what reaches the handler changes nothing of a delivery. --/
theorem deliverTraced_snd (clock : Clock) (depth : Nat) (m : Message) (hub : Hub) :
    (deliverTraced clock depth m hub).2 = deliver clock depth m hub := by
  induction depth generalizing m hub with
  | zero => rfl
  | succ depth ih =>
    rw [deliver_succ]
    unfold deliverTraced Broker.deliver
    cases hub.broker.handler? m with
    | none => rfl
    | some u =>
      have notified := notifyTraced_snd ih "saveStates" clock.start
        ((outcome (recordStates clock m) hub).1.map (report m)) (outcome (recordStates clock m) hub).2
      refine notified.trans ?_
      unfold handle outcome announced
      cases recordStates clock m hub <;> rfl

/-- Whatever depth is allowed beyond the message itself, its notification makes no use of it. --/
theorem deliver_eq_receive (h : Quiet hub) (clock : Clock) (depth : Nat) (m : Message) :
    deliver clock (depth + 1) m hub = receive clock m hub := by
  unfold receive deliveryDepth
  rw [deliver_succ, deliver_succ, deliver_handle h, deliver_handle h]

theorem notifyTraced_fst (h : Quiet hub) (clock : Clock) (depth : Nat) (operation : String) (now : Instant)
    (outcome : Except ServiceError Json) :
    (notifyTraced (deliverTraced clock depth) operation now outcome hub).1 = [] := by
  unfold notifyTraced publishTraced
  cases hc : hub.notifyChannel with
  | none => rfl
  | some channel =>
    dsimp only
    cases (hub.faults.next .publish).1 with
    | some e => rfl
    | none =>
      cases depth with
      | zero => rfl
      | succ depth =>
        have unheard : hub.broker.handler? (notification channel operation now outcome) = none :=
          h.handler?_eq_none (by rw [notification_channel, hc])
        unfold deliverTraced
        dsimp only
        rw [unheard]

/-- A message reaches the handler once if its key is subscribed, its notification never. --/
theorem deliverTraced_fst (h : Quiet hub) (clock : Clock) (depth : Nat) (m : Message) :
    (deliverTraced clock (depth + 1) m hub).1 = if hub.broker.handlers.contains m.key then [m] else [] := by
  have unheard := notifyTraced_fst (h.recordStates clock m) clock depth "saveStates" clock.start
    ((outcome (recordStates clock m) hub).1.map (report m))
  unfold deliverTraced Broker.handler? Table.contains
  cases hub.broker.handlers.get? m.key with
  | none => rfl
  | some u => exact congrArg (List.cons m) unheard

/-! ### Runs -/

/-- A call with a message that is not routed fails and leaves no more than its notification. --/
theorem saveStates_unrouted (hf : hub.faults = .empty) (hq : Quiet hub) (clock : Clock) {m : Message}
    (hm : m.key ∉ hub.routes.keys) :
    ∃ calls, outcome (saveStates clock m) hub = (.error .notFound, { hub with calls }) := by
  have unrouted : hub.routes.get? m.key = none := by
    rw [RouteTable.mem_keys, ← Option.ne_none_iff_exists'] at hm
    exact Decidable.not_not.mp hm
  have bare : outcome (recordStates clock m) hub = (.error .notFound, hub) := by
    unfold outcome
    rw [recordStates_of_empty hf, unrouted]
  obtain ⟨calls, ha⟩ := announce_of_empty hf "saveStates" clock.start (.error .notFound)
  refine ⟨calls, ?_⟩
  rw [outcome_saveStates hq, bare]
  exact congrArg (Prod.mk _) ha

/-- In every state of a run in which nothing fails, over any stores and through new starts on new brokers: to publish
    a message is never refused and comes to what a call with it comes to, whatever the message contains. A call with a
    key that is not routed fails, and only its notification is then not sent of a published message. The handler
    gets a published message once if its key is routed, and otherwise nothing at all. --/
theorem follow_delivery_direct (stored : Hub) (notifyChannel : Option String) (ops : List (Clock × Operation))
    (clock : Clock) (m : Message) :
    let hub := (stored.restart notifyChannel).follow (ops.map fun p => ⟨.empty, p.1, p.2⟩)
    let received := hub.turn ⟨.empty, clock, .receive m⟩
    let saved := hub.turn ⟨.empty, clock, .save m⟩
    received.1 = .ok .done ∧
      received.2 = { saved.2 with calls := received.2.calls } ∧
      (m.key ∈ hub.routes.keys → received.2 = saved.2) ∧
      (m.key ∉ hub.routes.keys → saved.1 = .error .notFound ∧ received.2 = { hub with faults := .empty }) ∧
      ∀ depth, deliverTraced clock (depth + 1) m { hub with faults := .empty } =
        (if m.key ∈ hub.routes.keys then [m] else [], received.2) := by
  intro hub received saved
  have started : Quiet (stored.restart notifyChannel) := Quiet.restart notifyChannel stored
  have tracked : Tracked (stored.restart notifyChannel) := Tracked.restart notifyChannel stored
  have quiet : Quiet { hub with faults := .empty } := (started.follow _).due .empty
  have subscribed : Subscribed hub := (Subscribed.restart notifyChannel stored).follow ops tracked started
  have found : hub.broker.handlers.contains m.key = true ↔ m.key ∈ hub.routes.keys :=
    subscribed.contains_iff (tracked.follow started _) m
  have hreceived : received.2 = if hub.broker.handlers.contains m.key then saved.2 else { hub with faults := .empty } :=
    receive_eq quiet clock m
  have routed (hm : m.key ∈ hub.routes.keys) : received.2 = saved.2 := by
    rw [hreceived, if_pos (found.mpr hm)]
  have unrouted (hm : m.key ∉ hub.routes.keys) : received.2 = { hub with faults := .empty } := by
    rw [hreceived, if_neg fun hc => hm (found.mp hc)]
  refine ⟨rfl, ?_, routed, fun hm => ⟨?_, unrouted hm⟩, fun depth => Prod.ext ?_ ?_⟩
  · by_cases hm : m.key ∈ hub.routes.keys
    · rw [routed hm]
    · obtain ⟨calls, hs⟩ := saveStates_unrouted rfl quiet clock hm
      have hsaved : saved.2 = { hub with faults := .empty, calls } := congrArg Prod.snd hs
      rw [unrouted hm, hsaved]
  · obtain ⟨calls, hs⟩ := saveStates_unrouted rfl quiet clock hm
    have failed : saved.1 = (outcome (saveStates clock m) { hub with faults := .empty }).1.map .count := rfl
    rw [failed, hs]
    rfl
  · rw [deliverTraced_fst quiet]
    exact if_congr found rfl rfl
  · rw [deliverTraced_snd, deliver_eq_receive quiet]
    rfl

end Hub
end DigitalTwin
