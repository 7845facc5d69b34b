import DigitalTwin.Proofs.Subscriptions

/-! Notifications and the hub that sends them. A hub never hears its own notifications: nothing is subscribed
    on the channel of the notifications, at no time of any run over any stores. So each call whose end is
    announced publishes one message, and nothing comes of that. -/

namespace DigitalTwin

namespace Hub

/-- What the hub does with a message that its broker hands to it. The notification of that may be delivered in
    turn, down to `depth` messages. -/
def handle (clock : Clock) (depth : Nat) : Broker.Work Unit Hub := fun () m hub =>
  let after := outcome (announced (deliver clock depth) "saveStates" clock.start (report m) (recordStates clock m)) hub
  (after.1.map fun _ => (), after.2)

/-- Whatever the broker delivers goes to the handler. --/
theorem deliver_succ (clock : Clock) (depth : Nat) (m : Message) (hub : Hub) :
    deliver clock (depth + 1) m hub = (hub.broker.deliver (handle clock depth) m hub).2 := rfl

end Hub

/-- The name under which the end of an operation is announced, and what is done before it is: an action that gives
    the report of a success. -/
def Operation.announced? (clock : Clock) : Operation → Option (String × Action Json)
  | .add token given d => some ("addTwin", Twin.toJson <$> Hub.register token given d clock.start)
  | .update token given d =>
    some ("updateTwin", (fun () => Hub.idReport given.id) <$> Hub.revise token given d clock.start)
  | .remove token id => some ("removeTwin", (fun () => Hub.idReport id) <$> Hub.unregister token id)
  | .save m => some ("saveStates", Hub.report m <$> Hub.recordStates clock m)
  | _ => none

namespace Hub

variable {α : Type} {hub : Hub} {clock : Clock} {name channel : String} {act : Action Json}

theorem outcome_map (f : α → Json) (action : Action α) (hub : Hub) :
    outcome (f <$> action) hub = ((outcome action hub).1.map f, (outcome action hub).2) := by
  show outcome (EStateM.map f action) hub = _
  unfold outcome EStateM.map
  cases action hub <;> rfl

theorem isOk_map {β : Type} (f : α → β) (r : Except ServiceError α) : (r.map f).isOk = r.isOk := by
  cases r <;> rfl

/-- An announced operation comes to what its action comes to. --/
theorem perform_announced (h : Quiet hub) {op : Operation} (hop : op.announced? clock = some (name, act)) :
    (perform clock op hub).1.isOk = (outcome act hub).1.isOk ∧
      (perform clock op hub).2 = announce name clock.start (outcome act hub).1 (outcome act hub).2 ∧
      ∃ outcomes, Fared outcomes [] hub (outcome act hub).2 := by
  cases op with
  | add token given d =>
    cases hop
    obtain ⟨outcomes, hf, -⟩ := register_fared token given d clock.start hub
    rw [perform_add h, outcome_map, isOk_map, isOk_map]
    exact ⟨rfl, rfl, outcomes, hf⟩
  | update token given d =>
    cases hop
    obtain ⟨outcomes, hf, -⟩ := revise_fared token given d clock.start hub
    rw [perform_update h, outcome_map, isOk_map, isOk_map]
    exact ⟨rfl, rfl, outcomes, hf⟩
  | remove token id =>
    cases hop
    obtain ⟨outcomes, hf, -⟩ := unregister_fared token id hub
    rw [perform_remove h, outcome_map, isOk_map, isOk_map]
    exact ⟨rfl, rfl, outcomes, hf⟩
  | save m =>
    cases hop
    rw [perform_save h, outcome_map, isOk_map, isOk_map]
    exact ⟨rfl, rfl, [], recordStates_fared clock m hub⟩
  | _ => cases hop

/-! ### The handler -/

/-- A message that reaches the handler is saved as by a call, however deep it is in deliveries. --/
theorem handle_eq (h : Quiet hub) (clock : Clock) (depth : Nat) (m : Message) :
    handle clock depth () m hub =
      ((perform clock (.save m) hub).1.map fun _ => (), (perform clock (.save m) hub).2) := by
  unfold handle
  dsimp only
  rw [(h.recordStates clock m).outcome_announced, perform_save h]
  cases (outcome (recordStates clock m) hub).1 <;> rfl

/-- A message that the broker delivers is saved if its key is subscribed, and otherwise nothing happens. --/
theorem deliver_handle (h : Quiet hub) (clock : Clock) (depth : Nat) (m : Message) :
    hub.broker.deliver (handle clock depth) m hub =
      if hub.broker.handlers.contains m.key then (true, (perform clock (.save m) hub).2) else (false, hub) := by
  have handled := handle_eq h clock depth m
  unfold Broker.deliver Broker.handler? Table.contains
  cases hub.broker.handlers.get? m.key with
  | none => rfl
  | some u =>
    dsimp only
    rw [handled]
    rfl

/-! ### Notifications -/

/-- A message on the notification channel is delivered to nobody. --/
theorem deliver_unheard (h : Quiet hub) {m : Message} (hm : some m.channel = hub.notifyChannel)
    (work : Broker.Work Unit Hub) : hub.broker.deliver work m hub = (false, hub) := by
  unfold Broker.deliver
  rw [h.handler?_eq_none hm]

theorem notification_subtopic (channel operation : String) (now : Instant) (r : Except ServiceError Json) :
    (notification channel operation now r).subtopic = operation ++ if r.isOk then ".success" else ".failure" := by
  cases r <;> rfl

theorem notification_channel (channel operation : String) (now : Instant) (r : Except ServiceError Json) :
    (notification channel operation now r).channel = channel := by
  cases r <;> rfl

/-- Behind its action, and behind the changes of subscriptions that the action asked for, a call had one message
    published: the notification of how it ended. Nobody gets that, so nothing else has changed. -/
structure Notified (channel name : String) (calls : List TransportCall) (bare : Except ServiceError Json × Hub)
    (after : Except ServiceError Reply × Hub) (m : Message) : Prop where
  ended : after.1.isOk = bare.1.isOk
  asked : ∃ changes : List (SubscriptionCall × Bool),
    bare.2.calls = calls ++ changes.map fun p => .subscription p.1 p.2
  published : ∃ faults sent, after.2 = { bare.2 with faults, calls := bare.2.calls ++ [.publish m sent] }
  channel : m.channel = channel
  subtopic : m.subtopic = name ++ if after.1.isOk then ".success" else ".failure"
  unheard : ∀ clock depth, after.2.broker.deliver (handle clock depth) m after.2 = (false, after.2)

theorem perform_notified (h : Quiet hub) {op : Operation} (hop : op.announced? clock = some (name, act))
    (hc : hub.notifyChannel = some channel) :
    ∃ m, Notified channel name hub.calls (outcome act hub) (perform clock op hub) m := by
  obtain ⟨hok, hafter, outcomes, hf⟩ := perform_announced h hop
  have quiet : Quiet (perform clock op hub).2 := h.perform clock op
  have kept : (outcome act hub).2.notifyChannel = some channel := hf.notifyChannel.trans hc
  rw [announce_eq kept] at hafter
  refine ⟨notification channel name clock.start (outcome act hub).1, hok, ⟨outcomes, ?_⟩, ⟨_, _, hafter⟩,
    notification_channel .., ?_, fun clock' depth => deliver_unheard quiet ?_ _⟩
  · simpa using hf.calls
  · rw [hok, notification_subtopic]
  · rw [notification_channel, hafter]
    exact kept.symm

theorem saveStates_notified (h : Quiet hub) (hc : hub.notifyChannel = some channel) (clock : Clock) (m : Message) :
    let after := outcome (saveStates clock m) hub
    ∃ m' sent, after.2.calls = hub.calls ++ [.publish m' sent] ∧ after.2.notifyChannel = some channel ∧
      (m'.channel, m'.subtopic) = (channel, "saveStates" ++ if after.1.isOk then ".success" else ".failure") := by
  have bare := recordStates_fared clock m hub
  have kept : (outcome (recordStates clock m) hub).2.notifyChannel = some channel := bare.notifyChannel.trans hc
  intro after
  refine ⟨notification channel "saveStates" clock.start ((outcome (recordStates clock m) hub).1.map (report m)),
    ((outcome (recordStates clock m) hub).2.faults.outcome? .publish 0).isNone, ?_⟩
  unfold after
  rw [outcome_saveStates h, announce_eq kept]
  refine ⟨?_, kept, ?_⟩
  · simp [bare.calls]
  · rw [notification_channel, notification_subtopic, isOk_map]

/-- Behind the earlier calls, the notifications of some saves were published, each with its own ending, and nothing
    else was asked of the transport. -/
def SavesNotified (channel : String) (earlier calls : List TransportCall) (results : List (Except ServiceError Nat)) :
    Prop :=
  ∃ made : List (Message × Bool), calls = earlier ++ made.map (fun p => .publish p.1 p.2) ∧
    made.map (fun p => (p.1.channel, p.1.subtopic)) = results.map fun r =>
      (channel, "saveStates" ++ if r.isOk then ".success" else ".failure")

/-- Each of the messages that are saved at once is announced by itself. --/
theorem saveAll_notified (clock : Clock) (ms : List Message) (h : Quiet hub) (hc : hub.notifyChannel = some channel) :
    (saveAll clock ms hub).1.length = ms.length ∧
      SavesNotified channel hub.calls (saveAll clock ms hub).2.calls (saveAll clock ms hub).1 := by
  induction ms generalizing hub with
  | nil => exact ⟨rfl, [], by simp [saveAll], rfl⟩
  | cons m rest ih =>
    obtain ⟨m', sent, hcall, hc', hends⟩ := saveStates_notified h hc clock m
    obtain ⟨hlength, made, hcalls, hmade⟩ := ih (h.saveStates clock m) hc'
    refine ⟨congrArg Nat.succ hlength, (m', sent) :: made, ?_, ?_⟩
    · refine hcalls.trans ?_
      rw [hcall, List.map_cons, List.append_assoc]
      rfl
    · rw [List.map_cons, hmade, hends]
      rfl

/-! ### Runs -/

/-- From a hub that was started over any stores, through new starts on other channels and through any failures:
    nothing is routed or subscribed on the channel of the notifications. A call whose end is announced publishes
    one notification there, with the ending that the call had, and nobody hears it. It is the same whether a
    message is given to the service or to the handler or comes through the broker. --/
theorem follow_notifications_unheard (stored : Hub) (notifyChannel : Option String) (turns : List Turn) :
    let hub := (stored.restart notifyChannel).follow turns
    (∀ key, key ∈ hub.routes.keys ∨ key ∈ hub.active ∨ key ∈ hub.broker.subscriptions →
      hub.notifyChannel ≠ some key.channel) ∧
    (∀ channel, hub.notifyChannel = some channel →
      (∀ t name act, t.op.announced? t.clock = some (name, act) →
        ∃ m, Notified channel name hub.calls (outcome act { hub with faults := t.faults }) (hub.turn t) m) ∧
      ∀ faults clock ms, ∃ results, (hub.turn ⟨faults, clock, .saveAll ms⟩).1 = .ok (.counts results) ∧
        results.length = ms.length ∧
        SavesNotified channel hub.calls (hub.turn ⟨faults, clock, .saveAll ms⟩).2.calls results) ∧
    ∀ faults clock m, let saved := hub.turn ⟨faults, clock, .save m⟩
      (∀ depth, handle clock depth () m { hub with faults } = (saved.1.map fun _ => (), saved.2) ∧
        hub.broker.deliver (handle clock depth) m { hub with faults } =
          if hub.broker.handlers.contains m.key then (true, saved.2) else (false, { hub with faults })) ∧
      (hub.turn ⟨faults, clock, .receive m⟩).2 =
        if hub.broker.handlers.contains m.key then saved.2 else { hub with faults } := by
  intro hub
  have h : Quiet hub := (Quiet.restart notifyChannel stored).follow turns
  refine ⟨?_, fun channel hc => ⟨?_, ?_⟩, ?_⟩
  · rintro key (hk | hk | hk) hc
    · exact h.routes key hk hc.symm
    · exact h.active key hk hc.symm
    · obtain ⟨u, hu⟩ := Table.mem_keys.mp (RouteKey.mem_sorted.mp hk)
      exact h.handlers key u hu hc.symm
  · intro t name act hop
    exact perform_notified (h.due t.faults) hop hc
  · intro faults clock ms
    obtain ⟨hlength, hsaves⟩ := saveAll_notified clock ms (h.due faults) hc
    exact ⟨_, rfl, hlength, hsaves⟩
  · intro faults clock m saved
    refine ⟨fun depth => ⟨handle_eq (h.due faults) clock depth m, deliver_handle (h.due faults) clock depth m⟩, ?_⟩
    have received : (hub.turn ⟨faults, clock, .receive m⟩).2 =
        (hub.broker.deliver (handle clock 1) m { hub with faults }).2 := deliver_succ clock 1 m _
    have delivered : hub.broker.deliver (handle clock 1) m { hub with faults } =
        if hub.broker.handlers.contains m.key then (true, saved.2) else (false, { hub with faults }) :=
      deliver_handle (h.due faults) clock 1 m
    rw [received, delivered]
    exact apply_ite Prod.snd _ _ _

/-- A stored twin had its route on a channel from which notifications are sent behind a new start. It is not routed
    again, and when another twin is added, nobody hears of that. --/
theorem follow_notifications_unheard_former_route :
    let flow : Attribute := ⟨"flow", "notes", "addTwin.success", true⟩
    let stale : Twin := ⟨"t", "ann", "pump", [], ⟨0, 0⟩, ⟨0, 0⟩, 5, [⟨5, ⟨0, 0⟩, [flow]⟩]⟩
    let heat : Attribute := ⟨"heat", "plant", "b", true⟩
    let stored := Hub.new ⟨[("token", "ann")]⟩ ⟨fun _ => "u", 0⟩ none
    let before : List Operation := [.seedTwin stale, .restore]
    let ops : List Operation := before ++ [.restart (some "notes"), .restore]
    let hub := (stored.restart none).follow (ops.map (⟨.empty, .at ⟨1, 0⟩, ·⟩))
    let after := hub.turn ⟨.empty, .at ⟨2, 0⟩, .add "token" stale ⟨0, ⟨0, 0⟩, [heat]⟩⟩
    ((stored.restart none).follow (before.map (⟨.empty, .at ⟨1, 0⟩, ·⟩))).broker.subscriptions =
        [⟨"notes", "addTwin.success"⟩] ∧
      hub.routes.keys = [] ∧ hub.broker.subscriptions = [] ∧
      ∃ m sent, after.2.calls.getLast? = some (.publish m sent) ∧ m.channel = "notes" ∧
        m.subtopic = "addTwin.success" ∧
        ∀ clock depth, after.2.broker.deliver (handle clock depth) m after.2 = (false, after.2) := by
  intro flow stale heat stored before ops hub after
  have channel : hub.notifyChannel = some "notes" := by decide +kernel
  have ok : after.1.isOk = true := by decide +kernel
  obtain ⟨-, notified, -⟩ := follow_notifications_unheard stored none (ops.map (⟨.empty, .at ⟨1, 0⟩, ·⟩))
  obtain ⟨m, hm⟩ := (notified "notes" channel).1
    ⟨.empty, .at ⟨2, 0⟩, .add "token" stale ⟨0, ⟨0, 0⟩, [heat]⟩⟩ _ _ rfl
  obtain ⟨faults, sent, hpublished⟩ := hm.published
  refine ⟨by decide +kernel, by decide +kernel, by decide +kernel, m, sent, ?_, hm.channel, ?_, hm.unheard⟩
  · have last : after.2 = _ := hpublished
    rw [last]
    exact List.getLast?_concat
  · have subtopic : m.subtopic = "addTwin" ++ if after.1.isOk then ".success" else ".failure" := hm.subtopic
    rw [subtopic, ok]
    rfl

end Hub
end DigitalTwin
