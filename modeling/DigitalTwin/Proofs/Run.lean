import DigitalTwin.Hub.Run
import DigitalTwin.Proofs.Transport

/-! Runs of a hub under failures. In each turn of a run the failures that are due, the clock and the
    operation are arbitrary. No turn ends with anything routed or subscribed on the notification channel,
    so in a run an operation comes to what its action comes to, and announcing it is all that follows. -/

namespace DigitalTwin

/-- One turn of a run: the failures that are due, the clock that runs meanwhile, and what is done. -/
structure Turn where
  faults : FaultPlan
  clock : Clock
  op : Operation

namespace Hub

variable {hub : Hub} {clock : Clock}

/-- What a turn comes to, and the hub behind it. -/
def turn (hub : Hub) (t : Turn) : Except ServiceError Reply × Hub :=
  perform t.clock t.op { hub with faults := t.faults }

/-- The hub behind a run of turns. -/
def follow (hub : Hub) (turns : List Turn) : Hub := turns.foldl (fun hub t => (hub.turn t).2) hub

theorem follow_append (hub : Hub) (before after : List Turn) :
    hub.follow (before ++ after) = (hub.follow before).follow after := List.foldl_append

/-- A run that plans its failures as it goes is a run of turns. --/
theorem run_eq_follow (hub : Hub) (ops : List (Clock × Operation)) :
    ∃ turns : List Turn, turns.map (fun t => (t.clock, t.op)) = ops ∧ hub.run ops = hub.follow turns := by
  induction ops generalizing hub with
  | nil => exact ⟨[], rfl, rfl⟩
  | cons p rest ih =>
    obtain ⟨turns, ht, hr⟩ := ih (perform p.1 p.2 hub).2
    exact ⟨⟨hub.faults, p.1, p.2⟩ :: turns, by rw [List.map_cons, ht], hr⟩

/-! ### Nothing is heard of a notification -/

namespace Quiet

theorem register (h : Quiet hub) (token : String) (given : Twin) (d : Definition) (now : Instant) :
    Quiet (outcome (Hub.register token given d now) hub).2 := by
  unfold outcome
  rcases register_cases token given d now hub with ⟨e, faults, ids, -, hr⟩ | ⟨owner, faults, twins, -, hd, -, -, hr⟩ <;>
    rw [hr]
  · exact h.congr rfl rfl rfl rfl
  · refine h.align rfl rfl rfl rfl fun key hk => ?_
    rcases RouteTable.mem_keys_insert hk with hk | hk
    · exact h.routes key hk
    · exact (Twin.enrolled_routable hd).unreserved hk

theorem revise (h : Quiet hub) (token : String) (given : Twin) (d : Definition) (now : Instant) :
    Quiet (outcome (Hub.revise token given d now) hub).2 := by
  unfold outcome
  rcases revise_cases token given d now hub with
    ⟨e, faults, hr⟩ | ⟨owner, current, faults, twins, -, -, -, hd, -, -, hr⟩ <;> rw [hr]
  · exact h.congr rfl rfl rfl rfl
  · refine h.align rfl rfl rfl rfl fun key hk => ?_
    rcases RouteTable.mem_keys_insert hk with hk | hk
    · exact h.routes key hk
    · exact (Twin.revised_routable hd).unreserved hk

theorem unregister (h : Quiet hub) (token id : String) : Quiet (outcome (Hub.unregister token id) hub).2 := by
  unfold outcome
  rcases unregister_cases token id hub with ⟨e, faults, hr⟩ | ⟨faults, hr⟩ | ⟨owner, twin, faults, -, -, -, hr⟩ <;>
    rw [hr]
  · exact h.congr rfl rfl rfl rfl
  · exact h.congr rfl rfl rfl rfl
  · exact h.align rfl rfl rfl rfl fun key hk => h.routes key (RouteTable.mem_keys_erase hk)

theorem restore (h : Quiet hub) : Quiet (outcome Hub.restore hub).2 := by
  unfold outcome
  rcases restore_cases hub with ⟨e, -, hr⟩ | ⟨-, hr⟩ <;> rw [hr]
  · exact h.congr rfl rfl rfl rfl
  · exact h.align rfl rfl rfl rfl fun key hk => RouteTable.mem_keys_ofTwins hk

theorem recordStates (h : Quiet hub) (clock : Clock) (m : Message) :
    Quiet (outcome (Hub.recordStates clock m) hub).2 := by
  obtain ⟨faults, states, hs, -⟩ := (recordStates_recording clock m hub).added
  rw [hs]
  exact h.congr rfl rfl rfl rfl

theorem announce (h : Quiet hub) (operation : String) (now : Instant) (outcome : Except ServiceError Json) :
    Quiet (Hub.announce operation now outcome hub) := by
  obtain ⟨faults, calls, ha, -⟩ := announce_frame operation now outcome hub
  rw [ha]
  exact h.congr rfl rfl rfl rfl

end Quiet

/-! ### Operations without their echo -/

theorem perform_add (h : Quiet hub) (clock : Clock) (token : String) (given : Twin) (d : Definition) :
    perform clock (.add token given d) hub =
      ((outcome (register token given d clock.start) hub).1.map .twin,
        announce "addTwin" clock.start ((outcome (register token given d clock.start) hub).1.map Twin.toJson)
          (outcome (register token given d clock.start) hub).2) := by
  have same := (h.register token given d clock.start).outcome_announced (.at clock.start) deliveryDepth "addTwin"
    clock.start Twin.toJson
  show ((outcome (addTwin token given d clock.start) hub).1.map _,
    (outcome (addTwin token given d clock.start) hub).2) = _
  unfold addTwin
  rw [same]

theorem perform_update (h : Quiet hub) (clock : Clock) (token : String) (given : Twin) (d : Definition) :
    perform clock (.update token given d) hub =
      ((outcome (revise token given d clock.start) hub).1.map fun () => .done,
        announce "updateTwin" clock.start
          ((outcome (revise token given d clock.start) hub).1.map fun () => idReport given.id)
          (outcome (revise token given d clock.start) hub).2) := by
  have same := (h.revise token given d clock.start).outcome_announced (.at clock.start) deliveryDepth "updateTwin"
    clock.start fun () => idReport given.id
  show ((outcome (updateTwin token given d clock.start) hub).1.map _,
    (outcome (updateTwin token given d clock.start) hub).2) = _
  unfold updateTwin
  rw [same]

theorem perform_remove (h : Quiet hub) (clock : Clock) (token id : String) :
    perform clock (.remove token id) hub =
      ((outcome (unregister token id) hub).1.map fun () => .done,
        announce "removeTwin" clock.start ((outcome (unregister token id) hub).1.map fun () => idReport id)
          (outcome (unregister token id) hub).2) := by
  have same := (h.unregister token id).outcome_announced (.at clock.start) deliveryDepth "removeTwin" clock.start
    fun () => idReport id
  show ((outcome (removeTwin token id clock.start) hub).1.map _, (outcome (removeTwin token id clock.start) hub).2) = _
  unfold removeTwin
  rw [same]

theorem outcome_saveStates (h : Quiet hub) (clock : Clock) (m : Message) :
    outcome (saveStates clock m) hub =
      ((outcome (recordStates clock m) hub).1,
        announce "saveStates" clock.start ((outcome (recordStates clock m) hub).1.map (report m))
          (outcome (recordStates clock m) hub).2) :=
  (h.recordStates clock m).outcome_announced _ _ _ _ _

theorem perform_save (h : Quiet hub) (clock : Clock) (m : Message) :
    perform clock (.save m) hub =
      ((outcome (recordStates clock m) hub).1.map .count,
        announce "saveStates" clock.start ((outcome (recordStates clock m) hub).1.map (report m))
          (outcome (recordStates clock m) hub).2) := by
  show ((outcome (saveStates clock m) hub).1.map _, (outcome (saveStates clock m) hub).2) = _
  rw [outcome_saveStates h]

theorem perform_restore (clock : Clock) (hub : Hub) :
    perform clock .restore hub = ((outcome restore hub).1.map .count, (outcome restore hub).2) := rfl

/-- A message that a device publishes is saved if its key is subscribed, and otherwise nothing happens. --/
theorem receive_eq (h : Quiet hub) (clock : Clock) (m : Message) :
    receive clock m hub =
      if hub.broker.handlers.contains m.key then (outcome (saveStates clock m) hub).2 else hub := by
  unfold receive deliveryDepth deliver Broker.publish Broker.deliver Broker.handler? Table.contains
  cases hub.broker.handlers.get? m.key with
  | none => rfl
  | some u =>
    dsimp only
    rw [(h.recordStates clock m).outcome_announced, outcome_saveStates h]
    rfl

theorem Quiet.saveStates (h : Quiet hub) (clock : Clock) (m : Message) :
    Quiet (outcome (Hub.saveStates clock m) hub).2 := by
  rw [outcome_saveStates h]
  exact (h.recordStates clock m).announce _ _ _

theorem Quiet.saveAll (clock : Clock) :
    ∀ (ms : List Message) {hub : Hub}, Quiet hub → Quiet (Hub.saveAll clock ms hub).2
  | [], _, h => h
  | m :: rest, _, h => Quiet.saveAll clock rest (h.saveStates clock m)

/-- Whatever is done, nothing is routed or subscribed on the notification channel afterwards. --/
theorem Quiet.perform (h : Quiet hub) (clock : Clock) (op : Operation) : Quiet (Hub.perform clock op hub).2 := by
  cases op with
  | add token given d =>
    rw [perform_add h clock]
    exact (h.register token given d clock.start).announce _ _ _
  | update token given d =>
    rw [perform_update h clock]
    exact (h.revise token given d clock.start).announce _ _ _
  | view token id =>
    obtain ⟨faults, hf⟩ := viewTwin_frame token id hub
    exact hf ▸ h.congr rfl rfl rfl rfl
  | list token offset limit name metadata =>
    obtain ⟨faults, hf⟩ := listTwins_frame token offset limit name metadata hub
    exact hf ▸ h.congr rfl rfl rfl rfl
  | remove token id =>
    rw [perform_remove h clock]
    exact (h.unregister token id).announce _ _ _
  | save m => exact h.saveStates clock m
  | saveAll ms => exact Quiet.saveAll clock ms h
  | receive m =>
    show Quiet (Hub.receive clock m hub)
    rw [receive_eq h]
    split
    · exact h.saveStates clock m
    · exact h
  | states token id offset limit =>
    obtain ⟨faults, hf⟩ := listStates_frame token id offset limit hub
    exact hf ▸ h.congr rfl rfl rfl rfl
  | restore => exact h.restore
  | restart notifyChannel => exact Quiet.restart notifyChannel hub
  | seedTwin twin =>
    unfold Hub.perform
    dsimp only
    split <;> exact h.congr rfl rfl rfl rfl
  | seedState state => exact h.congr rfl rfl rfl rfl
  | plan point failure skip times => exact h.congr rfl rfl rfl rfl

theorem Quiet.due (h : Quiet hub) (faults : FaultPlan) : Quiet { hub with faults } := h.congr rfl rfl rfl rfl

theorem Quiet.turn (h : Quiet hub) (t : Turn) : Quiet (hub.turn t).2 := (h.due t.faults).perform t.clock t.op

theorem Quiet.follow (h : Quiet hub) (turns : List Turn) : Quiet (hub.follow turns) :=
  List.foldlRecOn turns _ h fun _ h t _ => h.turn t

end Hub
end DigitalTwin
