import DigitalTwin.Proofs.Run

/-! Saving messages while states can be had and saved. The result of a message and the states that it leaves are then
    told by its route, by the last state of the routed twin and by the clock, and announcing it has no part in them. -/

namespace DigitalTwin

/-! ### Failures that do not matter -/

namespace FaultPlan

/-- Neither a look at the last state nor saving a state fails. -/
def SparesStates (plan : FaultPlan) : Prop :=
  ∀ n, plan.outcome? .lastState n = none ∧ plan.outcome? .saveState n = none

theorem sparesStates_empty : SparesStates .empty := fun n => ⟨outcome?_empty _ n, outcome?_empty _ n⟩

end FaultPlan

namespace Hub

variable {hub : Hub} {faults : FaultPlan} {clock : Clock} {m : Message} {made : Except ServiceError (List State)}
  {after : Except ServiceError Reply × Hub} {id : String}

/-! ### The states of a message -/

/-- The states that a message makes, or why it makes none. -/
def statesOf (hub : Hub) (clock : Clock) (m : Message) : Except ServiceError (List State) :=
  match hub.routes.get? m.key with
  | none => .error .notFound
  | some route =>
    (Senml.decode m.payload clock.start).map (snapshots route clock 0 (hub.states.last? route.twinId))

theorem statesOf_unrouted (hr : hub.routes.get? m.key = none) : hub.statesOf clock m = .error .notFound := by
  unfold statesOf
  rw [hr]

theorem statesOf_routed {route : Route} (hr : hub.routes.get? m.key = some route) :
    hub.statesOf clock m =
      (Senml.decode m.payload clock.start).map (snapshots route clock 0 (hub.states.last? route.twinId)) := by
  unfold statesOf
  rw [hr]

/-- The states of a message were saved, or none was because it makes none. The routes are as they were. -/
structure Saves (made : Except ServiceError (List State)) (hub : Hub) (after : Except ServiceError Reply × Hub) :
    Prop where
  result : after.1 = made.map fun states => .count states.length
  states : after.2.states = hub.states.appendAll (made.toOption.getD [])
  routes : after.2.routes = hub.routes

/-- Of the ways in which recording may end, those that run into a failure are not open. --/
theorem Recording.spared {r : Except ServiceError Nat} {hub' : Hub} (h : Recording clock m hub r hub')
    (hf : hub.faults.SparesStates) :
    r = (hub.statesOf clock m).map List.length ∧
      hub'.states = hub.states.appendAll ((hub.statesOf clock m).toOption.getD []) ∧ hub'.routes = hub.routes := by
  cases h with
  | unrouted hr =>
    rw [statesOf_unrouted hr]
    exact ⟨rfl, rfl, rfl⟩
  | malformed hr hd =>
    rw [statesOf_routed hr, hd]
    exact ⟨rfl, rfl, rfl⟩
  | blank hr hd =>
    rw [statesOf_routed hr, hd]
    exact ⟨rfl, rfl, rfl⟩
  | saved hr hd =>
    rw [statesOf_routed hr, hd]
    exact ⟨congrArg Except.ok (length_snapshots _ _ _).symm, rfl, rfl⟩
  | unread hr hd hne hl =>
    rw [(hf 0).1] at hl
    cases hl
  | @broken route ms i e faults hr hd hne hl hi hs he =>
    rw [(hf i).2] at he
    cases he

theorem turn_saves (hq : Quiet hub) (hf : faults.SparesStates) (clock : Clock) (m : Message) :
    Saves (hub.statesOf clock m) hub (hub.turn ⟨faults, clock, .save m⟩) := by
  obtain ⟨result, states, routes⟩ := (recordStates_recording clock m { hub with faults }).spared hf
  have same := announce_same "saveStates" clock.start
    ((outcome (recordStates clock m) { hub with faults }).1.map (report m))
    (outcome (recordStates clock m) { hub with faults }).2
  show Saves _ _ (perform clock (.save m) { hub with faults })
  rw [perform_save (hq.due faults)]
  refine ⟨?_, same.states.trans states, same.routes.trans routes⟩
  rw [result]
  show ((hub.statesOf clock m).map List.length).map Reply.count = _
  cases hub.statesOf clock m <;> rfl

theorem turn_saved {states : List State} (hq : Quiet hub) (hf : faults.SparesStates)
    (hm : hub.statesOf clock m = .ok states) :
    let after := hub.turn ⟨faults, clock, .save m⟩
    after.1 = .ok (.count states.length) ∧ after.2.states = hub.states.appendAll states ∧
      after.2.routes = hub.routes := by
  intro after
  have saves : Saves (hub.statesOf clock m) hub after := turn_saves hq hf clock m
  rw [hm] at saves
  exact ⟨saves.result, saves.states, saves.routes⟩

end Hub
end DigitalTwin
