import DigitalTwin.Error
import DigitalTwin.Table

/-!
Failures of collaborators. Every call that the hub makes goes past a point, and a plan says for each
point which of the calls still to come fail, and how. A call that fails has no effect.
-/

namespace DigitalTwin

/-- The calls that may fail. -/
inductive CallPoint where
  | identify
  | issueId
  | saveTwin
  | updateTwin
  | retrieveTwin
  | listTwins
  | everyTwin
  | removeTwin
  | saveState
  | lastState
  | listStates
  | subscribe
  | unsubscribe
  | publish
deriving DecidableEq, Repr

/-- A number of calls that come to the same. -/
structure Phase where
  calls : Nat
  failure : Option ServiceError
deriving DecidableEq, Repr

/-- What the next call of a script comes to, and the script behind it. Past its end all calls succeed. -/
def Phase.next : List Phase → Option ServiceError × List Phase
  | [] => (none, [])
  | ⟨0, _⟩ :: rest => next rest
  | ⟨calls + 1, failure⟩ :: rest => (failure, ⟨calls, failure⟩ :: rest)

/-- A script of phases for each point; a point without one never fails. -/
abbrev FaultPlan := Table CallPoint (List Phase)

namespace FaultPlan

/-- What the next call at a point comes to, and the plan behind it. -/
def next (plan : FaultPlan) (point : CallPoint) : Option ServiceError × FaultPlan :=
  match plan.get? point with
  | none => (none, plan)
  | some script =>
    let (failure, rest) := Phase.next script
    (failure, plan.insert point rest)

/-- The plan with a new script for a point: `skip` calls succeed, then `times` calls fail. -/
def schedule (plan : FaultPlan) (point : CallPoint) (failure : ServiceError) (skip times : Nat) : FaultPlan :=
  plan.insert point [⟨skip, none⟩, ⟨times, some failure⟩]

end FaultPlan

end DigitalTwin
