import DigitalTwin.Hub.Fault
import DigitalTwin.Proofs.Table

/-! Plans of failures as sequences of outcomes: what the first, the second and every later call at a
    point comes to. Calls at one point do not shift the outcomes at another, and every pattern of
    outcomes has a plan. -/

namespace DigitalTwin

/-- What the n-th of the calls to come of a script comes to. -/
def Phase.outcome? : List Phase → Nat → Option ServiceError
  | script, 0 => (Phase.next script).1
  | script, n + 1 => outcome? (Phase.next script).2 n

namespace FaultPlan

variable {plan : FaultPlan} {point other : CallPoint}

/-- The script of a point. -/
def script (plan : FaultPlan) (point : CallPoint) : List Phase := (plan.get? point).getD []

/-- What the n-th of the calls to come at a point comes to. -/
def outcome? (plan : FaultPlan) (point : CallPoint) (n : Nat) : Option ServiceError :=
  Phase.outcome? (plan.script point) n

theorem next_fst (plan : FaultPlan) (point : CallPoint) : (plan.next point).1 = plan.outcome? point 0 := by
  unfold next outcome? script
  cases plan.get? point <;> rfl

theorem script_next : (plan.next other).2.script point =
    if point = other then (Phase.next (plan.script other)).2 else plan.script point := by
  unfold next script
  cases h : plan.get? other with
  | none =>
    by_cases hp : point = other
    · rw [if_pos hp, hp]
      simp [h, Phase.next]
    · rw [if_neg hp]
  | some s =>
    dsimp only
    rw [Table.get?_insert]
    split <;> rfl

theorem outcome?_next (plan : FaultPlan) (point : CallPoint) (n : Nat) :
    (plan.next point).2.outcome? point n = plan.outcome? point (n + 1) := by
  unfold outcome?
  rw [script_next, if_pos rfl]
  rfl

/-- A call at one point leaves the outcomes at the others as they were. --/
theorem outcome?_next_of_ne (h : point ≠ other) (n : Nat) :
    (plan.next other).2.outcome? point n = plan.outcome? point n := by
  unfold outcome?
  rw [script_next, if_neg h]

theorem next_empty (point : CallPoint) : next Table.empty point = (none, Table.empty) := rfl

@[simp] theorem outcome?_empty (point : CallPoint) (n : Nat) : outcome? Table.empty point n = none := by
  induction n with
  | zero => rfl
  | succ n ih => exact ih

/-! ### Every pattern of failures -/

/-- Every point at which a call may fail. -/
def points : List CallPoint :=
  [.identify, .issueId, .saveTwin, .updateTwin, .retrieveTwin, .listTwins, .everyTwin, .removeTwin, .saveState,
    .lastState, .listStates, .subscribe, .unsubscribe, .publish]

/-- The plan in which the calls at each point come to the listed outcomes, and those behind them succeed. -/
def ofOutcomes (outcomes : CallPoint → List (Option ServiceError)) : FaultPlan :=
  ⟨points.map fun point => (point, (outcomes point).map (⟨1, ·⟩))⟩

theorem script_outcome? : ∀ (outcomes : List (Option ServiceError)) (n : Nat),
    Phase.outcome? (outcomes.map (⟨1, ·⟩)) n = (outcomes[n]?).join
  | [], 0 => rfl
  | [], n + 1 => script_outcome? [] n
  | _ :: _, 0 => rfl
  | o :: rest, n + 1 => by
    -- A phase that is used up is passed over by the next call.
    have spent : ∀ (script : List Phase) n, Phase.outcome? (⟨0, o⟩ :: script) n = Phase.outcome? script n := by
      intro script n
      cases n <;> rfl
    show Phase.outcome? (⟨0, o⟩ :: rest.map (⟨1, ·⟩)) n = _
    rw [spent, script_outcome? rest n]
    rfl

theorem ofOutcomes_outcome? (outcomes : CallPoint → List (Option ServiceError)) (point : CallPoint) (n : Nat) :
    (ofOutcomes outcomes).outcome? point n = ((outcomes point)[n]?).join := by
  have found : (ofOutcomes outcomes).script point = (outcomes point).map (⟨1, ·⟩) := by
    cases point <;> rfl
  unfold outcome?
  rw [found, script_outcome?]

end FaultPlan
end DigitalTwin
