import DigitalTwin.Entity.Page
import DigitalTwin.Entity.State
import DigitalTwin.Table

/-!
The store of states: the history of each twin, to which states are only ever added.
-/

namespace DigitalTwin

/-- Histories by twin. -/
structure StateStore where
  histories : Table String (List State)
deriving Inhabited

namespace StateStore

def empty : StateStore := ⟨.empty⟩

/-- The states of a twin, oldest first. -/
def history (s : StateStore) (twinId : String) : List State := (s.histories.get? twinId).getD []

/-- Adds a state behind the others of its twin. -/
def append (s : StateStore) (state : State) : StateStore :=
  ⟨s.histories.insert state.twinId (s.history state.twinId ++ [state])⟩

/-- The state of a twin that was stored last. -/
def last? (s : StateStore) (twinId : String) : Option State := (s.history twinId).getLast?

/-- A page of the states of a twin. -/
def page (s : StateStore) (twinId : String) (offset limit : Nat) : Page State :=
  .slice (s.history twinId) offset limit

/-- The number of states of all twins. -/
def size (s : StateStore) : Nat := s.histories.values.foldr (fun h n => h.length + n) 0

end StateStore

end DigitalTwin
