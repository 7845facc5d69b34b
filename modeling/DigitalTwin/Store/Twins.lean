import DigitalTwin.Entity.Page
import DigitalTwin.Entity.Twin
import DigitalTwin.Table

/-!
The store of twins. A twin has a sequence number from the moment it is stored until it is removed; one
table finds the number of an id, the other holds the twins in the order of their numbers.
-/

namespace DigitalTwin

/-- Stored twins. -/
structure TwinStore where
  nextSeq : Nat
  seqOf : Table String Nat
  /-- Twins by sequence number, in its order. -/
  bySeq : List (Nat × Twin)
deriving Inhabited

namespace TwinStore

def empty : TwinStore := ⟨0, .empty, []⟩

/-- Twins with one put at its sequence number. -/
def putAt (seq : Nat) (twin : Twin) : List (Nat × Twin) → List (Nat × Twin)
  | [] => [(seq, twin)]
  | (other, kept) :: rest =>
    if seq < other then (seq, twin) :: (other, kept) :: rest
    else if seq = other then (seq, twin) :: rest
    else (other, kept) :: putAt seq twin rest

/-- Every twin, the longest stored first. -/
def toList (s : TwinStore) : List Twin := s.bySeq.map (·.2)

/-- Stores a twin under an id that is not taken. -/
def insert (s : TwinStore) (twin : Twin) : Except ServiceError TwinStore :=
  if s.seqOf.contains twin.id then .error .conflict
  else .ok {
    nextSeq := s.nextSeq + 1
    seqOf := s.seqOf.insert twin.id s.nextSeq
    bySeq := putAt s.nextSeq twin s.bySeq }

/-- Puts a twin in the place of the one with its id. -/
def replace (s : TwinStore) (twin : Twin) : Except ServiceError TwinStore :=
  match s.seqOf.get? twin.id with
  | none => .error .notFound
  | some seq => .ok { s with bySeq := putAt seq twin s.bySeq }

/-- The twin with an id. -/
def get? (s : TwinStore) (id : String) : Option Twin := (s.seqOf.get? id).bind (s.bySeq.lookup ·)

/-- The twin with an id, which has to be stored. -/
def get (s : TwinStore) (id : String) : Except ServiceError Twin :=
  match s.get? id with
  | some twin => .ok twin
  | none => .error .notFound

/-- Takes away the twin with an id, if there is one. -/
def erase (s : TwinStore) (id : String) : TwinStore :=
  match s.seqOf.get? id with
  | none => s
  | some seq => { s with seqOf := s.seqOf.erase id, bySeq := s.bySeq.filter (·.1 ≠ seq) }

/-- What a listing of twins asks for. -/
structure Filter where
  owner : String
  /-- A text that the name has to contain. -/
  name : Option String
  /-- Fields that the metadata have to have. -/
  metadata : Option JsonFields

/-- Whether a twin is asked for. -/
def Filter.accepts (f : Filter) (twin : Twin) : Bool :=
  twin.owner == f.owner && f.name.all twin.nameContains && f.metadata.all twin.hasMetadata

/-- A page of the twins that are asked for. -/
def page (s : TwinStore) (f : Filter) (offset limit : Nat) : Page Twin :=
  .slice (s.toList.filter f.accepts) offset limit

end TwinStore

end DigitalTwin
