/-!
Finite maps, as their entries in the order in which the names first came.
-/

namespace DigitalTwin

/-- A finite map. Every name has one entry at most. -/
structure Table (κ ν : Type) where
  entries : List (κ × ν)
deriving DecidableEq, Repr, Inhabited

namespace Table

variable {κ ν : Type}

def empty : Table κ ν := ⟨[]⟩

def keys (t : Table κ ν) : List κ := t.entries.map (·.1)

def values (t : Table κ ν) : List ν := t.entries.map (·.2)

def size (t : Table κ ν) : Nat := t.entries.length

def isEmpty (t : Table κ ν) : Bool := t.entries.isEmpty

variable [DecidableEq κ]

/-- The value under a name. -/
def get? (t : Table κ ν) (k : κ) : Option ν := (t.entries.find? (·.1 = k)).map (·.2)

def contains (t : Table κ ν) (k : κ) : Bool := (t.get? k).isSome

/-- Entries with a value put under a name: in place of the old value, or behind all. -/
def put (k : κ) (v : ν) : List (κ × ν) → List (κ × ν)
  | [] => [(k, v)]
  | (other, kept) :: rest => if other = k then (k, v) :: rest else (other, kept) :: put k v rest

/-- The table with a value under a name. -/
def insert (t : Table κ ν) (k : κ) (v : ν) : Table κ ν := ⟨put k v t.entries⟩

/-- The table without a name. -/
def erase (t : Table κ ν) (k : κ) : Table κ ν := ⟨t.entries.filter (·.1 ≠ k)⟩

/-- The table of a list of entries; of two with one name the later counts. -/
def ofList (entries : List (κ × ν)) : Table κ ν := entries.foldl (fun t (k, v) => t.insert k v) empty

end Table

end DigitalTwin
