import DigitalTwin.Table

/-!
A lock for each key. A slot counts those who use a key, holders and waiters alike, and is gone when
nobody does. A released lock belongs at once to whoever has waited longest, who notices when asked
again.
-/

namespace DigitalTwin

/-- A fair mutex: its owner and those who wait, the longest first. -/
structure Mutex where
  owner : Option String
  waiters : List String
deriving DecidableEq, Repr, Inhabited

namespace Mutex

def free : Mutex := ⟨none, []⟩

/-- A user asks for the mutex, and has it at once if it is free. -/
def request (m : Mutex) (user : String) : Mutex :=
  match m.owner with
  | none => { m with owner := some user }
  | some _ => { m with waiters := m.waiters ++ [user] }

/-- A user goes. If it was the owner, whoever has waited longest is. -/
def leave (m : Mutex) (user : String) : Mutex :=
  if m.owner = some user then ⟨m.waiters.head?, m.waiters.tail⟩
  else { m with waiters := m.waiters.erase user }

end Mutex

/-- The mutex of a key and the number of its users. -/
structure Slot where
  users : Nat
  mutex : Mutex
deriving DecidableEq, Repr, Inhabited

/-- What a user has of the key that it asked for. -/
inductive Claim where
  | waiting
  | held
deriving DecidableEq, Repr, Inhabited

/-- The claim that the mutex of a slot gives a user. -/
def Slot.claimOf (s : Slot) (user : String) : Claim :=
  if s.mutex.owner = some user then .held else .waiting

/-- Slots by key, and the key and claim of each user. -/
structure LockTable where
  slots : Table String Slot
  claims : Table String (String × Claim)
deriving DecidableEq, Repr, Inhabited

namespace LockTable

def empty : LockTable := ⟨.empty, .empty⟩

/-- What a user has. -/
def claim? (l : LockTable) (user : String) : Option Claim := (l.claims.get? user).map (·.2)

/-- How many keys are used. -/
def size (l : LockTable) : Nat := l.slots.size

/-- A user without a claim asks for the lock of a key. -/
def request (l : LockTable) (user key : String) : LockTable :=
  match l.claims.get? user with
  | some _ => l
  | none =>
    let slot := (l.slots.get? key).getD ⟨0, .free⟩
    let slot : Slot := ⟨slot.users + 1, slot.mutex.request user⟩
    { slots := l.slots.insert key slot
      claims := l.claims.insert user (key, slot.claimOf user) }

/-- A waiting user asks again. -/
def poll (l : LockTable) (user : String) : LockTable :=
  match l.claims.get? user with
  | some (key, .waiting) =>
    match l.slots.get? key with
    | some slot => { l with claims := l.claims.insert user (key, slot.claimOf user) }
    | none => l
  | _ => l

/-- A user gives up its claim. -/
def leave (l : LockTable) (user : String) : LockTable :=
  match l.claims.get? user with
  | none => l
  | some (key, _) =>
    let claims := l.claims.erase user
    match l.slots.get? key with
    | none => { l with claims }
    | some slot =>
      let slot : Slot := ⟨slot.users - 1, slot.mutex.leave user⟩
      if slot.users = 0 then ⟨l.slots.erase key, claims⟩ else ⟨l.slots.insert key slot, claims⟩

end LockTable

end DigitalTwin
