import DigitalTwin.Entity.Twin
import DigitalTwin.Table

/-!
The route table: which twin and which attribute the messages on a key belong to. A second table holds
the keys of each twin, so that the routes of a twin are found without a look at all others. Routes come
from the persisted attributes of the definition in force, and of two attributes with one key the later
counts.
-/

namespace DigitalTwin

/-- Where messages go. -/
structure Route where
  twinId : String
  routed : Attribute
  /-- The revision of the definition that the attribute belongs to. -/
  revision : Nat
deriving DecidableEq, Repr, Inhabited

/-- The keys that a change of the table routes anew and those that it leaves unrouted, in order. -/
structure RouteChange where
  added : List RouteKey
  removed : List RouteKey
deriving DecidableEq, Repr

def RouteChange.isEmpty (c : RouteChange) : Bool := c.added.isEmpty && c.removed.isEmpty

/-- Routes by key, and keys by twin. -/
structure RouteTable where
  routes : Table RouteKey Route
  keysOf : Table String (List RouteKey)
deriving DecidableEq, Repr, Inhabited

namespace RouteTable

def empty : RouteTable := ⟨.empty, .empty⟩

def get? (t : RouteTable) (key : RouteKey) : Option Route := t.routes.get? key

/-- Every routed key. -/
def keys (t : RouteTable) : List RouteKey := t.routes.keys

def size (t : RouteTable) : Nat := t.routes.size

def isEmpty (t : RouteTable) : Bool := t.routes.isEmpty

/-- Whether a key is routed to a twin other than the given one. -/
def takenFrom (t : RouteTable) (id : String) (key : RouteKey) : Bool :=
  match t.get? key with
  | some route => route.twinId != id
  | none => false

/-- A twin may be routed unless one of its keys is routed to another twin. -/
def requireFree (t : RouteTable) (twin : Twin) : Except ServiceError Unit :=
  if twin.persistedKeys.any (t.takenFrom twin.id) then .error .conflict else .ok ()

/-- Routes without the one on a key, if that goes to the given twin. -/
def dropRoute (id : String) (routes : Table RouteKey Route) (key : RouteKey) : Table RouteKey Route :=
  match routes.get? key with
  | some route => if route.twinId = id then routes.erase key else routes
  | none => routes

/-- Routes with one for an attribute of a twin. -/
def addRoute (twin : Twin) (routes : Table RouteKey Route) (a : Attribute) : Table RouteKey Route :=
  routes.insert a.key ⟨twin.id, a, twin.revision⟩

/-- Puts the routes of the definition in force in the place of those that the twin had. -/
def insert (t : RouteTable) (twin : Twin) : RouteChange × RouteTable :=
  let new := twin.persistedKeys
  let old := (t.keysOf.get? twin.id).getD []
  let removed := RouteKey.difference old new
  let added := RouteKey.difference new old
  let kept := removed.foldl (dropRoute twin.id) t.routes
  let others := t.keysOf.erase twin.id
  (⟨added, removed⟩,
    { routes := twin.persisted.foldl (addRoute twin) kept
      keysOf := if new.isEmpty then others else others.insert twin.id new })

/-- Takes the routes of a twin away. -/
def erase (t : RouteTable) (id : String) : RouteChange × RouteTable :=
  let removed := RouteKey.sorted ((t.keysOf.get? id).getD [])
  (⟨[], removed⟩,
    { routes := removed.foldl (dropRoute id) t.routes
      keysOf := t.keysOf.erase id })

/-- Whether the definition in force allows a twin to be routed, with no other twin looked at. -/
def isRoutable (notifyChannel : Option String) (twin : Twin) : Bool :=
  match twin.current? with
  | none => true
  | some d =>
    match d.requireRoutable notifyChannel with
    | .ok () => true
    | .error _ => false

/-- Routes one more twin, unless it may not be routed or an earlier one has a key of it. -/
def accept (notifyChannel : Option String) (t : RouteTable) (twin : Twin) : RouteTable :=
  if isRoutable notifyChannel twin then
    match t.requireFree twin with
    | .ok () => (t.insert twin).2
    | .error _ => t
  else t

/-- The routes of stored twins, of which the earlier has its keys first. -/
def ofTwins (notifyChannel : Option String) (twins : List Twin) : RouteTable :=
  twins.foldl (accept notifyChannel) empty

end RouteTable

end DigitalTwin
