import DigitalTwin.Error
import DigitalTwin.Json.Value
import DigitalTwin.Text.Part
import DigitalTwin.Time.Instant

/-!
Twins and their definitions. A definition binds attributes to route keys; a twin keeps all its
definitions, oldest first, and the last one is in force.
-/

namespace DigitalTwin

/-- A named property and the key on which it is measured. Only the messages of persisted attributes
become states. -/
structure Attribute where
  name : String
  channel : String
  subtopic : String
  persisted : Bool
deriving DecidableEq, Repr, Inhabited

def Attribute.key (a : Attribute) : RouteKey := ⟨a.channel, a.subtopic⟩

/-- A numbered set of attributes. -/
structure Definition where
  id : Nat
  created : Instant
  attributes : List Attribute
deriving DecidableEq, Repr, Inhabited

namespace Definition

/-- The first attribute whose key is among `seen` or taken by an attribute before it. -/
def firstReuse? (seen : List RouteKey) : List Attribute → Option Attribute
  | [] => none
  | a :: rest => if seen.contains a.key then some a else firstReuse? (a.key :: seen) rest

/-- A definition may use a key once only. -/
def requireDistinctKeys (d : Definition) : Except ServiceError Unit :=
  match firstReuse? [] d.attributes with
  | some a => .error (.malformed (.reusedKey a.name a.key))
  | none => .ok ()

/-- The persisted attributes, in order. -/
def persisted (d : Definition) : List Attribute := d.attributes.filter (·.persisted)

/-- The keys of the persisted attributes, each once. -/
def persistedKeys (d : Definition) : List RouteKey := RouteKey.setOf (d.persisted.map (·.key))

/-- No persisted attribute may take its messages from the notification channel. -/
def requireUnreserved (notifyChannel : Option String) (d : Definition) : Except ServiceError Unit :=
  match notifyChannel with
  | none => .ok ()
  | some channel =>
    match d.persisted.find? (·.channel == channel) with
    | some a => .error (.malformed (.reservedChannel a.name channel))
    | none => .ok ()

/-- What a definition has to satisfy before it may be routed. -/
def requireRoutable (notifyChannel : Option String) (d : Definition) : Except ServiceError Unit :=
  match d.requireDistinctKeys with
  | .error e => .error e
  | .ok () => d.requireUnreserved notifyChannel

end Definition

/-- A digital twin of a device. -/
structure Twin where
  id : String
  owner : String
  name : String
  metadata : JsonFields
  created : Instant
  updated : Instant
  revision : Nat
  definitions : List Definition
deriving Inhabited

namespace Twin

/-- The definition in force, if there is one. -/
def current? (t : Twin) : Option Definition := t.definitions.getLast?

/-- The attributes whose messages become states now. -/
def persisted (t : Twin) : List Attribute := (t.current?.map (·.persisted)).getD []

/-- The keys of the attributes whose messages become states now, each once. -/
def persistedKeys (t : Twin) : List RouteKey := RouteKey.setOf (t.persisted.map (·.key))

/-- Whether the metadata have every field of the filter, with an equal value. -/
def hasMetadata (t : Twin) (filter : JsonFields) : Bool :=
  filter.all fun (name, value) =>
    match Json.field? name t.metadata with
    | some v => v.same value
    | none => false

/-- Whether a text occurs in the name of the twin. -/
def nameContains (t : Twin) (part : String) : Bool := Text.occursIn part.toList t.name.toList

end Twin

end DigitalTwin
