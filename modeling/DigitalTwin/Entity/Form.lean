import DigitalTwin.Json.Fields
import DigitalTwin.Entity.Page
import DigitalTwin.Entity.State
import DigitalTwin.Entity.Twin

/-!
The JSON forms of keys, definitions, twins, states, messages and pages: how each is read from a document
and written as a value. `depth` counts the containers that a free-form value may still open.
-/

namespace DigitalTwin

namespace RouteKey

def ofDocument? (d : Document) : Option RouteKey := do
  let f ← d.fields? ["channel", "subtopic"]
  return { channel := ← f.required? "channel" Document.text?
           subtopic := ← f.required? "subtopic" Document.text? }

def toJson (k : RouteKey) : Json :=
  .ofFields [("channel", .text k.channel), ("subtopic", .text k.subtopic)]

end RouteKey

namespace Attribute

def ofDocument? (d : Document) : Option Attribute := do
  let f ← d.fields? ["name", "channel", "subtopic", "persistState"]
  return { name := ← f.required? "name" Document.text?
           channel := ← f.required? "channel" Document.text?
           subtopic := ← f.required? "subtopic" Document.text?
           persisted := ← f.required? "persistState" Document.bool? }

def toJson (a : Attribute) : Json :=
  .ofFields [("name", .text a.name), ("channel", .text a.channel), ("subtopic", .text a.subtopic),
    ("persistState", .bool a.persisted)]

end Attribute

/-- An instant as RFC 3339 text. -/
def Instant.toJson (t : Instant) : Json := .text t.toText

namespace Definition

def ofDocument? (d : Document) : Option Definition := do
  let f ← d.fields? ["id", "created", "attributes"]
  return { id := ← f.required? "id" Document.unsigned?
           created := ← f.required? "created" Document.instant?
           attributes := ← f.required? "attributes" (Document.list? Attribute.ofDocument?) }

def toJson (d : Definition) : Json :=
  .ofFields [("id", .integer d.id), ("created", d.created.toJson),
    ("attributes", .array (d.attributes.map Attribute.toJson))]

end Definition

namespace Twin

def ofDocument? (depth : Nat) (d : Document) : Option Twin := do
  let f ← d.fields?
    ["id", "owner", "name", "metadata", "created", "updated", "revision", "definitions"]
  return { id := ← f.required? "id" Document.text?
           owner := ← f.required? "owner" Document.text?
           name := ← f.required? "name" Document.text?
           metadata := ← f.defaulted? "metadata" [] (Document.object? (depth - 1))
           created := ← f.required? "created" Document.instant?
           updated := ← f.required? "updated" Document.instant?
           revision := ← f.required? "revision" Document.unsigned?
           definitions := ← f.required? "definitions" (Document.list? Definition.ofDocument?) }

def toJson (t : Twin) : Json :=
  .ofFields [("id", .text t.id), ("owner", .text t.owner), ("name", .text t.name),
    ("metadata", .object t.metadata), ("created", t.created.toJson), ("updated", t.updated.toJson),
    ("revision", .integer t.revision), ("definitions", .array (t.definitions.map Definition.toJson))]

end Twin

namespace State

def ofDocument? (depth : Nat) (d : Document) : Option State := do
  let f ← d.fields? ["twinId", "id", "definition", "created", "payload"]
  return { twinId := ← f.required? "twinId" Document.text?
           id := ← f.required? "id" Document.unsigned?
           definition := ← f.required? "definition" Document.unsigned?
           created := ← f.required? "created" Document.instant?
           payload := ← f.required? "payload" (Document.object? (depth - 1)) }

def toJson (s : State) : Json :=
  .ofFields [("twinId", .text s.twinId), ("id", .integer s.id), ("definition", .integer s.definition),
    ("created", s.created.toJson), ("payload", .object s.payload)]

end State

namespace Message

def ofDocument? (d : Document) : Option Message := do
  let f ← d.fields? ["channel", "subtopic", "publisher", "payload", "created"]
  return { channel := ← f.required? "channel" Document.text?
           subtopic := ← f.required? "subtopic" Document.text?
           publisher := ← f.required? "publisher" Document.text?
           payload := ← f.required? "payload" (Document.list? Document.byte?)
           created := ← f.required? "created" Document.instant? }

def toJson (m : Message) : Json :=
  .ofFields [("channel", .text m.channel), ("subtopic", .text m.subtopic),
    ("publisher", .text m.publisher), ("payload", .array (m.payload.map fun b => .integer b.toNat)),
    ("created", m.created.toJson)]

end Message

namespace PageInfo

def labels : List String := ["total", "offset", "limit"]

def ofFields? (f : Document.Fields) : Option PageInfo := do
  return { total := ← f.required? "total" Document.unsigned?
           offset := ← f.required? "offset" Document.unsigned?
           limit := ← f.required? "limit" Document.unsigned? }

def ofDocument? (d : Document) : Option PageInfo := do
  let f ← d.fields? labels
  ofFields? f

def fields (p : PageInfo) : List (String × Json) :=
  [("total", .integer p.total), ("offset", .integer p.offset), ("limit", .integer p.limit)]

def toJson (p : PageInfo) : Json := .ofFields p.fields

end PageInfo

namespace Page

/-- A page is an object that holds its place beside its items, under the label `items`. Its other
members are not passed over unread: each has to have a value. -/
def ofDocument? {α : Type} (label : String) (read : Document → Option α) (depth : Nat) (d : Document) :
    Option (Page α) := do
  let f ← d.fields? (label :: PageInfo.labels)
  match d with
  | .object members =>
    let others := members.filter fun (name, _) => name != some label
    let _ ← Document.members? (depth - 1) [] others
    return { info := ← PageInfo.ofFields? f
             items := ← f.required? label (Document.list? read) }
  | _ => none

def toJson {α : Type} (label : String) (write : α → Json) (p : Page α) : Json :=
  .ofFields ((label, .array (p.items.map write)) :: p.info.fields)

end Page

/-- The page form of twins, three containers deep before a twin has opened its own. -/
def twinsPageOfDocument? (d : Document) : Option (Page Twin) :=
  Page.ofDocument? "twins" (Twin.ofDocument? (Document.depthLimit - 2)) Document.depthLimit d

def twinsPageToJson (p : Page Twin) : Json := p.toJson "twins" Twin.toJson

def statesPageOfDocument? (d : Document) : Option (Page State) :=
  Page.ofDocument? "states" (State.ofDocument? (Document.depthLimit - 2)) Document.depthLimit d

def statesPageToJson (p : Page State) : Json := p.toJson "states" State.toJson

end DigitalTwin
