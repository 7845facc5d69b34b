import DigitalTwin.Json.Value

/-!
JSON documents as they are read, before anybody has asked what they mean. A document keeps every
member of an object in order, repeated names included, and keeps a lexeme that is well-formed but has
no meaning (a number past the largest finite one, text that is not Unicode) as `none`: such a lexeme is
an error only where its value is wanted.
-/

namespace DigitalTwin

/-- A JSON document. -/
inductive Document where
  | null
  | bool (value : Bool)
  | number (value : Option Number)
  | text (value : Option String)
  | array (items : List Document)
  | object (members : List (Option String × Document))
deriving Inhabited, Repr

namespace Document

mutual

/-- The value of a document with at most `depth` containers open at once. -/
def value? (depth : Nat) : Document → Option Json
  | .null => some .null
  | .bool b => some (.bool b)
  | .number n => n.map .number
  | .text s => s.map .text
  | .array items =>
    match depth with
    | 0 => none
    | depth + 1 => (items? depth items).map .array
  | .object members =>
    match depth with
    | 0 => none
    | depth + 1 => (members? depth [] members).map .object

def items? (depth : Nat) : List Document → Option (List Json)
  | [] => some []
  | d :: rest =>
    match value? depth d with
    | none => none
    | some v => (items? depth rest).map (v :: ·)

/-- The fields of an object beside those read before; the later of two with one name stays. -/
def members? (depth : Nat) (before : JsonFields) : List (Option String × Document) → Option JsonFields
  | [] => some before
  | (name, d) :: rest =>
    match name, value? depth d with
    | some name, some v => members? depth (Json.insertField name v before) rest
    | _, _ => none

end

/-- How many containers a document may have open at once. -/
def depthLimit : Nat := 127

end Document

namespace Json

mutual

/-- The document that stands for a value. -/
def toDocument : Json → Document
  | .null => .null
  | .bool b => .bool b
  | .number n => .number (some n)
  | .text s => .text (some s)
  | .array items => .array (itemDocuments items)
  | .object fields => .object (fieldDocuments fields)

def itemDocuments : List Json → List Document
  | [] => []
  | v :: rest => toDocument v :: itemDocuments rest

def fieldDocuments : List (String × Json) → List (Option String × Document)
  | [] => []
  | (name, v) :: rest => (some name, toDocument v) :: fieldDocuments rest

end

end Json

end DigitalTwin
