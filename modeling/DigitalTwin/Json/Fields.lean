import DigitalTwin.Json.Document
import DigitalTwin.Time.Rfc3339

/-!
Structures in documents. A structure is written as an object, whose members come in any order and among
others that are passed over, or as an array of its fields in their declared order. A field is read by
one of three rules: it has to be there, or it may be absent or `null`, or a default stands in for it.
-/

namespace DigitalTwin

namespace Document

/-- The fields of a structure that a document gives. -/
structure Fields where
  given : List (String × Document)
  /-- Whether the fields are told apart by their place in an array. -/
  byPlace : Bool

/-- The members with known names, which may not be repeated; every name has to be text. -/
def knownMembers? (names : List String) (before : List (String × Document)) :
    List (Option String × Document) → Option (List (String × Document))
  | [] => some before
  | (none, _) :: _ => none
  | (some name, d) :: rest =>
    if names.contains name then
      match before.lookup name with
      | some _ => none
      | none => knownMembers? names ((name, d) :: before) rest
    else knownMembers? names before rest

/-- The fields of a structure with the given names. -/
def fields? (names : List String) : Document → Option Fields
  | .object members => (knownMembers? names [] members).map (⟨·, false⟩)
  | .array items => if items.length ≤ names.length then some ⟨names.zip items, true⟩ else none
  | _ => none

/-- A value that `null` stands for the absence of. -/
def nullable? {α : Type} (read : Document → Option α) : Document → Option (Option α)
  | .null => some none
  | d => (read d).map some

namespace Fields

/-- A field that has to be there. -/
def required? {α : Type} (f : Fields) (name : String) (read : Document → Option α) : Option α :=
  (f.given.lookup name).bind read

/-- A field with a value that stands in for it. -/
def defaulted? {α : Type} (f : Fields) (name : String) (default : α) (read : Document → Option α) :
    Option α :=
  match f.given.lookup name with
  | none => some default
  | some d => read d

/-- A field that may be absent or `null`. -/
def optional? {α : Type} (f : Fields) (name : String) (read : Document → Option α) :
    Option (Option α) :=
  f.defaulted? name none (nullable? read)

/-- A field that may be absent from an object, but not from an array, and may be `null`. -/
def placed? {α : Type} (f : Fields) (name : String) (read : Document → Option α) :
    Option (Option α) :=
  if f.byPlace then f.required? name (nullable? read) else f.optional? name read

end Fields

def text? : Document → Option String
  | .text s => s
  | _ => none

def bool? : Document → Option Bool
  | .bool b => some b
  | _ => none

/-- An unsigned integer of sixty-four bits. -/
def unsigned? : Document → Option Nat
  | .number n => n.bind (·.unsigned?)
  | _ => none

/-- A number, of which an integer is taken as the nearest float. -/
def float? : Document → Option Binary64
  | .number n => n.map (·.toBinary64)
  | _ => none

/-- A byte, written as a number. -/
def byte? (d : Document) : Option UInt8 :=
  match d.unsigned? with
  | some n => if n < 256 then some (UInt8.ofNat n) else none
  | none => none

/-- An instant, written as RFC 3339 text. -/
def instant? (d : Document) : Option Instant := d.text?.bind Instant.ofText?

/-- The fields of an object of values, which counts as one of the `depth` containers. -/
def object? (depth : Nat) (d : Document) : Option JsonFields :=
  match d.value? depth with
  | some (.object fields) => some fields
  | _ => none

/-- The items of a list. -/
def itemsOf? {α : Type} (read : Document → Option α) : List Document → Option (List α)
  | [] => some []
  | d :: rest =>
    match read d with
    | none => none
    | some x => (itemsOf? read rest).map (x :: ·)

def list? {α : Type} (read : Document → Option α) : Document → Option (List α)
  | .array items => itemsOf? read items
  | _ => none

end Document

end DigitalTwin
