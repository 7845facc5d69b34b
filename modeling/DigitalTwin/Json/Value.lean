import DigitalTwin.Binary64.Basic

/-!
JSON values. A number is an integer or a binary64 number, and which of the two it is belongs to the
value: 1 and 1.0 are different. The fields of an object are held sorted by name, one field a name.
-/

namespace DigitalTwin

/-- A JSON number: an integer that fits sixty-four bits, signed or unsigned, or a finite binary64
number. -/
inductive Number where
  | integer (value : Int)
  | float (value : Binary64)
deriving DecidableEq, Repr, Inhabited

namespace Number

/-- Integers are equal to integers, floats to floats; the two zeros among the floats are equal. -/
def same : Number → Number → Bool
  | .integer a, .integer b => decide (a = b)
  | .float a, .float b => a.same b
  | _, _ => false

/-- The nearest binary64 number. -/
def toBinary64 : Number → Binary64
  | .integer i => .ofInt i
  | .float x => x

/-- The number as an unsigned integer of sixty-four bits. A float is never one. -/
def unsigned? : Number → Option Nat
  | .integer i => if 0 ≤ i ∧ i < Nat.pow 2 64 then some i.toNat else none
  | .float _ => none

end Number

/-- A JSON value. -/
inductive Json where
  | null
  | bool (value : Bool)
  | number (value : Number)
  | text (value : String)
  | array (items : List Json)
  | object (fields : List (String × Json))
deriving Inhabited, Repr

/-- The fields of a JSON object, sorted by name. -/
abbrev JsonFields := List (String × Json)

namespace Json

/-- Sets a field, at its place in the order of names. -/
def insertField (name : String) (value : Json) : JsonFields → JsonFields
  | [] => [(name, value)]
  | (other, kept) :: rest =>
    if name = other then (name, value) :: rest
    else if name < other then (name, value) :: (other, kept) :: rest
    else (other, kept) :: insertField name value rest

/-- The value of a field. -/
def field? (name : String) (fields : JsonFields) : Option Json := fields.lookup name

/-- An object with the given fields; of two with one name the later stays. -/
def ofFields (fields : List (String × Json)) : Json :=
  .object (fields.foldl (fun done (name, value) => insertField name value done) [])

def integer (i : Int) : Json := .number (.integer i)

def float (x : Binary64) : Json := .number (.float x)

/-- A finite number, and `null` for a result that is not one. -/
def finite (x : Binary64) : Json := if x.isFinite then float x else .null

mutual

/-- Equality of values, with the zeros among the floats taken as one. -/
def same : Json → Json → Bool
  | .null, .null => true
  | .bool a, .bool b => a == b
  | .number a, .number b => a.same b
  | .text a, .text b => a == b
  | .array a, .array b => sameItems a b
  | .object a, .object b => sameFields a b
  | _, _ => false

def sameItems : List Json → List Json → Bool
  | [], [] => true
  | x :: xs, y :: ys => same x y && sameItems xs ys
  | _, _ => false

def sameFields : List (String × Json) → List (String × Json) → Bool
  | [], [] => true
  | (m, x) :: xs, (n, y) :: ys => m == n && same x y && sameFields xs ys
  | _, _ => false

end

end Json

end DigitalTwin
