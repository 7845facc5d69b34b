import DigitalTwin.Binary64.Decimal
import DigitalTwin.Json.Value

/-!
JSON text of a value: no space between lexemes, and escapes only for what may not stand in quotes.
-/

namespace DigitalTwin

namespace Json

/-- The digits of a code point below 0x20 behind `\u00`. -/
def controlDigits (code : Nat) : List Char :=
  [Nat.digitChar (code / 16), Nat.digitChar (code % 16)]

/-- A character between quotes. -/
def escape (c : Char) : List Char :=
  if c = '"' then ['\\', '"']
  else if c = '\\' then ['\\', '\\']
  else if c = '\x08' then ['\\', 'b']
  else if c = '\x0c' then ['\\', 'f']
  else if c = '\n' then ['\\', 'n']
  else if c = '\r' then ['\\', 'r']
  else if c = '\t' then ['\\', 't']
  else if c.toNat < 0x20 then ['\\', 'u', '0', '0'] ++ controlDigits c.toNat
  else [c]

/-- Text in quotes. -/
def quote (s : String) : List Char := '"' :: s.toList.flatMap escape ++ ['"']

def renderNumber : Number → List Char
  | .integer i => (toString i).toList
  | .float x => x.jsonText.toList

mutual

/-- The text of a value, in front of what follows it. -/
def renderOnto (after : List Char) : Json → List Char
  | .null => 'n' :: 'u' :: 'l' :: 'l' :: after
  | .bool true => 't' :: 'r' :: 'u' :: 'e' :: after
  | .bool false => 'f' :: 'a' :: 'l' :: 's' :: 'e' :: after
  | .number n => renderNumber n ++ after
  | .text s => quote s ++ after
  | .array [] => '[' :: ']' :: after
  | .array (v :: rest) => '[' :: renderOnto (renderItems after rest) v
  | .object [] => '\x7b' :: '\x7d' :: after
  | .object ((name, v) :: rest) => '\x7b' :: (quote name ++ ':' :: renderOnto (renderFields after rest) v)

/-- The items behind the first one, each with a comma in front, and the end of the array. -/
def renderItems (after : List Char) : List Json → List Char
  | [] => ']' :: after
  | v :: rest => ',' :: renderOnto (renderItems after rest) v

/-- The fields behind the first one, each with a comma in front, and the end of the object. -/
def renderFields (after : List Char) : List (String × Json) → List Char
  | [] => '\x7d' :: after
  | (name, v) :: rest => ',' :: (quote name ++ ':' :: renderOnto (renderFields after rest) v)

end

/-- The text of a value. -/
def render (v : Json) : String := String.ofList (renderOnto [] v)

end Json

end DigitalTwin
