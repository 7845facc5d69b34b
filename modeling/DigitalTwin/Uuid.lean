/-!
Random identifiers: UUIDs of version 4, in lower case with hyphens (RFC 9562).
-/

namespace DigitalTwin

namespace Uuid

/-- The groups of hexadecimal digits between the hyphens. -/
def groups : List Nat := [8, 4, 4, 4, 12]

/-- The hexadecimal digits of a number, most significant first, `width` of them. -/
def hexDigits : Nat → Nat → List Char
  | 0, _ => []
  | width + 1, n => hexDigits width (n / 16) ++ [Nat.digitChar (n % 16)]

/-- Digits cut into groups with hyphens between. -/
def hyphenate : List Nat → List Char → List Char
  | [], _ => []
  | [width], digits => digits.take width
  | width :: rest, digits => digits.take width ++ '-' :: hyphenate rest (digits.drop width)

/-- The UUID of version 4 over 128 random bits, of which six make way for version and variant. -/
def ofRandom (bits : Nat) : String :=
  let upper := bits / 0x10000000000000000 % 0x10000000000000000
  let upper := upper / 0x10000 * 0x10000 + 0x4000 + upper % 0x1000
  let lower := 0x8000000000000000 + bits % 0x4000000000000000
  String.ofList (hyphenate groups (hexDigits 16 upper ++ hexDigits 16 lower))

def isHexDigit (c : Char) : Bool := c.isDigit || decide ('a' ≤ c ∧ c ≤ 'f')

/-- Whether a text is a UUID of version 4 as this library writes them. -/
def isVersion4 (text : String) : Bool :=
  let cs := text.toList
  let digits := cs.filter (· ≠ '-')
  digits.all isHexDigit && decide (digits.length = 32) && cs == hyphenate groups digits &&
    decide (digits[12]? = some '4') && (['8', '9', 'a', 'b'].map some).contains digits[16]?

end Uuid

end DigitalTwin
