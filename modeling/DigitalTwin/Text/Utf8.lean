/-!
UTF-8: reading bytes as text. A character is read only from its shortest form, and no surrogate and
nothing past the last code point is one, so bytes have at most one reading.
-/

namespace DigitalTwin.Text.Utf8

/-- The six bits that a continuation byte carries. -/
def tail? (b : UInt8) : Option Nat :=
  if 0x80 ≤ b ∧ b ≤ 0xBF then some (b.toNat - 0x80) else none

/-- The character with a code point, if it is one and at least `least`. -/
def character? (least code : Nat) : Option Char :=
  if least ≤ code then
    if h : code.isValidChar then some (Char.ofNatAux code h) else none
  else none

def pair? (a b : UInt8) : Option Char := do
  character? 0x80 ((a.toNat - 0xC0) * 64 + (← tail? b))

def triple? (a b c : UInt8) : Option Char := do
  character? 0x800 (((a.toNat - 0xE0) * 64 + (← tail? b)) * 64 + (← tail? c))

def quadruple? (a b c d : UInt8) : Option Char := do
  character? 0x10000 ((((a.toNat - 0xF0) * 64 + (← tail? b)) * 64 + (← tail? c)) * 64 + (← tail? d))

/-- Reads bytes onto the characters before them, which are held last first. -/
def decodeOnto (before : List Char) : List UInt8 → Option (List Char)
  | [] => some before.reverse
  | a :: rest =>
    if a < 0x80 then decodeOnto (Char.ofNat a.toNat :: before) rest
    else if a < 0xC0 then none
    else
      match rest with
      | [] => none
      | b :: rest =>
        if a < 0xE0 then
          match pair? a b with
          | some x => decodeOnto (x :: before) rest
          | none => none
        else
          match rest with
          | [] => none
          | c :: rest =>
            if a < 0xF0 then
              match triple? a b c with
              | some x => decodeOnto (x :: before) rest
              | none => none
            else
              match rest with
              | [] => none
              | d :: rest =>
                match quadruple? a b c d with
                | some x => decodeOnto (x :: before) rest
                | none => none

/-- The text that the bytes are the UTF-8 form of. -/
def decode? (bytes : List UInt8) : Option String := (decodeOnto [] bytes).map String.ofList

/-- The ranges of the bytes that follow a first byte in the form of a character; none where the byte is a
character of its own or no form starts with it. -/
def followers (a : UInt8) : List (UInt8 × UInt8) :=
  let any : UInt8 × UInt8 := (0x80, 0xBF)
  if a < 0xC2 then []
  else if a < 0xE0 then [any]
  else if a = 0xE0 then [(0xA0, 0xBF), any]
  else if a = 0xED then [(0x80, 0x9F), any]
  else if a < 0xF0 then [any, any]
  else if a = 0xF0 then [(0x90, 0xBF), any, any]
  else if a < 0xF4 then [any, any, any]
  else if a = 0xF4 then [(0x80, 0x8F), any, any]
  else []

/-- The bytes that fit the ranges in front, as far as they do. -/
def fitting : List (UInt8 × UInt8) → List UInt8 → List UInt8
  | (first, last) :: ranges, b :: rest => if first ≤ b ∧ b ≤ last then b :: fitting ranges rest else []
  | _, _ => []

/-- Cuts bytes into the forms of characters and what is none: each longest start of a form that breaks
off, and each byte that starts no form. The number bounds the pieces. -/
def pieces : Nat → List UInt8 → List (List UInt8)
  | n + 1, a :: rest =>
    let tail := fitting (followers a) rest
    (a :: tail) :: pieces n (rest.drop tail.length)
  | _, _ => []

/-- The text of bytes with the replacement character for each piece that is no character. -/
def decodeLossy (bytes : List UInt8) : String :=
  String.join ((pieces bytes.length bytes).map fun piece => (decode? piece).getD "\uFFFD")

/-- The UTF-8 form of a text. -/
def encode (s : String) : List UInt8 := s.toUTF8.toList

end DigitalTwin.Text.Utf8
