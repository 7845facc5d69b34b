import DigitalTwin.Binary64.Decimal
import DigitalTwin.Json.Document
import DigitalTwin.Text.Utf8

/-!
The lexemes of JSON text: punctuation, words, numbers and quoted text, read from UTF-8 bytes. Numbers
and text are read by form first and by meaning second, so that a well-formed lexeme without a meaning
can be passed over.
-/

namespace DigitalTwin

/-- The punctuation of JSON, and the documents of a single lexeme. -/
inductive Lexeme where
  | openArray
  | closeArray
  | openObject
  | closeObject
  | colon
  | comma
  | scalar (value : Document)
deriving Inhabited

namespace Lexeme

def isDigit (b : UInt8) : Bool := decide (0x30 ≤ b ∧ b ≤ 0x39)

/-- Spaces, tabs and line ends may stand between lexemes. -/
def isSpace (b : UInt8) : Bool := b == 0x20 || b == 0x09 || b == 0x0A || b == 0x0D

/-- The number that a run of digits writes. -/
def natural (digits : List UInt8) : Nat := digits.foldl (fun n b => 10 * n + (b.toNat - 0x30)) 0

/-- A number as it is written: its sign, its digits before and after the point, and its exponent. -/
structure Numeral where
  negative : Bool
  whole : List UInt8
  fraction : List UInt8
  exponent : Option Int

/-- A numeral without fraction and exponent is an integer if that fits sixty-four bits, except that -0
is a float; any other is the nearest float, and has no meaning past the largest finite one. -/
def Numeral.number? (n : Numeral) : Option Number :=
  let whole := natural n.whole
  let float : Option Number :=
    let x := Decimal.toBinary64 ⟨n.negative, natural (n.whole ++ n.fraction),
      n.exponent.getD 0 - n.fraction.length⟩
    if x.isFinite then some (.float x) else none
  if !n.fraction.isEmpty || n.exponent.isSome then float
  else if n.negative then
    if 0 < whole ∧ whole ≤ Nat.pow 2 63 then some (.integer (-whole)) else float
  else if whole < Nat.pow 2 64 then some (.integer whole)
  else float

/-- The exponent at the start of some bytes, absent if they do not start with `e`. -/
def exponent? : List UInt8 → Option (Option Int × List UInt8)
  | [] => some (none, [])
  | b :: rest =>
    if b = 0x65 ∨ b = 0x45 then
      let (negative, rest) := match rest with
        | 0x2D :: rest => (true, rest)
        | 0x2B :: rest => (false, rest)
        | _ => (false, rest)
      let (digits, rest) := rest.span isDigit
      if digits.isEmpty then none
      else
        let e : Int := natural digits
        some (some (if negative then -e else e), rest)
    else some (none, b :: rest)

/-- The fraction at the start of some bytes, empty if they do not start with a point. -/
def fraction? : List UInt8 → Option (List UInt8 × List UInt8)
  | 0x2E :: rest =>
    let (digits, rest) := rest.span isDigit
    if digits.isEmpty then none else some (digits, rest)
  | bytes => some ([], bytes)

/-- The numeral at the start of some bytes. It has a digit before the point, and no zero in front of
another digit. -/
def numeral? (bytes : List UInt8) : Option (Numeral × List UInt8) :=
  let (negative, rest) := match bytes with
    | 0x2D :: rest => (true, rest)
    | _ => (false, bytes)
  let (whole, rest) := match rest with
    | 0x30 :: rest => ([0x30], rest)
    | _ => rest.span isDigit
  if whole.isEmpty then none
  else
    match fraction? rest with
    | none => none
    | some (fraction, rest) =>
      match exponent? rest with
      | none => none
      | some (exponent, rest) => some (⟨negative, whole, fraction, exponent⟩, rest)

/-- The value of a hexadecimal digit. -/
def hexDigit? (b : UInt8) : Option Nat :=
  if isDigit b then some (b.toNat - 0x30)
  else if 0x61 ≤ b ∧ b ≤ 0x66 then some (b.toNat - 0x61 + 10)
  else if 0x41 ≤ b ∧ b ≤ 0x46 then some (b.toNat - 0x41 + 10)
  else none

/-- What a backslash and one more byte stand for. -/
def escaped? (b : UInt8) : Option UInt8 :=
  if b = 0x22 ∨ b = 0x5C ∨ b = 0x2F then some b
  else if b = 0x62 then some 0x08
  else if b = 0x66 then some 0x0C
  else if b = 0x6E then some 0x0A
  else if b = 0x72 then some 0x0D
  else if b = 0x74 then some 0x09
  else none

def isHighSurrogate (code : Nat) : Bool := decide (0xD800 ≤ code ∧ code < 0xDC00)

def isLowSurrogate (code : Nat) : Bool := decide (0xDC00 ≤ code ∧ code < 0xE000)

/-- Quoted text as far as it is read: its bytes, last first, a high surrogate that waits for its
partner, and whether every surrogate before had one. -/
structure Quoted where
  bytes : List UInt8
  high : Option Nat
  sound : Bool

namespace Quoted

def empty : Quoted := ⟨[], none, true⟩

/-- A byte behind the text. -/
def push (t : Quoted) (b : UInt8) : Quoted := ⟨b :: t.bytes, none, t.sound && t.high.isNone⟩

/-- A code point behind the text. -/
def pushCode (t : Quoted) (code : Nat) : Quoted :=
  ⟨(String.utf8EncodeChar (Char.ofNat code)).reverse ++ t.bytes, none, t.sound⟩

/-- A sixteen-bit unit behind the text. A high surrogate waits, and a low one completes it. -/
def pushUnit (t : Quoted) (unit : Nat) : Quoted :=
  if isLowSurrogate unit then
    match t.high with
    | some high => t.pushCode (0x10000 + (high - 0xD800) * 1024 + (unit - 0xDC00))
    | none => { t with sound := false }
  else if isHighSurrogate unit then ⟨t.bytes, some unit, t.sound && t.high.isNone⟩
  else ({ t with sound := t.sound && t.high.isNone }).pushCode unit

/-- The text, if it is one. -/
def text? (t : Quoted) : Option String :=
  if t.sound && t.high.isNone then Text.Utf8.decode? t.bytes.reverse else none

/-- Where the next byte of quoted text stands. -/
inductive Place where
  | plain
  | escape
  /-- Among the digits of a unit: how many are missing, and the value of those before. -/
  | unit (missing value : Nat)

/-- Reads quoted text to behind its closing quote. -/
def read? (t : Quoted) (place : Place) : List UInt8 → Option (Option String × List UInt8)
  | [] => none
  | b :: rest =>
    match place with
    | .plain =>
      if b = 0x22 then some (t.text?, rest)
      else if b = 0x5C then read? t .escape rest
      else if b < 0x20 then none
      else read? (t.push b) .plain rest
    | .escape =>
      if b = 0x75 then read? t (.unit 4 0) rest
      else
        match escaped? b with
        | none => none
        | some c => read? (t.push c) .plain rest
    | .unit missing value =>
      match hexDigit? b with
      | none => none
      | some d =>
        if missing ≤ 1 then read? (t.pushUnit (value * 16 + d)) .plain rest
        else read? t (.unit (missing - 1) (value * 16 + d)) rest

end Quoted

/-- The lexeme that some bytes start with, and what follows it. -/
def next? : List UInt8 → Option (Lexeme × List UInt8)
  | 0x5B :: rest => some (.openArray, rest)
  | 0x5D :: rest => some (.closeArray, rest)
  | 0x7B :: rest => some (.openObject, rest)
  | 0x7D :: rest => some (.closeObject, rest)
  | 0x3A :: rest => some (.colon, rest)
  | 0x2C :: rest => some (.comma, rest)
  | 0x22 :: rest => (Quoted.empty.read? .plain rest).map fun (s, rest) => (.scalar (.text s), rest)
  | 0x6E :: 0x75 :: 0x6C :: 0x6C :: rest => some (.scalar .null, rest)
  | 0x74 :: 0x72 :: 0x75 :: 0x65 :: rest => some (.scalar (.bool true), rest)
  | 0x66 :: 0x61 :: 0x6C :: 0x73 :: 0x65 :: rest => some (.scalar (.bool false), rest)
  | bytes => (numeral? bytes).map fun (n, rest) => (.scalar (.number n.number?), rest)

/-- The lexemes of some bytes, behind those read before, which are held last first. Every lexeme takes
a byte at least, so as many rounds as there are bytes are enough. -/
def readOnto (before : List Lexeme) : Nat → List UInt8 → Option (List Lexeme)
  | 0, bytes => if (bytes.dropWhile isSpace).isEmpty then some before.reverse else none
  | rounds + 1, bytes =>
    match bytes.dropWhile isSpace with
    | [] => some before.reverse
    | bytes =>
      match next? bytes with
      | none => none
      | some (lexeme, rest) => readOnto (lexeme :: before) rounds rest

/-- The lexemes of JSON text. -/
def read? (bytes : List UInt8) : Option (List Lexeme) := readOnto [] bytes.length bytes

end Lexeme

end DigitalTwin
