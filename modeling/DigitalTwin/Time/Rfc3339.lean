import DigitalTwin.Text.Blank
import DigitalTwin.Time.Instant

/-!
Instants as RFC 3339 text. Writing is canonical: universal time with a `Z`, three, six or nine digits of
a fraction or none, a sign and at least five characters for a year outside 0 to 9999. Reading is lenient:
numbers may lack leading zeros, white space may stand between the parts, the date may be parted from
the time by a space, and any offset below a day may be given.
-/

namespace DigitalTwin

namespace Instant

/-- A number in decimal with at least `width` digits. -/
def padded (width n : Nat) : List Char :=
  let digits := Nat.toDigits 10 n
  List.replicate (width - digits.length) '0' ++ digits

def yearText (year : Int) : List Char :=
  if 0 ≤ year ∧ year ≤ 9999 then padded 4 year.toNat
  else (if year < 0 then '-' else '+') :: padded 4 year.natAbs

/-- The fraction of a second, in the fewest groups of three digits. -/
def fractionText (nanos : Nat) : List Char :=
  if nanos = 0 then []
  else if nanos % 1000000 = 0 then '.' :: padded 3 (nanos / 1000000)
  else if nanos % 1000 = 0 then '.' :: padded 6 (nanos / 1000)
  else '.' :: padded 9 nanos

/-- The text of an instant. A leap second is written as second 60. -/
def toText (t : Instant) : String :=
  let d := t.date
  let s := t.secondOfDay
  let leap := if 1000000000 ≤ t.nanos then 1 else 0
  String.ofList <|
    yearText d.year ++ '-' :: padded 2 d.month ++ '-' :: padded 2 d.day ++
    'T' :: padded 2 (s / 3600) ++ ':' :: padded 2 (s / 60 % 60) ++ ':' :: padded 2 (s % 60 + leap) ++
    fractionText (t.nanos % 1000000000) ++ ['Z']

/-- The number that a run of digits writes. -/
def naturalOf (digits : List Char) : Nat := digits.foldl (fun n c => 10 * n + (c.toNat - 48)) 0

/-- A number at the start of some text, behind white space, of at most `most` digits. -/
def number? (most : Nat) (s : List Char) : Option (Nat × List Char) :=
  let s := Text.trimStart s
  let digits := (s.take most).takeWhile Char.isDigit
  if digits.isEmpty then none else some (naturalOf digits, s.drop digits.length)

/-- A year: four digits at most, or a sign and any number of digits. -/
def year? (s : List Char) : Option (Int × List Char) :=
  match Text.trimStart s with
  | '-' :: rest => (signed? rest).map fun (n, rest) => (-(n : Int), rest)
  | '+' :: rest => (signed? rest).map fun (n, rest) => ((n : Int), rest)
  | s => (number? 4 s).map fun (n, rest) => ((n : Int), rest)
where
  signed? (s : List Char) : Option (Nat × List Char) :=
    let digits := s.takeWhile Char.isDigit
    if digits.isEmpty then none else some (naturalOf digits, s.drop digits.length)

/-- What follows a mark, behind white space. -/
def mark? (c : Char) (s : List Char) : Option (List Char) :=
  match Text.trimStart s with
  | [] => none
  | d :: rest => if c = d then some rest else none

/-- A fraction of a second in nanoseconds; digits past the ninth are dropped. -/
def fraction? : List Char → Option (Nat × List Char)
  | '.' :: rest =>
    let digits := rest.takeWhile Char.isDigit
    if digits.isEmpty then none
    else
      let kept := digits.take 9
      some (naturalOf kept * Nat.pow 10 (9 - kept.length), rest.drop digits.length)
  | s => some (0, s)

/-- The two digits at the start of some text. -/
def twoDigits? : List Char → Option (Nat × List Char)
  | a :: b :: rest =>
    if a.isDigit && b.isDigit then some (naturalOf [a, b], rest) else none
  | _ => none

/-- The offset from universal time at the start of some text, in seconds. -/
def offset? (s : List Char) : Option (Int × List Char) :=
  match s with
  | [] => none
  | c :: rest =>
    if c = 'Z' ∨ c = 'z' then some (0, rest)
    else if (s.take 3).map Char.toUpper = ['U', 'T', 'C'] then some (0, s.drop 3)
    else if c = '+' then (shift? rest).map fun (n, rest) => ((n : Int), rest)
    else if c = '-' ∨ c = '\u2212' then (shift? rest).map fun (n, rest) => (-(n : Int), rest)
    else none
where
  shift? (s : List Char) : Option (Nat × List Char) :=
    match twoDigits? s with
    | none => none
    | some (hours, rest) =>
      match twoDigits? (rest.dropWhile fun c => c = ':' || Text.isBlank c) with
      | none => none
      | some (minutes, rest) =>
        if minutes < 60 then some (hours * 3600 + minutes * 60, rest) else none

/-- The seconds since midnight and the nanoseconds of a time of day; second 60 is a leap second. -/
def timeOfDay? (hour minute second nanos : Nat) : Option (Nat × Nat) :=
  if 23 < hour ∨ 59 < minute ∨ 60 < second then none
  else if second = 60 then some (hour * 3600 + minute * 60 + 59, nanos + 1000000000)
  else some (hour * 3600 + minute * 60 + second, nanos)

/-- The instant that some text writes. -/
def ofText? (text : String) : Option Instant := do
  let (year, s) ← year? text.toList
  let (month, s) ← number? 2 (← mark? '-' s)
  let (day, s) ← number? 2 (← mark? '-' s)
  let s ← match s with
    | c :: rest => if c = 'T' ∨ c = 't' ∨ c = ' ' then some rest else none
    | [] => none
  let (hour, s) ← number? 2 s
  let (minute, s) ← number? 2 (← mark? ':' s)
  let (second, s) ← number? 2 (← mark? ':' s)
  let (nanos, s) ← fraction? s
  let (offset, s) ← offset? (Text.trimStart s)
  let date : CivilDate := ⟨year, month, day⟩
  let (secondOfDay, nanos) ← timeOfDay? hour minute second nanos
  let t : Instant := ⟨date.dayNumber * 86400 + secondOfDay - offset, nanos⟩
  if date.isValid ∧ offset.natAbs < 86400 ∧ (Text.trimStart s).isEmpty ∧ t.inRange then some t else none

end Instant

end DigitalTwin
