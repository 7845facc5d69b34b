import DigitalTwin.Binary64.Basic

/-!
Decimal text of binary64 numbers: reading a decimal to the nearest number, and the fewest digits that
read back to a number, with the two layouts in which this library writes them.
-/

namespace DigitalTwin

/-- The decimal `± digits * 10 ^ exponent`, as written. -/
structure Decimal where
  negative : Bool
  digits : Nat
  exponent : Int
deriving DecidableEq, Repr

namespace Decimal

/-- The digits of a number, most significant first; zero has one digit. -/
def digitsOf (n : Nat) : List Char := Nat.toDigits 10 n

/-- How many digits a number is written with. -/
def width (n : Nat) : Nat := (digitsOf n).length

/-- The number nearest to a decimal. A decimal of at least 10 ^ 310 is an infinity and one below
10 ^ -330 is a zero, so neither power is ever computed. -/
def toBinary64 (x : Decimal) : Binary64 :=
  if x.digits = 0 then .ofMagnitudeBits x.negative 0
  else
    let top : Int := (width x.digits : Nat) + x.exponent
    if 310 < top then .infinity x.negative
    else if top < -330 then .ofMagnitudeBits x.negative 0
    else if 0 ≤ x.exponent then .ofQuotient x.negative (x.digits * Nat.pow 10 x.exponent.toNat) 1
    else .ofQuotient x.negative x.digits (Nat.pow 10 (-x.exponent).toNat)

/-- Drops the zeros that end `digits`, at most `fuel` of them. -/
def trimZeros : Nat → Nat → Int → Nat × Int
  | 0, digits, exponent => (digits, exponent)
  | fuel + 1, digits, exponent =>
    if digits % 10 = 0 then trimZeros fuel (digits / 10) (exponent + 1) else (digits, exponent)

end Decimal

namespace Binary64

/-- The magnitudes that round to one number: those between `low` and `high` in units of
`2 ^ scale`, the ends among them when `closed`. -/
structure Interval where
  low : Nat
  value : Nat
  high : Nat
  scale : Int
  closed : Bool

/-- The magnitudes that round to a finite number. Below a power of two the gap is half as wide. -/
def interval (x : Binary64) : Interval :=
  let m := x.significand
  { low := if x.fractionField = 0 ∧ 1 < x.exponentField then 4 * m - 1 else 4 * m - 2
    value := 4 * m
    high := 4 * m + 2
    scale := x.scale - 2
    closed := m % 2 = 0 }

/-- The candidates `d * 10 ^ k` of a decimal grid next to the value: the one at or below it and the
next one, kept when they lie in the interval, the nearer one chosen and a tie to the even one. -/
def Interval.nearest? (i : Interval) (k : Int) : Option Nat :=
  -- Interval and grid in one unit, small enough that every point is an integer.
  let unit := Nat.pow 2 i.scale.toNat * Nat.pow 10 (-k).toNat
  let cell := Nat.pow 10 k.toNat * Nat.pow 2 (-i.scale).toNat
  let value := i.value * unit
  let inside (d : Nat) : Bool :=
    let p := d * cell
    if i.closed then decide (i.low * unit ≤ p ∧ p ≤ i.high * unit)
    else decide (i.low * unit < p ∧ p < i.high * unit)
  let below := value / cell
  let rest := value % cell
  match inside below, inside (below + 1) with
  | true, true =>
    if 2 * rest < cell then some below
    else if cell < 2 * rest then some (below + 1)
    else some (below + below % 2)
  | true, false => some below
  | false, true => some (below + 1)
  | false, false => none

/-- The exponent of the first digit of a positive magnitude: `10 ^ e ≤ x < 10 ^ (e + 1)`. -/
def decimalExponent (x : Binary64) : Int :=
  if 0 ≤ x.scale then (Decimal.width (x.significand * Nat.pow 2 x.scale.toNat) : Int) - 1
  else
    -- Raised by more powers of ten than any number needs to reach an integer.
    let lift : Nat := 330
    let n := x.significand * Nat.pow 10 lift / Nat.pow 2 (-x.scale).toNat
    (Decimal.width n : Int) - 1 - lift

/-- The first grid, from coarse to fine, that has a point in the interval. -/
def shortestFrom (i : Interval) (first : Int) : Nat → Nat → Nat × Int
  | 0, places => ((i.nearest? (first - places)).getD 0, first - places)
  | fuel + 1, places =>
    match i.nearest? (first - places) with
    | some d => (d, first - places)
    | none => shortestFrom i first fuel (places + 1)

/-- The decimal with the fewest digits that reads back to a finite number, and of those the nearest
to it. Seventeen digits always suffice. -/
def shortest (x : Binary64) : Decimal :=
  if x.isZero then ⟨x.isNegative, 0, 0⟩
  else
    let (d, k) := shortestFrom x.interval x.decimalExponent 17 0
    let (d, k) := Decimal.trimZeros 18 d k
    ⟨x.isNegative, d, k⟩

end Binary64

namespace Decimal

/-- The digits with the point placed after the first `point` of them, filled up with zeros. -/
def positional (digits : List Char) (point : Int) (fraction : List Char) : List Char :=
  if point ≤ 0 then '0' :: '.' :: List.replicate (-point).toNat '0' ++ digits
  else if (digits.length : Int) ≤ point then
    digits ++ List.replicate (point.toNat - digits.length) '0' ++ fraction
  else digits.take point.toNat ++ '.' :: digits.drop point.toNat

def sign (negative : Bool) : List Char := if negative then ['-'] else []

end Decimal

namespace Binary64

/-- Plain text: the shortest digits without an exponent, and no point for an integer. -/
def plainText (x : Binary64) : String :=
  if x.isFinite then
    let d := x.shortest
    let digits := Decimal.digitsOf d.digits
    String.ofList (Decimal.sign d.negative ++ Decimal.positional digits (digits.length + d.exponent) [])
  else if x.isNegative then "-inf" else "inf"

/-- JSON text: the shortest digits, an integer with a fraction of zero, and an exponent from
10 ^ 16 on and below 10 ^ -5. -/
def jsonText (x : Binary64) : String :=
  let d := x.shortest
  let digits := Decimal.digitsOf d.digits
  let point : Int := digits.length + d.exponent
  let body :=
    if d.digits = 0 then ['0', '.', '0']
    else if -5 < point ∧ point ≤ 16 then Decimal.positional digits point ['.', '0']
    else
      let exponent := (toString (point - 1)).toList
      match digits with
      | [] => []
      | [c] => c :: 'e' :: exponent
      | c :: rest => c :: '.' :: rest ++ 'e' :: exponent
  String.ofList (Decimal.sign d.negative ++ body)

end Binary64

end DigitalTwin
