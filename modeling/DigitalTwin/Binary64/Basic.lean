/-!
Binary64 numbers as their 64 bits: fields, exact values, rounding of exact quotients to the nearest
number with ties to even, and the arithmetic that follows from it. Everything is computed on `Nat`
and `Int`, so every operation can be evaluated and reasoned about.
-/

namespace DigitalTwin

/-- An IEEE 754 binary64 number, held as its bits. -/
structure Binary64 where
  bits : UInt64
deriving DecidableEq, Repr, Inhabited

namespace Binary64

/-- The bits below the sign, read as a number: they grow with the magnitude. -/
def magnitudeBits (x : Binary64) : Nat := x.bits.toNat % Nat.pow 2 63

/-- Whether the sign bit is set. -/
def isNegative (x : Binary64) : Bool := decide (Nat.pow 2 63 ≤ x.bits.toNat)

/-- The eleven bits of the biased exponent. -/
def exponentField (x : Binary64) : Nat := x.magnitudeBits / Nat.pow 2 52

/-- The fifty-two bits after the binary point. -/
def fractionField (x : Binary64) : Nat := x.magnitudeBits % Nat.pow 2 52

/-- Neither an infinity nor an undefined result. -/
def isFinite (x : Binary64) : Bool := decide (x.exponentField < 2047)

/-- The integer `m` of the magnitude `m * 2 ^ scale`. -/
def significand (x : Binary64) : Nat :=
  if x.exponentField = 0 then x.fractionField else Nat.pow 2 52 + x.fractionField

/-- The exponent `e` of the magnitude `significand * 2 ^ e`. -/
def scale (x : Binary64) : Int := (max x.exponentField 1 : Nat) - 1075

/-- The number with the given sign and bits below it. -/
def ofMagnitudeBits (negative : Bool) (magnitude : Nat) : Binary64 :=
  ⟨UInt64.ofNat (magnitude + if negative then Nat.pow 2 63 else 0)⟩

/-- The bits below the sign of an infinity. -/
def infinityBits : Nat := 2047 * Nat.pow 2 52

def infinity (negative : Bool) : Binary64 := ofMagnitudeBits negative infinityBits

def zero : Binary64 := ⟨0⟩

/-- The result of an operation that has no number for a result. -/
def undefined : Binary64 := ⟨0x7ff8000000000000⟩

/-- The quotient `n / d` rounded to the nearest integer, a half to the even one. -/
def roundQuotient (n d : Nat) : Nat :=
  let q := n / d
  let r := n % d
  if 2 * r < d then q else if d < 2 * r then q + 1 else q + q % 2

/-- The exponent `e` with `2 ^ e ≤ n / d < 2 ^ (e + 1)`, for positive `n` and `d`. -/
def binaryExponent (n d : Nat) : Int :=
  let e : Int := (n.log2 : Int) - d.log2
  let reaches : Bool :=
    if 0 ≤ e then decide (d * Nat.pow 2 e.toNat ≤ n) else decide (d ≤ n * Nat.pow 2 (-e).toNat)
  if reaches then e else e - 1

/-- The number nearest to `± n / d`, of two equally near ones the one with an even significand. A
quotient that rounds past the largest finite number becomes an infinity. -/
def ofQuotient (negative : Bool) (n d : Nat) : Binary64 :=
  if n = 0 then ofMagnitudeBits negative 0
  else
    let unit : Int := max (binaryExponent n d - 52) (-1074)
    let m := if 0 ≤ unit then roundQuotient n (d * Nat.pow 2 unit.toNat)
      else roundQuotient (n * Nat.pow 2 (-unit).toNat) d
    ofMagnitudeBits negative (min ((unit + 1074).toNat * Nat.pow 2 52 + m) infinityBits)

/-- The number nearest to `± m * 2 ^ e`. -/
def ofScaled (negative : Bool) (m : Nat) (e : Int) : Binary64 :=
  if 0 ≤ e then ofQuotient negative (m * Nat.pow 2 e.toNat) 1
  else ofQuotient negative m (Nat.pow 2 (-e).toNat)

/-- The number nearest to an integer. -/
def ofInt (i : Int) : Binary64 := ofQuotient (decide (i < 0)) i.natAbs 1

/-- A finite number as the integer that it is of the unit `2 ^ e`, for `e` at most its scale. -/
def inUnits (x : Binary64) (e : Int) : Int :=
  let m : Int := (x.significand * Nat.pow 2 (x.scale - e).toNat : Nat)
  if x.isNegative then -m else m

def neg (x : Binary64) : Binary64 := ofMagnitudeBits (!x.isNegative) x.magnitudeBits

/-- The exact sum rounded to the nearest number. A sum of zero is positive, except that of two
negative zeros. -/
def add (x y : Binary64) : Binary64 :=
  if x.isFinite && y.isFinite then
    let e := min x.scale y.scale
    let sum := x.inUnits e + y.inUnits e
    if sum = 0 then ofMagnitudeBits (x.isNegative && y.isNegative) 0
    else ofScaled (decide (sum < 0)) sum.natAbs e
  else if x.isFinite then y
  else if y.isFinite || x == y then x
  else undefined

/-- The exact difference rounded to the nearest number. -/
def sub (x y : Binary64) : Binary64 := x.add y.neg

/-- The exact product of two finite numbers rounded to the nearest number. -/
def mul (x y : Binary64) : Binary64 :=
  ofScaled (x.isNegative != y.isNegative) (x.significand * y.significand) (x.scale + y.scale)

/-- An integer that grows with the number; both zeros have the rank zero. -/
def rank (x : Binary64) : Int :=
  if x.isNegative then -(x.magnitudeBits : Int) else x.magnitudeBits

/-- Numerical order. -/
def lt (x y : Binary64) : Bool := decide (x.rank < y.rank)

/-- Numerical equality, for which the two zeros are one. -/
def same (x y : Binary64) : Bool := decide (x.rank = y.rank)

def isZero (x : Binary64) : Bool := decide (x.magnitudeBits = 0)

/-- The greatest integer that is at most a finite number. -/
def floor (x : Binary64) : Int :=
  if 0 ≤ x.scale then x.inUnits 0 else x.inUnits x.scale / (Nat.pow 2 (-x.scale).toNat : Nat)

end Binary64

end DigitalTwin
