/-!
Instants in universal time and the civil dates they fall on, in the Gregorian calendar without end.
Instants are kept within the years -262143 to 262142. A leap second is the second before it with a
sub-second part of a whole second or more.
-/

namespace DigitalTwin

/-- A point in universal time: whole seconds since the start of 1970 and nanoseconds on top. -/
structure Instant where
  seconds : Int
  nanos : Nat
deriving DecidableEq, Repr, Inhabited

/-- A day of the Gregorian calendar. -/
structure CivilDate where
  year : Int
  month : Nat
  day : Nat
deriving DecidableEq, Repr

namespace CivilDate

def isLeap (year : Int) : Bool :=
  decide (year % 4 = 0 ∧ (year % 100 ≠ 0 ∨ year % 400 = 0))

def daysInMonth (year : Int) (month : Nat) : Nat :=
  if month = 2 then if isLeap year then 29 else 28
  else if month = 4 ∨ month = 6 ∨ month = 9 ∨ month = 11 then 30
  else 31

/-- The first and the last year whose days are kept. -/
def firstYear : Int := -262143

def lastYear : Int := 262142

/-- Whether the day exists and is kept. -/
def isValid (d : CivilDate) : Bool :=
  decide (firstYear ≤ d.year ∧ d.year ≤ lastYear ∧ 1 ≤ d.month ∧ d.month ≤ 12 ∧ 1 ≤ d.day ∧
    d.day ≤ daysInMonth d.year d.month)

/-- The days between the start of 1970 and a day. Years are counted from March, so that the leap day
comes last in its year. -/
def dayNumber (d : CivilDate) : Int :=
  let year := if d.month ≤ 2 then d.year - 1 else d.year
  let month : Int := (d.month + 9) % 12
  let dayOfYear := (153 * month + 2) / 5 + d.day - 1
  365 * year + year / 4 - year / 100 + year / 400 + dayOfYear - 719468

/-- The day that a number of days after the start of 1970 falls on. -/
def ofDayNumber (n : Int) : CivilDate :=
  let z := n + 719468
  let era := z / 146097
  let dayOfEra := z % 146097
  let yearOfEra := (dayOfEra - dayOfEra / 1460 + dayOfEra / 36524 - dayOfEra / 146096) / 365
  let dayOfYear := dayOfEra - (365 * yearOfEra + yearOfEra / 4 - yearOfEra / 100)
  let month := (5 * dayOfYear + 2) / 153
  let day := dayOfYear - (153 * month + 2) / 5 + 1
  let civilMonth := (month + 2) % 12 + 1
  let year := yearOfEra + era * 400 + if civilMonth ≤ 2 then 1 else 0
  ⟨year, civilMonth.toNat, day.toNat⟩

end CivilDate

namespace Instant

/-- The first second that is kept, the start of the year -262143. -/
def firstSecond : Int := -8334601228800

/-- The last second that is kept, the end of the year 262142. -/
def lastSecond : Int := 8210266876799

/-- Whether the instant is kept. -/
def inRange (t : Instant) : Bool :=
  decide (firstSecond ≤ t.seconds ∧ t.seconds ≤ lastSecond ∧ t.nanos < 2000000000)

/-- The day of an instant. -/
def date (t : Instant) : CivilDate := .ofDayNumber (t.seconds / 86400)

/-- The seconds since midnight. -/
def secondOfDay (t : Instant) : Nat := (t.seconds % 86400).toNat

end Instant

end DigitalTwin
