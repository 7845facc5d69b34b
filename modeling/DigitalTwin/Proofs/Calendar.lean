import DigitalTwin.Time.Instant
import Mathlib.Tactic.IntervalCases
import Mathlib.Tactic.Linarith
import Mathlib.Tactic.Ring

/-! Days and dates. Years are counted from March here, so that a leap day is the last day of its year, and an era is 400
    of them, 146097 days. Every day falls on a date that exists, and the date has the number of the day. -/

namespace DigitalTwin
namespace CivilDate

/-! ### The parts of an era -/

/-- A day of an era by its century, the four years there, the year of those and the day of that. Four years have a 366th
    day in their last year, except at the end of the first three centuries. -/
structure Parts (e c b y d : Int) : Prop where
  century : 0 ≤ c ∧ c ≤ 3
  fourYears : 0 ≤ b ∧ b ≤ 24
  year : 0 ≤ y ∧ y ≤ 3
  day : 0 ≤ d ∧ d ≤ 365
  sum : e = 36524 * c + 1461 * b + 365 * y + d
  lastYear : d = 365 → y = 3
  lastCentury : d = 365 → b = 24 → c = 3

theorem exists_century {e : Int} (h0 : 0 ≤ e) (h1 : e < 146097) :
    ∃ c q : Int, 0 ≤ c ∧ c ≤ 3 ∧ 0 ≤ q ∧ q ≤ 36524 ∧ e = 36524 * c + q ∧ (q = 36524 → c = 3) := by
  refine ⟨if e = 146096 then 3 else e / 36524, if e = 146096 then 36524 else e % 36524, ?_⟩
  split <;> omega

theorem exists_year {q : Int} (h0 : 0 ≤ q) (h1 : q ≤ 36524) :
    ∃ b y d : Int, 0 ≤ b ∧ b ≤ 24 ∧ 0 ≤ y ∧ y ≤ 3 ∧ 0 ≤ d ∧ d ≤ 365 ∧ q = 1461 * b + 365 * y + d ∧
      (d = 365 → y = 3) := by
  refine ⟨q / 1461, if q % 1461 = 1460 then 3 else q % 1461 / 365,
    if q % 1461 = 1460 then 365 else q % 1461 % 365, ?_⟩
  split <;> omega

theorem exists_parts {e : Int} (h0 : 0 ≤ e) (h1 : e < 146097) : ∃ c b y d, Parts e c b y d := by
  -- The leap day that ends an era belongs to its fourth century, and the one that ends four years to their last year.
  obtain ⟨c, q, hc0, hc3, hq0, hq, rfl, hlast⟩ := exists_century h0 h1
  obtain ⟨b, y, d, hb0, hb, hy0, hy, hd0, hd, rfl, h3⟩ := exists_year hq0 hq
  refine ⟨c, b, y, d, ⟨hc0, hc3⟩, ⟨hb0, hb⟩, ⟨hy0, hy⟩, ⟨hd0, hd⟩, by ring, h3, fun hd hb => hlast ?_⟩
  have := h3 hd
  omega

namespace Parts
variable {e c b y d : Int}

/-- The year of an era as it is computed. --/
theorem yearOfEra (h : Parts e c b y d) :
    (e - e / 1460 + e / 36524 - e / 146096) / 365 = 100 * c + 4 * b + y := by
  obtain ⟨⟨hc0, hc3⟩, ⟨hb0, hb⟩, ⟨hy0, hy⟩, ⟨hd0, hd⟩, he, h3, h24⟩ := h
  -- A division by 1460 may run one ahead of the four years, one by 36524 only on the last day of the era.
  have fours : e / 1460 = 25 * c + b ∨ e / 1460 = 25 * c + b + 1 := by omega
  have centuries : e / 36524 = c ∧ e / 146096 = 0 ∨ e = 146096 := by omega
  rcases centuries with ⟨hundreds, era⟩ | rfl
  · rw [hundreds, era]
    rcases fours with fours | fours <;> rw [fours] <;> omega
  · omega

theorem year_div (h : Parts e c b y d) (era : Int) :
    (100 * c + 4 * b + y + era * 400) / 4 = 100 * era + 25 * c + b ∧
      (100 * c + 4 * b + y + era * 400) / 100 = 4 * era + c ∧ (100 * c + 4 * b + y + era * 400) / 400 = era := by
  obtain ⟨⟨hc0, hc3⟩, ⟨hb0, hb⟩, ⟨hy0, hy⟩, -⟩ := h
  omega

/-- The day of the year as it is computed. --/
theorem dayOfYear (h : Parts e c b y d) :
    e - (365 * (100 * c + 4 * b + y) + (100 * c + 4 * b + y) / 4 - (100 * c + 4 * b + y) / 100) = d := by
  have hdiv := h.year_div 0
  simp only [Int.zero_mul, Int.add_zero, Int.mul_zero, Int.zero_add] at hdiv
  rw [hdiv.1, hdiv.2.1, h.sum]
  ring

theorem isLeap (h : Parts e c b y d) (hd : d = 365) (era : Int) :
    isLeap (100 * c + 4 * b + y + era * 400 + 1) = true := by
  obtain ⟨⟨hc0, hc3⟩, ⟨hb0, hb⟩, -, -, -, h3, h24⟩ := h
  rw [h3 hd]
  have four : (100 * c + 4 * b + 3 + era * 400 + 1) % 4 = 0 := by omega
  have hundred : (100 * c + 4 * b + 3 + era * 400 + 1) % 100 ≠ 0 ∨
      (100 * c + 4 * b + 3 + era * 400 + 1) % 400 = 0 := by
    by_cases hlast : b = 24
    · right
      rw [hlast, h24 hd hlast]
      omega
    · left
      omega
  exact decide_eq_true ⟨four, hundred⟩

end Parts

/-! ### Years from March -/

/-- The day `day` of the year that starts in March of the year `year`, counted from zero. -/
def ofMarch (year day : Int) : CivilDate :=
  let month := (5 * day + 2) / 153
  let civilMonth := (month + 2) % 12 + 1
  ⟨year + if civilMonth ≤ 2 then 1 else 0, civilMonth.toNat, (day - (153 * month + 2) / 5 + 1).toNat⟩

/-- A day of a year that starts in March. Only years with a leap day have a 366th day. -/
structure InMarchYear (year day : Int) : Prop where
  first : 0 ≤ day
  last : day ≤ 365
  leap : day = 365 → isLeap (year + 1) = true

theorem ofDayNumber_eq (n : Int) : ∃ year day : Int, InMarchYear year day ∧ ofDayNumber n = ofMarch year day ∧
    n = 365 * year + year / 4 - year / 100 + year / 400 + day - 719468 := by
  have h0 : 0 ≤ (n + 719468) % 146097 := Int.emod_nonneg _ (by decide)
  have h1 : (n + 719468) % 146097 < 146097 := Int.emod_lt_of_pos _ (by decide)
  obtain ⟨c, b, y, d, parts⟩ := exists_parts h0 h1
  have hn : 146097 * ((n + 719468) / 146097) + (n + 719468) % 146097 = n + 719468 := Int.mul_ediv_add_emod _ _
  obtain ⟨fours, hundreds, eras⟩ := parts.year_div ((n + 719468) / 146097)
  refine ⟨100 * c + 4 * b + y + (n + 719468) / 146097 * 400, d,
    ⟨parts.day.1, parts.day.2, fun hd => parts.isLeap hd _⟩, ?_, ?_⟩
  · unfold ofDayNumber ofMarch
    simp only [parts.yearOfEra, parts.dayOfYear]
  · rw [fours, hundreds, eras]
    rw [parts.sum] at hn
    linarith

/-- The months of a year that starts in March, counted from zero. --/
theorem InMarchYear.month {year day : Int} (h : InMarchYear year day) :
    0 ≤ (5 * day + 2) / 153 ∧ (5 * day + 2) / 153 ≤ 11 ∧ (153 * ((5 * day + 2) / 153) + 2) / 5 ≤ day := by
  obtain ⟨first, last, -⟩ := h
  omega

/-! ### Dates and their numbers -/

theorem dayNumber_ofMarch {year day : Int} (h : InMarchYear year day) :
    (ofMarch year day).dayNumber = 365 * year + year / 4 - year / 100 + year / 400 + day - 719468 := by
  obtain ⟨month0, month11, started⟩ := h.month
  have hyear : (if (ofMarch year day).month ≤ 2 then (ofMarch year day).year - 1 else (ofMarch year day).year) =
      year := by
    unfold ofMarch
    dsimp only
    split <;> split <;> omega
  have hmonth : (((ofMarch year day).month : Int) + 9) % 12 = (5 * day + 2) / 153 := by
    unfold ofMarch
    dsimp only
    omega
  have hday : (153 * ((5 * day + 2) / 153) + 2) / 5 + ((ofMarch year day).day : Int) - 1 = day := by
    unfold ofMarch
    dsimp only
    omega
  unfold dayNumber
  simp only [hyear, hmonth, hday]

theorem dayNumber_ofDayNumber (n : Int) : (ofDayNumber n).dayNumber = n := by
  obtain ⟨year, day, inYear, hdate, hn⟩ := ofDayNumber_eq n
  rw [hdate, dayNumber_ofMarch inYear, ← hn]

theorem daysInMonth_le (year : Int) (month : Nat) : daysInMonth year month ≤ 31 := by
  unfold daysInMonth
  split
  · split <;> omega
  · split <;> omega

/-- A date of the calendar, whether or not its year is kept. -/
structure Exists (d : CivilDate) : Prop where
  month_pos : 1 ≤ d.month
  month_le : d.month ≤ 12
  day_pos : 1 ≤ d.day
  day_le : d.day ≤ daysInMonth d.year d.month

theorem exists_ofMarch {year day : Int} (h : InMarchYear year day) : Exists (ofMarch year day) := by
  obtain ⟨month0, month11, started⟩ := h.month
  obtain ⟨first, last, leap⟩ := h
  unfold ofMarch
  generalize hm : (5 * day + 2) / 153 = month at month0 month11 started
  by_cases hfeb : month = 11
  · subst hfeb
    by_cases hlast : day = 365
    · subst hlast
      constructor <;> simp [daysInMonth, leap rfl]
    · constructor
      · simp
      · simp
      · dsimp only
        omega
      · simp only [daysInMonth]
        dsimp
        split <;> omega
  · -- Every other month has the days that the next month starts behind.
    have hmonth : month ≤ 10 := by omega
    constructor
    · dsimp only
      omega
    · dsimp only
      omega
    · dsimp only
      omega
    · interval_cases month <;> simp [daysInMonth] <;> omega

/-- The years from March that the days which are kept fall in; the first and the last of them are kept in part. -/
theorem InMarchYear.kept {n year day : Int} (h : InMarchYear year day)
    (hn : n = 365 * year + year / 4 - year / 100 + year / 400 + day - 719468)
    (first : -96465292 ≤ n) (last : n ≤ 95026236) :
    (-262143 ≤ year ∨ year = -262144 ∧ 306 ≤ day) ∧ (year ≤ 262141 ∨ year = 262142 ∧ day < 306) := by
  obtain ⟨h0, h1, -⟩ := h
  have lower : -262144 ≤ year := by
    by_contra hlt
    have before : year ≤ -262145 := by omega
    have leapDays : year / 4 - year / 100 + year / 400 ≤ -63571 := by omega
    omega
  have upper : year ≤ 262142 := by
    by_contra hlt
    have after : 262143 ≤ year := by omega
    have leapDays : 63570 ≤ year / 4 - year / 100 + year / 400 := by omega
    omega
  constructor
  · by_cases h : year = -262144
    · subst h
      exact .inr ⟨rfl, by omega⟩
    · left
      omega
  · by_cases h : year = 262142
    · subst h
      exact .inr ⟨rfl, by omega⟩
    · left
      omega

/-- The days that are kept fall on valid dates. --/
theorem isValid_ofDayNumber {n : Int} (first : -96465292 ≤ n) (last : n ≤ 95026236) :
    (ofDayNumber n).isValid = true := by
  obtain ⟨year, day, inYear, hdate, hn⟩ := ofDayNumber_eq n
  obtain ⟨month_pos, month_le, day_pos, day_le⟩ := exists_ofMarch inYear
  obtain ⟨firstKept, lastKept⟩ := inYear.kept hn first last
  have years : firstYear ≤ (ofMarch year day).year ∧ (ofMarch year day).year ≤ lastYear := by
    obtain ⟨month0, month11, -⟩ := inYear.month
    have newYear : 10 ≤ (5 * day + 2) / 153 ↔ 306 ≤ day := by omega
    clear month_pos month_le day_pos day_le hn hdate first last
    unfold ofMarch firstYear lastYear
    dsimp only
    generalize (5 * day + 2) / 153 = month at *
    split <;> omega
  rw [hdate]
  exact decide_eq_true ⟨years.1, years.2, month_pos, month_le, day_pos, day_le⟩

end CivilDate
end DigitalTwin
