import DigitalTwin.Senml.Pack
import Mathlib.Data.List.Basic

/-! Measurements told record by record. A base field holds from the record that sets it until another one does, so
    what holds for a record is the last value among the records up to it. Nothing else of the records before it has
    a part in a measurement, except that one whose time cannot be told fails the whole pack. -/

namespace DigitalTwin
namespace Senml

variable {now t : Instant} {seconds x : Binary64} {before records : List Record} {r : Record} {m : Measurement}
  {ms : List Measurement} {e : ServiceError}

/-! ### Base fields -/

/-- The last value of a field among records. -/
def lastOf {α : Type} (field : Record → Option α) (records : List Record) : Option α :=
  (records.filterMap field).getLast?

theorem lastOf_concat {α : Type} (field : Record → Option α) (before : List Record) (r : Record) :
    lastOf field (before ++ [r]) = (field r).or (lastOf field before) := by
  unfold lastOf
  rw [List.filterMap_append]
  cases hr : field r with
  | none => simp [hr]
  | some a => simp [hr]

/-- What holds behind records. -/
def baseOf (records : List Record) : Base :=
  { name := (lastOf (·.baseName) records).getD ""
    time := (lastOf (·.baseTime) records).getD .zero
    unit := lastOf (·.baseUnit) records
    value := (lastOf (·.baseValue) records).getD .zero
    sum := (lastOf (·.baseSum) records).getD .zero }

theorem update_baseOf (before : List Record) (r : Record) : (baseOf before).update r = baseOf (before ++ [r]) := by
  have getD_or {α : Type} (a b : Option α) (c : α) : (a.or b).getD c = a.getD (b.getD c) := by
    cases a <;> rfl
  simp only [baseOf, Base.update, lastOf_concat, getD_or]

/-! ### Times -/

/-- An instant is the one at a number of seconds, cut to nanoseconds, and is kept. -/
structure Marks (x : Binary64) (t : Instant) : Prop where
  finite : x.isFinite = true
  seconds : t.seconds = x.floor
  nanos : t.nanos = min ((x.sub (.ofInt x.floor)).mul (.ofInt 1000000000)).floor.toNat 999999999
  kept : Instant.firstSecond ≤ t.seconds ∧ t.seconds ≤ Instant.lastSecond

/-- No instant is kept at a number of seconds. -/
def Strays (x : Binary64) : Prop :=
  x.isFinite = false ∨ x.floor < Instant.firstSecond ∨ Instant.lastSecond < x.floor

/-- The number that a small number of seconds comes to when it is counted from the clock, and any other by itself. -/
def counted (now : Instant) (seconds : Binary64) : Binary64 :=
  if seconds.lt relativeLimit then (secondsOf now).add seconds else seconds

/-- A time is what a number of seconds tells. -/
inductive Tells (now : Instant) (seconds : Binary64) : Option Instant → Prop
  | nothing (zero : seconds.isZero = true) : Tells now seconds none
  | instant {t : Instant} (nonzero : seconds.isZero = false) (marks : Marks (counted now seconds) t) :
    Tells now seconds (some t)

/-- A number of seconds tells no time, not even that there is none. -/
def Fails (now : Instant) (seconds : Binary64) : Prop := seconds.isZero = false ∧ Strays (counted now seconds)

theorem Marks.nanos_lt (h : Marks x t) : t.nanos < 1000000000 := by
  have := h.nanos
  omega

theorem Marks.inRange (h : Marks x t) : t.inRange = true := by
  have small := h.nanos_lt
  exact decide_eq_true ⟨h.kept.1, h.kept.2, by omega⟩

theorem instantAt_cases (x : Binary64) :
    (∃ t, instantAt x = .ok t ∧ Marks x t) ∨ instantAt x = .error (.malformed (.recordTime x)) ∧ Strays x := by
  unfold instantAt
  cases hf : x.isFinite with
  | false => exact Or.inr ⟨rfl, Or.inl hf⟩
  | true =>
    rw [if_pos rfl]
    dsimp only
    split
    · rename_i hr
      obtain ⟨hfirst, hlast, -⟩ := of_decide_eq_true hr
      exact Or.inl ⟨_, rfl, hf, rfl, rfl, hfirst, hlast⟩
    · rename_i hr
      refine Or.inr ⟨rfl, Or.inr ?_⟩
      by_contra hkept
      obtain ⟨hfirst, hlast⟩ := not_or.mp hkept
      have small (n : Nat) : min n 999999999 < 2000000000 := by omega
      exact hr (decide_eq_true ⟨Int.not_lt.mp hfirst, Int.not_lt.mp hlast, small _⟩)

theorem Marks.not_strays (h : Marks x t) : ¬ Strays x := by
  obtain ⟨finite, floor, -, hfirst, hlast⟩ := h
  rw [floor] at hfirst hlast
  rintro (hf | hf | hl)
  · rw [finite] at hf
    cases hf
  · omega
  · omega

theorem Marks.unique {t' : Instant} (h : Marks x t) (h' : Marks x t') : t = t' := by
  obtain ⟨s, n⟩ := t
  obtain ⟨s', n'⟩ := t'
  have hs : s = s' := h.seconds.trans h'.seconds.symm
  have hn : n = n' := h.nanos.trans h'.nanos.symm
  rw [hs, hn]

theorem timeOf_cases (now : Instant) (seconds : Binary64) :
    (∃ time, timeOf now seconds = .ok time ∧ Tells now seconds time) ∨
      timeOf now seconds = .error (.malformed (.recordTime (counted now seconds))) ∧ Fails now seconds := by
  cases hz : seconds.isZero with
  | true =>
    refine Or.inl ⟨none, ?_, .nothing hz⟩
    unfold timeOf
    rw [hz]
    rfl
  | false =>
    have told : timeOf now seconds = (instantAt (counted now seconds)).map some := by
      unfold timeOf counted
      rw [hz]
      cases seconds.lt relativeLimit <;> rfl
    rw [told]
    rcases instantAt_cases (counted now seconds) with ⟨t, ht, marks⟩ | ⟨ht, strays⟩
    · exact Or.inl ⟨some t, by rw [ht]; rfl, .instant hz marks⟩
    · exact Or.inr ⟨by rw [ht]; rfl, hz, strays⟩

theorem Tells.not_fails {time : Option Instant} (h : Tells now seconds time) : ¬ Fails now seconds := by
  rintro ⟨nonzero, strays⟩
  cases h with
  | nothing zero =>
    rw [nonzero] at zero
    cases zero
  | instant _ marks => exact marks.not_strays strays

theorem Tells.unique {time time' : Option Instant} (h : Tells now seconds time) (h' : Tells now seconds time') :
    time = time' := by
  cases h with
  | nothing zero =>
    cases h' with
    | nothing => rfl
    | instant nonzero => rw [nonzero] at zero; cases zero
  | instant nonzero marks =>
    cases h' with
    | nothing zero => rw [nonzero] at zero; cases zero
    | instant _ marks' => rw [marks.unique marks']

/-! ### Measurements -/

/-- The seconds at which a record behind others is timed: the last base time up to it and its own time. -/
def timedAt (before : List Record) (r : Record) : Binary64 :=
  ((lastOf (·.baseTime) (before ++ [r])).getD .zero).add (r.time.getD .zero)

/-- What a record behind others measured: a number on top of the last base value, else text, else data, else a truth
value, else a sum on top of the last base sum, and otherwise nothing. A number that is not finite is nothing too. -/
def measured (before : List Record) (r : Record) : Json :=
  let onTop (base : Record → Option Binary64) (x : Binary64) : Json :=
    let sum := ((lastOf base (before ++ [r])).getD .zero).add x
    if sum.isFinite then .float sum else .null
  ((r.value.map (onTop (·.baseValue))).or <| (r.stringValue.map Json.text).or <| (r.dataValue.map Json.text).or <|
    (r.boolValue.map Json.bool).or <| r.sum.map (onTop (·.baseSum))).getD .null

/-- A measurement is that of a record behind others. -/
structure Measures (now : Instant) (before : List Record) (r : Record) (m : Measurement) : Prop where
  name : m.name = (lastOf (·.baseName) (before ++ [r])).getD "" ++ r.name.getD ""
  unit : m.unit = r.unit.or (lastOf (·.baseUnit) (before ++ [r]))
  value : m.value = measured before r
  time : Tells now (timedAt before r) m.time
  /-- A time is one that is kept, and no leap second. -/
  kept : ∀ t, m.time = some t → t.inRange = true ∧ t.nanos < 1000000000

theorem Tells.kept (h : Tells now seconds (some t)) : t.inRange = true ∧ t.nanos < 1000000000 := by
  cases h with
  | instant _ marks => exact ⟨marks.inRange, marks.nanos_lt⟩

theorem valueOf_baseOf (before : List Record) (r : Record) :
    valueOf (baseOf (before ++ [r])) r = measured before r := by
  unfold valueOf measured
  cases r.value with
  | some v => rfl
  | none =>
    cases r.stringValue with
    | some s => rfl
    | none =>
      cases r.dataValue with
      | some d => rfl
      | none =>
        cases r.boolValue with
        | some b => rfl
        | none => cases r.sum <;> rfl

theorem Measures.unique {m' : Measurement} (h : Measures now before r m) (h' : Measures now before r m') : m = m' := by
  obtain ⟨name, unit, time, value⟩ := m
  obtain ⟨name', unit', time', value'⟩ := m'
  have hn : name = name' := h.name.trans h'.name.symm
  have hu : unit = unit' := h.unit.trans h'.unit.symm
  have ht : time = time' := h.time.unique h'.time
  have hv : value = value' := h.value.trans h'.value.symm
  rw [hn, hu, ht, hv]

theorem measure_cases (now : Instant) (before : List Record) (r : Record) :
    (∃ m, measure now (baseOf (before ++ [r])) r = .ok m ∧ Measures now before r m) ∨
      measure now (baseOf (before ++ [r])) r = .error (.malformed (.recordTime (counted now (timedAt before r)))) ∧
        Fails now (timedAt before r) := by
  have timed : (baseOf (before ++ [r])).time.add (r.time.getD .zero) = timedAt before r := rfl
  unfold measure
  rw [timed, valueOf_baseOf]
  rcases timeOf_cases now (timedAt before r) with ⟨time, ht, tells⟩ | ⟨ht, fails⟩
  · rw [ht]
    refine Or.inl ⟨_, rfl, rfl, rfl, rfl, tells, fun t hsome => ?_⟩
    have : time = some t := hsome
    subst this
    exact tells.kept
  · rw [ht]
    exact Or.inr ⟨rfl, fails⟩

/-! ### Packs -/

/-- Each of some measurements is that of the record at its place. -/
def MeasuresAll (now : Instant) (before records : List Record) (ms : List Measurement) : Prop :=
  ms.length = records.length ∧
    ∀ i r m, records[i]? = some r → ms[i]? = some m → Measures now (before ++ records.take i) r m

/-- A record is the first whose time cannot be told, and that is the error. -/
def FailsFirst (now : Instant) (before records : List Record) (e : ServiceError) : Prop :=
  ∃ i r, records[i]? = some r ∧ Fails now (timedAt (before ++ records.take i) r) ∧
    e = .malformed (.recordTime (counted now (timedAt (before ++ records.take i) r))) ∧
    ∀ j < i, ∀ r', records[j]? = some r' → ¬ Fails now (timedAt (before ++ records.take j) r')

theorem MeasuresAll.nil (now : Instant) (before : List Record) : MeasuresAll now before [] [] :=
  ⟨rfl, fun _ _ _ h => nomatch h⟩

theorem MeasuresAll.cons (h : Measures now before r m) (hs : MeasuresAll now (before ++ [r]) records ms) :
    MeasuresAll now before (r :: records) (m :: ms) := by
  obtain ⟨length, measures⟩ := hs
  refine ⟨congrArg (· + 1) length, fun i r' m' hr hm => ?_⟩
  cases i with
  | zero =>
    obtain rfl : r = r' := Option.some.inj hr
    obtain rfl : m = m' := Option.some.inj hm
    rwa [List.take_zero, List.append_nil]
  | succ i =>
    have := measures i r' m' hr hm
    rwa [List.append_assoc] at this

theorem FailsFirst.head (h : Fails now (timedAt before r)) :
    FailsFirst now before (r :: records) (.malformed (.recordTime (counted now (timedAt before r)))) := by
  refine ⟨0, r, rfl, ?_, ?_, fun j hj => absurd hj (Nat.not_lt_zero j)⟩ <;> rw [List.take_zero, List.append_nil]
  exact h

theorem FailsFirst.tail (h : ¬ Fails now (timedAt before r)) (hs : FailsFirst now (before ++ [r]) records e) :
    FailsFirst now before (r :: records) e := by
  obtain ⟨i, r', hr, fails, he, earlier⟩ := hs
  rw [List.append_assoc] at fails he
  refine ⟨i + 1, r', hr, fails, he, fun j hj r'' hr' => ?_⟩
  cases j with
  | zero =>
    obtain rfl : r = r'' := Option.some.inj hr'
    rwa [List.take_zero, List.append_nil]
  | succ j =>
    have := earlier j (Nat.lt_of_succ_lt_succ hj) r'' hr'
    rwa [List.append_assoc] at this

theorem MeasuresAll.unique {ms' : List Measurement} (h : MeasuresAll now before records ms)
    (h' : MeasuresAll now before records ms') : ms = ms' := by
  refine List.ext_getElem (h.1.trans h'.1.symm) fun i hi hi' => ?_
  have hr : i < records.length := h.1 ▸ hi
  have first := h.2 i _ _ (List.getElem?_eq_getElem hr) (List.getElem?_eq_getElem hi)
  have second := h'.2 i _ _ (List.getElem?_eq_getElem hr) (List.getElem?_eq_getElem hi')
  exact first.unique second

theorem MeasuresAll.not_failsFirst (h : MeasuresAll now before records ms) : ¬ FailsFirst now before records e := by
  rintro ⟨i, r, hr, fails, -, -⟩
  obtain ⟨hi, -⟩ := List.getElem?_eq_some_iff.mp hr
  have hm : i < ms.length := h.1.symm ▸ hi
  exact (h.2 i r _ hr (List.getElem?_eq_getElem hm)).time.not_fails fails

theorem FailsFirst.unique {e' : ServiceError} (h : FailsFirst now before records e)
    (h' : FailsFirst now before records e') : e = e' := by
  obtain ⟨i, r, hr, fails, rfl, earlier⟩ := h
  obtain ⟨i', r', hr', fails', rfl, earlier'⟩ := h'
  rcases Nat.lt_trichotomy i i' with hlt | rfl | hlt
  · exact absurd fails (earlier' i hlt r hr)
  · rw [hr] at hr'
    rw [Option.some.inj hr']
  · exact absurd fails' (earlier i' hlt r' hr')

/-- The induction is on the records; what the ones before have set is in `baseOf`. --/
theorem measureAll_cases (now : Instant) (before records : List Record) :
    (∃ ms, measureAll now (baseOf before) records = .ok ms ∧ MeasuresAll now before records ms) ∨
      ∃ e, measureAll now (baseOf before) records = .error e ∧ FailsFirst now before records e := by
  induction records generalizing before with
  | nil => exact Or.inl ⟨[], rfl, .nil now before⟩
  | cons r rest ih =>
    unfold measureAll
    rw [update_baseOf]
    rcases measure_cases now before r with ⟨m, hm, measures⟩ | ⟨hm, fails⟩
    · dsimp only
      rw [hm]
      rcases ih (before ++ [r]) with ⟨ms, hms, all⟩ | ⟨e, he, first⟩
      · dsimp only
        rw [hms]
        exact Or.inl ⟨m :: ms, rfl, .cons measures all⟩
      · dsimp only
        rw [he]
        exact Or.inr ⟨e, rfl, .tail measures.time.not_fails first⟩
    · dsimp only
      rw [hm]
      exact Or.inr ⟨_, rfl, .head fails⟩

/-- A payload that is no list of records is malformed. Of one that is, either each record gives its measurement, told by
    its own fields and the last base fields up to it, or the first record whose time cannot be told fails the whole
    payload, and nothing else does. --/
theorem decode_pointwise (payload : List UInt8) (now : Instant) :
    match records? payload with
    | none => decode payload now = .error (.malformed .payload)
    | some records =>
      (∀ ms, decode payload now = .ok ms ↔ MeasuresAll now [] records ms) ∧
        ∀ e, decode payload now = .error e ↔ FailsFirst now [] records e := by
  unfold decode
  cases records? payload with
  | none => rfl
  | some records =>
    have start : Base.initial = baseOf [] := rfl
    dsimp only
    rw [start]
    rcases measureAll_cases now [] records with ⟨ms, hms, all⟩ | ⟨e, he, first⟩
    · rw [hms]
      constructor
      · intro ms'
        constructor
        · rintro ⟨⟩
          exact all
        · intro all'
          rw [all.unique all']
      · intro e
        constructor
        · rintro ⟨⟩
        · intro first
          exact absurd first all.not_failsFirst
    · rw [he]
      constructor
      · intro ms
        constructor
        · rintro ⟨⟩
        · intro all
          exact absurd first all.not_failsFirst
      · intro e'
        constructor
        · rintro ⟨⟩
          exact first
        · intro first'
          rw [first.unique first']

end Senml
end DigitalTwin
