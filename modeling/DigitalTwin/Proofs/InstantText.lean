import DigitalTwin.Proofs.Calendar
import DigitalTwin.Time.Rfc3339
import Mathlib.Data.List.Induction
import Mathlib.Data.List.TakeWhile
import Mathlib.Data.Nat.Digits.Defs

/-! Instants and their text. What reading lenient text gives is an instant that is kept and whose leap second, if it is
    one, ends a minute of universal time; such an instant is read back from the text that it is written as. -/

namespace DigitalTwin

/-- One step of reading. -/
theorem bind_of_eq_some {α β : Type} {o : Option α} {a : α} {f : α → Option β} {b : Option β} (ho : o = some a)
    (hf : f a = b) : (o >>= f) = b := by
  rw [ho]
  exact hf

/-! ### Digits -/

theorem Text.isBlank_of_isDigit {c : Char} (h : c.isDigit = true) : Text.isBlank c = false := by
  simp only [Char.isDigit, Bool.and_eq_true, decide_eq_true_eq, UInt32.le_iff_toNat_le] at h
  have h0 : 48 ≤ c.toNat := h.1
  have h9 : c.toNat ≤ 57 := h.2
  simp only [Text.isBlank, Text.blankRanges, List.any_cons, List.any_nil, Bool.or_false, Bool.or_eq_false_iff,
    decide_eq_false_iff_not]
  omega

theorem Text.trimStart_cons {c : Char} {s : List Char} (h : Text.isBlank c = false) :
    Text.trimStart (c :: s) = c :: s :=
  List.dropWhile_cons_of_neg (by simp [h])

namespace Instant

theorem naturalOf_concat (digits : List Char) (c : Char) :
    naturalOf (digits ++ [c]) = 10 * naturalOf digits + (c.toNat - 48) := by
  simp [naturalOf]

theorem naturalOf_lt {digits : List Char} (h : ∀ c ∈ digits, c.isDigit = true) :
    naturalOf digits < 10 ^ digits.length := by
  induction digits using List.reverseRecOn with
  | nil => simp [naturalOf]
  | append_singleton digits c ih =>
    have before : naturalOf digits < 10 ^ digits.length := ih fun d hd => h d (List.mem_append_left _ hd)
    have last : c.isDigit = true := h c (by simp)
    simp only [Char.isDigit, Bool.and_eq_true, decide_eq_true_eq, UInt32.le_iff_toNat_le] at last
    have h9 : c.toNat ≤ 57 := last.2
    rw [naturalOf_concat, List.length_append, List.length_singleton, Nat.pow_succ]
    omega

theorem padded_isDigit (width n : Nat) : ∀ c ∈ padded width n, c.isDigit = true := by
  intro c hc
  rcases List.mem_append.mp hc with hc | hc
  · rw [List.eq_of_mem_replicate hc]
    rfl
  · exact Nat.isDigit_of_mem_toDigits (b := 10) (by omega) (by omega) hc

theorem naturalOf_padded (width n : Nat) : naturalOf (padded width n) = n := by
  have hdigits (digits : List Char) : naturalOf digits = Nat.ofDigitChars 10 digits 0 :=
    Nat.ofDigitChars_eq_foldl.symm
  rw [hdigits]
  simp [padded, Nat.ofDigitChars_append, Nat.ofDigitChars_replicate_zero]

theorem padded_ne_nil (width n : Nat) : padded width n ≠ [] := by
  simp [padded, Nat.toDigits_ne_nil]

theorem padded_length {width n : Nat} (hw : 0 < width) (hn : n < 10 ^ width) : (padded width n).length = width := by
  have hlen : (Nat.toDigits 10 n).length ≤ width := (Nat.length_toDigits_le_iff (by omega) hw).mpr hn
  simp only [padded, List.length_append, List.length_replicate]
  omega

theorem exists_padded (width n : Nat) : ∃ c s, padded width n = c :: s ∧ c.isDigit = true := by
  obtain ⟨c, s, hs⟩ := List.exists_cons_of_ne_nil (padded_ne_nil width n)
  exact ⟨c, s, hs, padded_isDigit width n c (hs ▸ List.mem_cons_self)⟩

theorem takeWhile_padded (width n : Nat) (rest : List Char) (hrest : rest.takeWhile Char.isDigit = []) :
    (padded width n ++ rest).takeWhile Char.isDigit = padded width n := by
  rw [List.takeWhile_append_of_pos (padded_isDigit width n), hrest, List.append_nil]

theorem trimStart_padded (width n : Nat) (rest : List Char) :
    Text.trimStart (padded width n ++ rest) = padded width n ++ rest := by
  obtain ⟨c, s, hs, hc⟩ := exists_padded width n
  rw [hs, List.cons_append, Text.trimStart_cons (Text.isBlank_of_isDigit hc)]

/-! ### Reading what is written -/

theorem number?_padded {width n : Nat} (hw : 0 < width) (hn : n < 10 ^ width) (rest : List Char) :
    number? width (padded width n ++ rest) = some (n, rest) := by
  have hlen : (padded width n).length = width := padded_length hw hn
  have digits : ((padded width n ++ rest).take width).takeWhile Char.isDigit = padded width n := by
    rw [List.take_left' hlen]
    simpa using takeWhile_padded width n [] rfl
  unfold number?
  simp only [trimStart_padded, digits, List.isEmpty_iff, padded_ne_nil, if_false, naturalOf_padded, List.drop_left]

theorem signed?_padded (width n : Nat) (rest : List Char) (hrest : rest.takeWhile Char.isDigit = []) :
    year?.signed? (padded width n ++ rest) = some (n, rest) := by
  unfold year?.signed?
  simp only [takeWhile_padded width n rest hrest, List.isEmpty_iff, padded_ne_nil, if_false, naturalOf_padded,
    List.drop_left]

theorem mark?_cons {c : Char} (h : Text.isBlank c = false) (rest : List Char) : mark? c (c :: rest) = some rest := by
  simp [mark?, Text.trimStart_cons h]

theorem year?_of_isDigit {c : Char} (h : c.isDigit = true) (s : List Char) :
    year? (c :: s) = (number? 4 (c :: s)).map fun (n, rest) => ((n : Int), rest) := by
  unfold year?
  rw [Text.trimStart_cons (Text.isBlank_of_isDigit h)]
  split
  · rename_i heq
    rw [(List.cons.inj heq).1] at h
    contradiction
  · rename_i heq
    rw [(List.cons.inj heq).1] at h
    contradiction
  · rfl

theorem year?_yearText (year : Int) (rest : List Char) :
    year? (yearText year ++ '-' :: rest) = some (year, '-' :: rest) := by
  unfold yearText
  split
  · rename_i h
    have hn : year.toNat < 10 ^ 4 := by omega
    obtain ⟨c, s, hs, hc⟩ := exists_padded 4 year.toNat
    rw [hs, List.cons_append, year?_of_isDigit hc, ← List.cons_append, ← hs, number?_padded (by omega) hn]
    simp [h.1]
  · rename_i h
    split
    · have trimmed := Text.trimStart_cons (c := '-') (s := padded 4 year.natAbs ++ '-' :: rest) rfl
      simp only [List.cons_append, year?, trimmed, signed?_padded 4 year.natAbs ('-' :: rest) rfl,
        Option.map_some, Option.some.injEq, Prod.mk.injEq, and_true]
      omega
    · have trimmed := Text.trimStart_cons (c := '+') (s := padded 4 year.natAbs ++ '-' :: rest) rfl
      simp only [List.cons_append, year?, trimmed, signed?_padded 4 year.natAbs ('-' :: rest) rfl,
        Option.map_some, Option.some.injEq, Prod.mk.injEq, and_true]
      omega

theorem fraction?_padded {width n : Nat} (hw : 0 < width) (hw9 : width ≤ 9) (hn : n < 10 ^ width) :
    fraction? ('.' :: (padded width n ++ ['Z'])) = some (n * 10 ^ (9 - width), ['Z']) := by
  have hlen : (padded width n).length = width := padded_length hw hn
  have kept : (padded width n).take 9 = padded width n := List.take_of_length_le (by omega)
  have digits := takeWhile_padded width n ['Z'] rfl
  have after : (padded width n ++ ['Z']).drop width = ['Z'] := List.drop_left' hlen
  simp only [fraction?, digits, List.isEmpty_iff, padded_ne_nil, if_false, kept, naturalOf_padded, hlen, after]
  rfl

theorem fraction?_fractionText {nanos : Nat} (h : nanos < 1000000000) :
    fraction? (fractionText nanos ++ ['Z']) = some (nanos, ['Z']) := by
  unfold fractionText
  split
  · rename_i hzero
    rw [hzero]
    rfl
  · split
    · rw [List.cons_append, fraction?_padded (by omega) (by omega) (by omega)]
      congr 2
      omega
    · split
      · rw [List.cons_append, fraction?_padded (by omega) (by omega) (by omega)]
        congr 2
        omega
      · rw [List.cons_append, fraction?_padded (by omega) (by omega) (by omega)]
        simp

/-! ### Leap seconds -/

/-- An instant that is kept; a leap second ends a minute. -/
structure WellTimed (t : Instant) : Prop where
  inRange : t.inRange = true
  leap : 1000000000 ≤ t.nanos → t.seconds % 60 = 59

theorem timeOfDay?_written {second nanos : Nat} (hday : second < 86400) (hnanos : nanos < 2000000000)
    (hleap : 1000000000 ≤ nanos → second % 60 = 59) :
    timeOfDay? (second / 3600) (second / 60 % 60) (second % 60 + if 1000000000 ≤ nanos then 1 else 0)
      (nanos % 1000000000) = some (second, nanos) := by
  have hour : ¬ 23 < second / 3600 := by omega
  have minute : ¬ 59 < second / 60 % 60 := by omega
  have parts : second / 3600 * 3600 + second / 60 % 60 * 60 + second % 60 = second := by omega
  unfold timeOfDay?
  split
  · rename_i h
    have last := hleap h
    rw [if_neg (by omega), if_pos (by omega), Option.some.injEq, Prod.mk.injEq]
    omega
  · rw [if_neg (by omega), if_neg (by omega), Option.some.injEq, Prod.mk.injEq]
    omega

theorem isValid_date {t : Instant} (h : t.inRange = true) : t.date.isValid = true := by
  obtain ⟨first, last, -⟩ := of_decide_eq_true h
  unfold firstSecond at first
  unfold lastSecond at last
  exact CivilDate.isValid_ofDayNumber (by omega) (by omega)

theorem dayNumber_date (t : Instant) : t.date.dayNumber * 86400 + (t.secondOfDay : Int) = t.seconds := by
  unfold date secondOfDay
  rw [CivilDate.dayNumber_ofDayNumber]
  omega

theorem secondOfDay_lt (t : Instant) : t.secondOfDay < 86400 := by
  unfold secondOfDay
  omega

theorem WellTimed.last {t : Instant} (h : t.WellTimed) (hleap : 1000000000 ≤ t.nanos) : t.secondOfDay % 60 = 59 := by
  have last := h.leap hleap
  unfold secondOfDay
  omega

/-- A well-timed instant is read back from its text. -/
theorem WellTimed.ofText?_toText {t : Instant} (h : t.WellTimed) : ofText? t.toText = some t := by
  have valid := isValid_date h.inRange
  obtain ⟨-, -, -, month, -, day⟩ := of_decide_eq_true valid
  have nanos : t.nanos < 2000000000 := (of_decide_eq_true h.inRange).2.2
  have days := CivilDate.daysInMonth_le t.date.year t.date.month
  have second := t.secondOfDay_lt
  have time := timeOfDay?_written second nanos h.last
  have written : (t.secondOfDay % 60 + if 1000000000 ≤ t.nanos then 1 else 0) < 10 ^ 2 := by
    split <;> omega
  -- The parts of the text in their order; the date ends at the fifth, where the letter parts it from the time.
  unfold ofText? toText
  simp only [String.toList_ofList, List.append_assoc, List.cons_append]
  refine bind_of_eq_some (year?_yearText _ _) ?_
  refine bind_of_eq_some (mark?_cons rfl _) ?_
  refine bind_of_eq_some (number?_padded (by omega) (by omega) _) ?_
  refine bind_of_eq_some (mark?_cons rfl _) ?_
  refine bind_of_eq_some (number?_padded (by omega) (by omega) _) ?_
  refine bind_of_eq_some (o := some _) rfl ?_
  refine bind_of_eq_some (number?_padded (by omega) (by omega) _) ?_
  refine bind_of_eq_some (mark?_cons rfl _) ?_
  refine bind_of_eq_some (number?_padded (by omega) (by omega) _) ?_
  refine bind_of_eq_some (mark?_cons rfl _) ?_
  refine bind_of_eq_some (number?_padded (by omega) written _) ?_
  refine bind_of_eq_some (fraction?_fractionText (by omega)) ?_
  refine bind_of_eq_some (a := (0, [])) rfl ?_
  refine bind_of_eq_some time ?_
  have read : (⟨t.date.dayNumber * 86400 + t.secondOfDay - 0, t.nanos⟩ : Instant) = t := by
    rw [dayNumber_date, Int.sub_zero]
  dsimp only
  rw [read, if_pos ⟨valid, by decide, rfl, h.inRange⟩]

/-! ### What is read -/

theorem fraction?_lt {s rest : List Char} {nanos : Nat} (h : fraction? s = some (nanos, rest)) :
    nanos < 1000000000 := by
  unfold fraction? at h
  split at h
  · rename_i digits
    dsimp only at h
    split at h
    · contradiction
    · obtain ⟨rfl, -⟩ := Prod.mk.inj (Option.some.inj h)
      generalize hkept : (digits.takeWhile Char.isDigit).take 9 = kept
      have hlen : kept.length ≤ 9 := by
        rw [← hkept]
        exact List.length_take_le 9 _
      have hlt : naturalOf kept < 10 ^ kept.length := naturalOf_lt fun c hc =>
        List.mem_takeWhile_imp (List.mem_of_mem_take (hkept ▸ hc))
      calc naturalOf kept * 10 ^ (9 - kept.length)
          < 10 ^ kept.length * 10 ^ (9 - kept.length) := Nat.mul_lt_mul_of_pos_right hlt (Nat.pow_pos (by omega))
        _ = 10 ^ 9 := by rw [← Nat.pow_add, Nat.add_sub_cancel' hlen]
  · obtain ⟨rfl, -⟩ := Prod.mk.inj (Option.some.inj h)
    decide

theorem shift?_minutes {s rest : List Char} {n : Nat} (h : offset?.shift? s = some (n, rest)) : n % 60 = 0 := by
  unfold offset?.shift? at h
  split at h
  · contradiction
  · split at h
    · contradiction
    · split at h
      · obtain ⟨rfl, -⟩ := Prod.mk.inj (Option.some.inj h)
        omega
      · contradiction

theorem offset?_minutes {s rest : List Char} {offset : Int} (h : offset? s = some (offset, rest)) :
    offset % 60 = 0 := by
  unfold offset? at h
  split at h
  · contradiction
  · split at h
    · obtain ⟨rfl, -⟩ := Prod.mk.inj (Option.some.inj h)
      rfl
    · split at h
      · obtain ⟨rfl, -⟩ := Prod.mk.inj (Option.some.inj h)
        rfl
      · split at h
        · obtain ⟨⟨n, after⟩, hn, heq⟩ := Option.map_eq_some_iff.mp h
          have minutes := shift?_minutes hn
          obtain ⟨rfl, -⟩ := Prod.mk.inj heq
          omega
        · split at h
          · obtain ⟨⟨n, after⟩, hn, heq⟩ := Option.map_eq_some_iff.mp h
            have minutes := shift?_minutes hn
            obtain ⟨rfl, -⟩ := Prod.mk.inj heq
            omega
          · contradiction

theorem timeOfDay?_leap {hour minute second nanos n s : Nat} (hn : nanos < 1000000000)
    (h : timeOfDay? hour minute second nanos = some (s, n)) (hleap : 1000000000 ≤ n) : s % 60 = 59 := by
  unfold timeOfDay? at h
  split at h
  · contradiction
  · split at h
    · obtain ⟨rfl, -⟩ := Prod.mk.inj (Option.some.inj h)
      omega
    · obtain ⟨-, rfl⟩ := Prod.mk.inj (Option.some.inj h)
      omega

/-- Reading gives well-timed instants: a leap second is read at the end of a minute, and offsets are whole minutes. -/
theorem wellTimed_of_ofText? {text : String} {t : Instant} (h : ofText? text = some t) : t.WellTimed := by
  -- Of all the parts only the fraction, the offset and the time of day matter.
  unfold ofText? at h
  obtain ⟨⟨year, _⟩, -, h⟩ := Option.bind_eq_some_iff.mp h
  obtain ⟨_, -, h⟩ := Option.bind_eq_some_iff.mp h
  obtain ⟨⟨month, _⟩, -, h⟩ := Option.bind_eq_some_iff.mp h
  obtain ⟨_, -, h⟩ := Option.bind_eq_some_iff.mp h
  obtain ⟨⟨day, _⟩, -, h⟩ := Option.bind_eq_some_iff.mp h
  dsimp only at h
  split at h
  · split at h
    · obtain ⟨_, -, h⟩ := Option.bind_eq_some_iff.mp h
      obtain ⟨⟨hour, _⟩, -, h⟩ := Option.bind_eq_some_iff.mp h
      obtain ⟨_, -, h⟩ := Option.bind_eq_some_iff.mp h
      obtain ⟨⟨minute, _⟩, -, h⟩ := Option.bind_eq_some_iff.mp h
      obtain ⟨_, -, h⟩ := Option.bind_eq_some_iff.mp h
      obtain ⟨⟨second, _⟩, -, h⟩ := Option.bind_eq_some_iff.mp h
      obtain ⟨⟨nanos, _⟩, hnanos, h⟩ := Option.bind_eq_some_iff.mp h
      obtain ⟨⟨offset, _⟩, hoffset, h⟩ := Option.bind_eq_some_iff.mp h
      obtain ⟨⟨s, n⟩, htime, h⟩ := Option.bind_eq_some_iff.mp h
      obtain ⟨⟨-, -, -, inRange⟩, heq⟩ := Option.ite_none_right_eq_some.mp h
      obtain rfl := Option.some.inj heq
      refine ⟨inRange, fun hleap => ?_⟩
      have minutes := offset?_minutes hoffset
      have last := timeOfDay?_leap (fraction?_lt hnanos) htime hleap
      dsimp only
      omega
    · contradiction
  · contradiction

end Instant
end DigitalTwin
