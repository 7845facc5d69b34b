import DigitalTwin.Store.Twins
import Mathlib.Data.List.Infix

/-! What a listing is. It has the twins that a declarative description of the filters picks, in the order in which
they were stored; two metadata values are equal there if they are the same value once all zeros among their floats
are positive. A page of it is what is left when `offset` items are dropped and `limit` items are taken. -/

namespace DigitalTwin

/-! ### Equal values -/

namespace Binary64

variable {x y : Binary64}

/-- The number, with the positive zero for both zeros. -/
def canonical (x : Binary64) : Binary64 := if x.magnitudeBits = 0 then zero else x

theorem eq_of_bits (magnitude : x.magnitudeBits = y.magnitudeBits) (sign : x.isNegative = y.isNegative) : x = y := by
  have hx := x.bits.toNat_lt
  have hy := y.bits.toNat_lt
  have same : x.bits.toNat = y.bits.toNat := by
    simp only [magnitudeBits, isNegative, decide_eq_decide, Nat.pow_eq] at magnitude sign
    omega
  cases x
  cases y
  exact congrArg _ (UInt64.toNat_inj.mp same)

/-- Numbers that compare equal are one number, the two zeros apart. --/
theorem same_eq_true : x.same y = true ↔ x.canonical = y.canonical := by
  unfold same
  rw [decide_eq_true_iff]
  have zeroBits : zero.magnitudeBits = 0 := by decide
  have rank_eq_zero (z : Binary64) : z.rank = 0 ↔ z.magnitudeBits = 0 := by
    unfold rank
    split <;> omega
  unfold canonical
  by_cases hx : x.magnitudeBits = 0 <;> by_cases hy : y.magnitudeBits = 0
  · simp [hx, hy, (rank_eq_zero x).mpr hx, (rank_eq_zero y).mpr hy]
  · rw [if_pos hx, if_neg hy, (rank_eq_zero x).mpr hx]
    exact ⟨fun h => absurd ((rank_eq_zero y).mp h.symm) hy, fun h => absurd (h ▸ zeroBits) hy⟩
  · rw [if_neg hx, if_pos hy, (rank_eq_zero y).mpr hy]
    exact ⟨fun h => absurd ((rank_eq_zero x).mp h) hx, fun h => absurd (h ▸ zeroBits) hx⟩
  · rw [if_neg hx, if_neg hy]
    refine ⟨fun h => ?_, congrArg rank⟩
    -- Neither is a zero, so the sign can be told from the rank.
    unfold rank at h
    cases hsx : x.isNegative <;> cases hsy : y.isNegative <;>
      simp only [hsx, hsy, if_true, Bool.false_eq_true, if_false] at h
    · exact eq_of_bits (by omega) (hsx.trans hsy.symm)
    · omega
    · omega
    · exact eq_of_bits (by omega) (hsx.trans hsy.symm)

end Binary64

namespace Json

/-- A number, with the positive zero for both zeros among the floats. -/
def canonicalNumber : Number → Number
  | .integer i => .integer i
  | .float x => .float x.canonical

mutual

/-- A value with every zero among its floats positive. -/
def canonical : Json → Json
  | .null => .null
  | .bool b => .bool b
  | .number n => .number (canonicalNumber n)
  | .text s => .text s
  | .array items => .array (canonicalItems items)
  | .object fields => .object (canonicalFields fields)

def canonicalItems : List Json → List Json
  | [] => []
  | v :: rest => v.canonical :: canonicalItems rest

def canonicalFields : List (String × Json) → List (String × Json)
  | [] => []
  | (name, v) :: rest => (name, v.canonical) :: canonicalFields rest

end

theorem sameNumber_eq_true : ∀ {m n : Number}, m.same n = true ↔ canonicalNumber m = canonicalNumber n
  | .integer i, .integer j => by simp [Number.same, canonicalNumber]
  | .float x, .float y => by simpa [Number.same, canonicalNumber] using Binary64.same_eq_true
  | .integer _, .float _ => by simp [Number.same, canonicalNumber]
  | .float _, .integer _ => by simp [Number.same, canonicalNumber]

mutual

/-- Equality of values is that of their canonical forms. --/
theorem same_eq_true : ∀ v w : Json, v.same w = true ↔ v.canonical = w.canonical
  | .null, w => by cases w <;> simp [same, canonical]
  | .bool _, w => by cases w <;> simp [same, canonical]
  | .number _, w => by cases w <;> simp [same, canonical, sameNumber_eq_true]
  | .text _, w => by cases w <;> simp [same, canonical]
  | .array a, .array b => by simp [same, canonical, sameItems_eq_true a b]
  | .object a, .object b => by simp [same, canonical, sameFields_eq_true a b]
  | .array _, .null | .array _, .bool _ | .array _, .number _ | .array _, .text _ | .array _, .object _ => by
    simp [same, canonical]
  | .object _, .null | .object _, .bool _ | .object _, .number _ | .object _, .text _ | .object _, .array _ => by
    simp [same, canonical]

theorem sameItems_eq_true : ∀ a b : List Json, sameItems a b = true ↔ canonicalItems a = canonicalItems b
  | [], b => by cases b <;> simp [sameItems, canonicalItems]
  | _ :: _, [] => by simp [sameItems, canonicalItems]
  | v :: a, w :: b => by simp [sameItems, canonicalItems, same_eq_true v w, sameItems_eq_true a b]

theorem sameFields_eq_true : ∀ a b : List (String × Json),
    sameFields a b = true ↔ canonicalFields a = canonicalFields b
  | [], b => by rcases b with - | ⟨_, _⟩ <;> simp [sameFields, canonicalFields]
  | (_, _) :: _, [] => by simp [sameFields, canonicalFields]
  | (m, v) :: a, (n, w) :: b => by
    simp [sameFields, canonicalFields, same_eq_true v w, sameFields_eq_true a b, and_assoc]

end

end Json

/-! ### The twins that are asked for -/

/-- A text occurs in another just if the other has it for a part. --/
theorem Text.occursIn_eq_true {part : List Char} : ∀ {s : List Char}, occursIn part s = true ↔ part <:+: s
  | [] => by simp [occursIn]
  | c :: rest => by
    rw [occursIn, Bool.or_eq_true, List.isPrefixOf_iff_prefix, occursIn_eq_true, List.infix_cons_iff]

/-- What a listing asks of a twin: it is the caller's, the text occurs in its name, and it has every field of
    the filter, with an equal value. -/
structure Twin.Matches (twin : Twin) (owner : String) (name : Option String) (metadata : Option JsonFields) : Prop where
  owned : twin.owner = owner
  named : ∀ part ∈ name, part.toList <:+: twin.name.toList
  described : ∀ filter ∈ metadata, ∀ entry ∈ filter,
    ∃ value, Json.field? entry.1 twin.metadata = some value ∧ value.canonical = entry.2.canonical

namespace Twin

variable {twin : Twin} {owner : String} {name : Option String} {metadata : Option JsonFields}

theorem hasMetadata_eq_true {filter : JsonFields} : twin.hasMetadata filter = true ↔ ∀ entry ∈ filter,
    ∃ value, Json.field? entry.1 twin.metadata = some value ∧ value.canonical = entry.2.canonical := by
  unfold hasMetadata
  rw [List.all_eq_true]
  refine forall₂_congr fun ⟨name, value⟩ _ => ?_
  dsimp only
  cases Json.field? name twin.metadata with
  | none => simp
  | some held => simpa using Json.same_eq_true held value

theorem accepts_eq_true :
    TwinStore.Filter.accepts ⟨owner, name, metadata⟩ twin = true ↔ twin.Matches owner name metadata := by
  simp only [TwinStore.Filter.accepts, Bool.and_eq_true, beq_iff_eq, Option.all_eq_true, nameContains,
    Text.occursIn_eq_true, hasMetadata_eq_true]
  constructor
  · rintro ⟨⟨owned, named⟩, described⟩
    exact ⟨owned, named, described⟩
  · intro h
    exact ⟨⟨h.owned, h.named⟩, h.described⟩

instance : Decidable (twin.Matches owner name metadata) := decidable_of_iff _ accepts_eq_true

end Twin

/-! ### Pages -/

namespace Page

variable {α : Type} {items : List α}

/-- The page of a listing that starts behind `offset` items and has `limit` items at most. -/
def cut (listing : List α) (offset limit : Nat) : Page α :=
  ⟨⟨listing.length, offset, limit⟩, (listing.drop offset).take limit⟩

/-- The page of a listing of any length. Places are words, so items behind the largest word are on no page, but they
count in the total. -/
def cutWords (listing : List α) (offset limit : Nat) : Page α :=
  ⟨⟨listing.length, offset, limit⟩, ((listing.take maxWord).drop offset).take limit⟩

theorem cutWords_nil (offset limit : Nat) : cutWords ([] : List α) offset limit = empty offset limit := by
  simp [cutWords, empty]

/-- In a listing that a word can count, no item is left out. --/
theorem cutWords_eq_cut (h : items.length ≤ maxWord) (offset limit : Nat) :
    cutWords items offset limit = cut items offset limit := by
  unfold cutWords cut
  rw [List.take_of_length_le h]

/-- The range of a page cuts it out of the listing. --/
theorem slice_eq_cutWords (items : List α) (offset limit : Nat) :
    slice items offset limit = cutWords items offset limit := by
  unfold slice cutWords PageInfo.range
  dsimp only
  congr 1
  rcases Nat.le_total items.length offset with past | within
  · rw [Nat.min_eq_right past, List.drop_eq_nil_of_le, List.drop_eq_nil_of_le, List.take_nil]
    · exact (List.length_take_le' _ _).trans past
    · exact List.length_take_le' _ _
  · rw [Nat.min_eq_left within, List.drop_take, List.drop_take, List.take_take, List.take_eq_take_iff,
      List.length_drop]
    omega

theorem slice_eq_cut (h : items.length ≤ maxWord) (offset limit : Nat) :
    slice items offset limit = cut items offset limit :=
  (slice_eq_cutWords items offset limit).trans (cutWords_eq_cut h offset limit)

end Page

/-- The twins that a filter accepts are those that match. --/
theorem TwinStore.filter_accepts_eq (f : Filter) (twins : List Twin) :
    twins.filter f.accepts = twins.filter fun twin => twin.Matches f.owner f.name f.metadata :=
  List.filter_congr fun twin _ => by rw [Bool.eq_iff_iff, Twin.accepts_eq_true, decide_eq_true_iff]

end DigitalTwin
