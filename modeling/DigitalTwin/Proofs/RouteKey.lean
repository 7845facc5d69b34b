import DigitalTwin.Subscription
import Mathlib.Data.List.Nodup

/-! Sets of route keys held as lists: which keys are in them, and that the sorted form of a set depends
    on its members only. -/

namespace DigitalTwin
namespace RouteKey

variable {a b c key : RouteKey} {keys others : List RouteKey}

/-! ### The order of keys -/

theorem le_iff : le a b = true ↔ a.channel < b.channel ∨ a.channel = b.channel ∧ a.subtopic ≤ b.subtopic := by
  simp [le]

theorem le_trans (hab : le a b = true) (hbc : le b c = true) : le a c = true := by
  rw [le_iff] at *
  rcases hab with h | ⟨h, hs⟩ <;> rcases hbc with h' | ⟨h', hs'⟩
  · exact Or.inl (String.lt_trans h h')
  · exact Or.inl (h' ▸ h)
  · exact Or.inl (h ▸ h')
  · exact Or.inr ⟨h.trans h', String.le_trans hs hs'⟩

theorem le_total (a b : RouteKey) : (le a b || le b a) = true := by
  rw [Bool.or_eq_true, le_iff, le_iff]
  by_cases h : a.channel < b.channel
  · exact Or.inl (Or.inl h)
  · by_cases h' : b.channel < a.channel
    · exact Or.inr (Or.inl h')
    · have same : a.channel = b.channel := String.le_antisymm (String.not_lt.mp h') (String.not_lt.mp h)
      rcases String.le_total a.subtopic b.subtopic with hs | hs
      · exact Or.inl (Or.inr ⟨same, hs⟩)
      · exact Or.inr (Or.inr ⟨same.symm, hs⟩)

theorem le_antisymm (hab : le a b = true) (hba : le b a = true) : a = b := by
  rw [le_iff] at *
  rcases hab with h | ⟨h, hs⟩
  · rcases hba with h' | ⟨h', -⟩
    · exact absurd (String.lt_trans h h') (String.lt_irrefl _)
    · exact absurd (h' ▸ h) (String.lt_irrefl _)
  · rcases hba with h' | ⟨-, hs'⟩
    · exact absurd (h ▸ h') (String.lt_irrefl _)
    · cases a
      cases b
      cases h
      cases String.le_antisymm hs hs'
      rfl

@[simp] theorem mem_sorted : key ∈ sorted keys ↔ key ∈ keys := List.mem_mergeSort

theorem sorted_perm (keys : List RouteKey) : (sorted keys).Perm keys := List.mergeSort_perm _ _

theorem sorted_pairwise (keys : List RouteKey) : (sorted keys).Pairwise (fun a b => le a b = true) :=
  List.pairwise_mergeSort (fun a b c hab hbc => le_trans (a := a) (b := b) (c := c) hab hbc) le_total keys

/-- Two lists without repetitions that have the same members have one sorted form. --/
theorem sorted_congr (hn : keys.Nodup) (hn' : others.Nodup) (h : ∀ key, key ∈ keys ↔ key ∈ others) :
    sorted keys = sorted others := by
  have perm : (sorted keys).Perm (sorted others) :=
    (sorted_perm keys).trans (((List.perm_ext_iff_of_nodup hn hn').mpr h).trans (sorted_perm others).symm)
  exact List.Perm.eq_of_pairwise (fun _ _ _ _ => le_antisymm) (sorted_pairwise keys) (sorted_pairwise others) perm

/-! ### Sets -/

@[simp] theorem mem_setOf : ∀ {keys : List RouteKey}, key ∈ setOf keys ↔ key ∈ keys
  | [] => Iff.rfl
  | k :: rest => by
    show key ∈ (setOf rest).insert k ↔ _
    rw [List.mem_insert_iff, mem_setOf, List.mem_cons]

theorem nodup_setOf : ∀ keys : List RouteKey, (setOf keys).Nodup
  | [] => List.nodup_nil
  | _ :: rest => (nodup_setOf rest).insert

@[simp] theorem mem_difference : key ∈ difference keys others ↔ key ∈ keys ∧ key ∉ others := by
  simp [difference]

/-! ### Lists of keys -/

theorem nodup_sorted (hn : keys.Nodup) : (sorted keys).Nodup := (sorted_perm keys).nodup_iff.mpr hn

/-- The keys with a property and no others, in order and each once. -/
structure Lists (keys : List RouteKey) (p : RouteKey → Prop) : Prop where
  ordered : keys.Pairwise fun a b => le a b = true
  nodup : keys.Nodup
  mem_iff : ∀ key, key ∈ keys ↔ p key

namespace Lists

theorem sorted (hn : keys.Nodup) : Lists (RouteKey.sorted keys) (· ∈ keys) :=
  ⟨sorted_pairwise keys, nodup_sorted hn, fun _ => mem_sorted⟩

theorem difference (hn : keys.Nodup) (others : List RouteKey) :
    Lists (RouteKey.difference keys others) fun key => key ∈ keys ∧ key ∉ others :=
  ⟨sorted_pairwise _, nodup_sorted (hn.filter _), fun _ => mem_difference⟩

theorem congr {p q : RouteKey → Prop} (h : Lists keys p) (hpq : ∀ key, p key ↔ q key) : Lists keys q :=
  ⟨h.ordered, h.nodup, fun key => (h.mem_iff key).trans (hpq key)⟩

/-- With what one set has and the other has not, each of two sets has as many keys as the other. --/
theorem length_add {added removed : List RouteKey} (ha : Lists added fun key => key ∈ others ∧ key ∉ keys)
    (hr : Lists removed fun key => key ∈ keys ∧ key ∉ others) (hn : keys.Nodup) (hn' : others.Nodup) :
    others.length + removed.length = keys.length + added.length := by
  have all : (others ++ removed).Nodup := List.nodup_append.mpr ⟨hn', hr.nodup, fun key ho other hother heq =>
    ((hr.mem_iff other).mp hother).2 (heq ▸ ho)⟩
  have all' : (keys ++ added).Nodup := List.nodup_append.mpr ⟨hn, ha.nodup, fun key hk other hother heq =>
    ((ha.mem_iff other).mp hother).2 (heq ▸ hk)⟩
  have perm : (others ++ removed).Perm (keys ++ added) := by
    refine (List.perm_ext_iff_of_nodup all all').mpr fun key => ?_
    rw [List.mem_append, List.mem_append, ha.mem_iff, hr.mem_iff]
    tauto
  simpa using perm.length_eq

end Lists

end RouteKey
end DigitalTwin
