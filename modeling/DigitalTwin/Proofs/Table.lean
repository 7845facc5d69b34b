import DigitalTwin.Table
import Mathlib.Data.List.Nodup

/-! Looking a name up in a table that was changed. The list of entries is opened here only; all that is
    said of tables elsewhere goes through these lookups. -/

namespace DigitalTwin
namespace Table

variable {κ ν : Type} [DecidableEq κ] {t t' : Table κ ν} {k k' : κ} {v : ν}

@[simp] theorem get?_empty : (empty : Table κ ν).get? k = none := rfl

theorem find?_put : ∀ entries : List (κ × ν),
    (put k v entries).find? (·.1 = k') = if k' = k then some (k, v) else entries.find? (·.1 = k')
  | [] => by
    by_cases h : k' = k
    · simp [put, h]
    · simp [put, h, Ne.symm h]
  | (other, kept) :: rest => by
    have ih := find?_put rest
    unfold put
    by_cases ho : other = k
    · subst ho
      by_cases h : k' = other
      · simp [h]
      · simp [h, Ne.symm h]
    · rw [if_neg ho]
      by_cases h : other = k'
      · subst h
        simp [ho]
      · simp only [List.find?_cons, h, decide_false, ih]

theorem get?_insert : (t.insert k v).get? k' = if k' = k then some v else t.get? k' := by
  unfold get? insert
  rw [find?_put]
  split <;> rfl

@[simp] theorem get?_insert_self : (t.insert k v).get? k = some v := by
  rw [get?_insert, if_pos rfl]

theorem get?_insert_of_ne (h : k' ≠ k) : (t.insert k v).get? k' = t.get? k' := by
  rw [get?_insert, if_neg h]

theorem get?_erase : (t.erase k).get? k' = if k' = k then none else t.get? k' := by
  unfold get? erase
  rw [List.find?_filter]
  split
  · rename_i h
    subst h
    simp
  · rename_i h
    congr 2
    funext entry
    by_cases he : entry.1 = k'
    · simp [he, h]
    · simp [he]

@[simp] theorem get?_erase_self : (t.erase k).get? k = none := by
  rw [get?_erase, if_pos rfl]

theorem get?_erase_of_ne (h : k' ≠ k) : (t.erase k).get? k' = t.get? k' := by
  rw [get?_erase, if_neg h]

theorem mem_keys : k ∈ t.keys ↔ ∃ v, t.get? k = some v := by
  unfold keys get?
  simp only [List.mem_map, Option.map_eq_some_iff]
  constructor
  · rintro ⟨entry, he, rfl⟩
    have found : (t.entries.find? (·.1 = entry.1)).isSome := List.find?_isSome.mpr ⟨entry, he, by simp⟩
    obtain ⟨entry', h⟩ := Option.isSome_iff_exists.mp found
    exact ⟨entry'.2, entry', h, rfl⟩
  · rintro ⟨v, entry, h, -⟩
    exact ⟨entry, List.mem_of_find?_eq_some h, by simpa using List.find?_some h⟩

theorem contains_eq_true : t.contains k = true ↔ ∃ v, t.get? k = some v := Option.isSome_iff_exists

/-! ### The names of a table -/

theorem keys_put : ∀ entries : List (κ × ν), (put k v entries).map (·.1) =
    if k ∈ entries.map (·.1) then entries.map (·.1) else entries.map (·.1) ++ [k]
  | [] => by simp [put]
  | (other, kept) :: rest => by
    have ih := keys_put rest
    unfold put
    by_cases ho : other = k
    · simp [ho]
    · rw [if_neg ho, List.map_cons, ih]
      by_cases hk : k ∈ rest.map (·.1) <;> simp [hk, Ne.symm ho]

/-- A name that is put in again keeps its place, and a new one comes last. --/
theorem keys_insert : (t.insert k v).keys = if k ∈ t.keys then t.keys else t.keys ++ [k] := keys_put t.entries

@[simp] theorem mem_keys_insert : k' ∈ (t.insert k v).keys ↔ k' = k ∨ k' ∈ t.keys := by
  rw [keys_insert]
  split
  · rename_i hk
    constructor
    · exact Or.inr
    · rintro (rfl | h)
      · exact hk
      · exact h
  · simp [or_comm]

@[simp] theorem mem_keys_erase : k' ∈ (t.erase k).keys ↔ k' ≠ k ∧ k' ∈ t.keys := by
  simp only [mem_keys, get?_erase]
  by_cases h : k' = k <;> simp [h]

theorem nodup_keys_insert (h : t.keys.Nodup) (k : κ) (v : ν) : (t.insert k v).keys.Nodup := by
  rw [keys_insert]
  split
  · exact h
  · rename_i hk
    rw [List.nodup_append]
    refine ⟨h, by simp, fun a ha b hb hab => hk ?_⟩
    obtain rfl := List.mem_singleton.mp hb
    exact hab ▸ ha

theorem nodup_keys_erase (h : t.keys.Nodup) (k : κ) : (t.erase k).keys.Nodup :=
  h.sublist (List.filter_sublist.map _)

/-! ### The entries of a table -/

theorem mem_entries (h : t.keys.Nodup) : (k, v) ∈ t.entries ↔ t.get? k = some v := by
  unfold get?
  rw [Option.map_eq_some_iff]
  constructor
  · intro hm
    have found : (t.entries.find? (·.1 = k)).isSome := List.find?_isSome.mpr ⟨(k, v), hm, by simp⟩
    obtain ⟨entry, he⟩ := Option.isSome_iff_exists.mp found
    have hk : entry.1 = k := by simpa using List.find?_some he
    have same : entry = (k, v) := List.inj_on_of_nodup_map h (List.mem_of_find?_eq_some he) hm hk
    exact ⟨entry, he, congrArg Prod.snd same⟩
  · rintro ⟨⟨k', v'⟩, he, rfl⟩
    have hk : k' = k := by simpa using List.find?_some he
    exact hk ▸ List.mem_of_find?_eq_some he

/-- With every name put in once, what is looked up behind a pass over all values is what the pass leaves. --/
theorem get?_filter (h : t.keys.Nodup) (p : ν → Bool) :
    get? ⟨t.entries.filter fun entry => p entry.2⟩ k = (t.get? k).filter p := by
  have nodup : (⟨t.entries.filter fun entry => p entry.2⟩ : Table κ ν).keys.Nodup :=
    h.sublist (List.filter_sublist.map _)
  ext v
  rw [← mem_entries nodup, List.mem_filter, mem_entries h, Option.filter_eq_some_iff]

/-- Two tables in which the same is looked up under each name have the same entries. --/
theorem entries_perm (h : t.keys.Nodup) (h' : t'.keys.Nodup) (same : ∀ k, t.get? k = t'.get? k) :
    t.entries.Perm t'.entries := by
  refine (List.perm_ext_iff_of_nodup (List.Nodup.of_map _ h) (List.Nodup.of_map _ h')).mpr fun entry => ?_
  rw [mem_entries h, mem_entries h', same]

end Table
end DigitalTwin
