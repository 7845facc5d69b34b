import DigitalTwin.Store.Twins
import DigitalTwin.Proofs.Table
import Mathlib.Data.List.Nodup

/-! The twin store as a list: twins in the order in which they were stored, no two with one id. The
    sequence numbers and the table of them are hidden behind `WellFormed`. -/

namespace DigitalTwin
namespace TwinStore

variable {s t : TwinStore} {twin u : Twin} {id : String}

/-! ### Twins by sequence number -/

section Numbered
variable {l : List (Nat × Twin)} {seq : Nat}

theorem putAt_behind (twin : Twin) (h : ∀ p ∈ l, p.1 < seq) : putAt seq twin l = l ++ [(seq, twin)] := by
  induction l with
  | nil => rfl
  | cons p rest ih =>
    have hp := h p List.mem_cons_self
    unfold putAt
    rw [if_neg (by omega), if_neg (by omega), ih fun q hq => h q (List.mem_cons_of_mem _ hq)]
    rfl

theorem putAt_stored (twin : Twin) (hs : l.Pairwise (·.1 < ·.1)) (h : ∃ p ∈ l, p.1 = seq) :
    putAt seq twin l = l.map fun p => if p.1 = seq then (seq, twin) else p := by
  induction l with
  | nil => simp at h
  | cons p rest ih =>
    obtain ⟨hlt, hs⟩ := List.pairwise_cons.mp hs
    unfold putAt
    by_cases hp : p.1 = seq
    · -- Behind the place of `seq` all numbers are larger, so nothing else is replaced.
      have kept : rest.map (fun p => if p.1 = seq then (seq, twin) else p) = rest := by
        refine (List.map_congr_left fun q hq => if_neg ?_).trans (List.map_id' rest)
        have := hlt q hq
        omega
      rw [if_neg (by omega), if_pos hp.symm, List.map_cons, if_pos hp, kept]
    · obtain ⟨q, hq, rfl⟩ := h
      rcases List.mem_cons.mp hq with rfl | hq
      · exact absurd rfl hp
      · have := hlt q hq
        rw [if_neg (by omega), if_neg (by omega), List.map_cons, if_neg hp, ih hs ⟨q, hq, rfl⟩]

theorem mem_putAt {p : Nat × Twin} (h : p ∈ putAt seq twin l) : p = (seq, twin) ∨ p ∈ l := by
  induction l with
  | nil => exact Or.inl (List.mem_singleton.mp h)
  | cons q rest ih =>
    obtain ⟨other, kept⟩ := q
    unfold putAt at h
    split at h
    · exact List.mem_cons.mp h
    · split at h
      · exact (List.mem_cons.mp h).imp_right (List.mem_cons_of_mem _)
      · rcases List.mem_cons.mp h with rfl | h
        · exact Or.inr List.mem_cons_self
        · exact (ih h).imp_right (List.mem_cons_of_mem _)

theorem lookup_eq_some (hs : l.Pairwise (·.1 < ·.1)) : l.lookup seq = some twin ↔ (seq, twin) ∈ l := by
  induction l with
  | nil => simp
  | cons p rest ih =>
    obtain ⟨n, v⟩ := p
    obtain ⟨hlt, hs⟩ := List.pairwise_cons.mp hs
    by_cases hn : seq = n
    · subst hn
      simp only [List.lookup_cons, BEq.rfl, Option.some.injEq, List.mem_cons, Prod.mk.injEq, true_and]
      constructor
      · exact fun h => Or.inl h.symm
      · rintro (h | h)
        · exact h.symm
        · have := hlt _ h
          simp at this
    · simp [List.lookup_cons, beq_eq_false_iff_ne.mpr hn, ih hs, hn]

end Numbered

/-! ### Well-formed stores -/

/-- The two tables of a store agree: ids and sequence numbers of stored twins belong to each other. -/
structure WellFormed (s : TwinStore) : Prop where
  sorted : s.bySeq.Pairwise (·.1 < ·.1)
  issued : ∀ p ∈ s.bySeq, p.1 < s.nextSeq
  seqOf : ∀ id seq, s.seqOf.get? id = some seq ↔ ∃ twin, (seq, twin) ∈ s.bySeq ∧ twin.id = id

theorem mem_toList : twin ∈ s.toList ↔ ∃ seq, (seq, twin) ∈ s.bySeq := by
  simp [toList]

/-- Whatever the tables of a store hold, nothing but the given twin comes in. --/
theorem mem_of_putAt {seq nextSeq : Nat} {seqOf : Table String Nat}
    (h : u ∈ (⟨nextSeq, seqOf, putAt seq twin s.bySeq⟩ : TwinStore).toList) : u = twin ∨ u ∈ s.toList := by
  obtain ⟨seq', hu⟩ := mem_toList.mp h
  rcases mem_putAt hu with hu | hu
  · exact Or.inl (Prod.mk.inj hu).2
  · exact Or.inr (mem_toList.mpr ⟨seq', hu⟩)

theorem mem_of_insert (hi : s.insert twin = .ok t) (hu : u ∈ t.toList) : u = twin ∨ u ∈ s.toList := by
  unfold insert at hi
  split at hi
  · cases hi
  · cases hi
    exact mem_of_putAt hu

theorem mem_of_replace (hr : s.replace twin = .ok t) (hu : u ∈ t.toList) : u = twin ∨ u ∈ s.toList := by
  unfold replace at hr
  split at hr
  · cases hr
  · cases hr
    exact mem_of_putAt hu

theorem mem_of_erase (hu : u ∈ (s.erase id).toList) : u ∈ s.toList := by
  unfold erase at hu
  split at hu
  · exact hu
  · obtain ⟨seq, hu⟩ := mem_toList.mp hu
    exact mem_toList.mpr ⟨seq, (List.mem_filter.mp hu).1⟩

theorem wellFormed_empty : WellFormed empty :=
  ⟨List.Pairwise.nil, by simp [empty], by simp [empty]⟩

namespace WellFormed

theorem seq_inj (h : WellFormed s) {seq : Nat} (ht : (seq, twin) ∈ s.bySeq) (hu : (seq, u) ∈ s.bySeq) : twin = u := by
  have := (lookup_eq_some h.sorted).mpr ht
  rw [(lookup_eq_some h.sorted).mpr hu] at this
  exact (Option.some.inj this).symm

/-- No two stored twins have one id. --/
theorem nodup_ids (h : WellFormed s) : (s.toList.map (·.id)).Nodup := by
  rw [toList, List.map_map, List.nodup_iff_pairwise_ne, List.pairwise_map]
  refine h.sorted.imp_of_mem fun {p q} hp hq hlt hid => ?_
  have h₁ := (h.seqOf q.2.id p.1).mpr ⟨p.2, hp, hid⟩
  rw [(h.seqOf q.2.id q.1).mpr ⟨q.2, hq, rfl⟩] at h₁
  have := Option.some.inj h₁
  omega

theorem seqOf_iff (h : WellFormed s) {seq : Nat} (hseq : s.seqOf.get? id = some seq) :
    ∀ p ∈ s.bySeq, p.1 = seq ↔ p.2.id = id := fun p hp => by
  obtain ⟨old, hold, hid⟩ := (h.seqOf id seq).mp hseq
  constructor
  · rintro rfl
    rw [h.seq_inj hp hold]
    exact hid
  · intro hp'
    have := (h.seqOf id p.1).mpr ⟨p.2, hp, hp'⟩
    rw [hseq] at this
    exact (Option.some.inj this).symm

theorem get?_eq_some (h : WellFormed s) : s.get? id = some twin ↔ twin ∈ s.toList ∧ twin.id = id := by
  unfold get?
  rw [Option.bind_eq_some_iff]
  constructor
  · rintro ⟨seq, hseq, hl⟩
    have ht := (lookup_eq_some h.sorted).mp hl
    obtain ⟨u, hu, hid⟩ := (h.seqOf id seq).mp hseq
    cases h.seq_inj ht hu
    exact ⟨mem_toList.mpr ⟨seq, ht⟩, hid⟩
  · rintro ⟨ht, hid⟩
    obtain ⟨seq, ht⟩ := mem_toList.mp ht
    exact ⟨seq, (h.seqOf id seq).mpr ⟨twin, ht, hid⟩, (lookup_eq_some h.sorted).mpr ht⟩

theorem get?_eq_none (h : WellFormed s) : s.get? id = none ↔ ∀ u ∈ s.toList, u.id ≠ id := by
  constructor
  · intro hn u hu hid
    rw [(h.get?_eq_some).mpr ⟨hu, hid⟩] at hn
    cases hn
  · intro hne
    cases hg : s.get? id with
    | none => rfl
    | some u =>
      obtain ⟨hu, hid⟩ := h.get?_eq_some.mp hg
      exact absurd hid (hne u hu)

/-- Looking a twin up is looking through the stored twins for its id. --/
theorem get?_eq_find? (h : WellFormed s) (id : String) : s.get? id = s.toList.find? (·.id = id) := by
  cases hf : s.toList.find? (·.id = id) with
  | none => exact h.get?_eq_none.mpr fun u hu => by simpa using List.find?_eq_none.mp hf u hu
  | some twin => exact h.get?_eq_some.mpr ⟨List.mem_of_find?_eq_some hf, by simpa using List.find?_some hf⟩

theorem contains_seqOf (h : WellFormed s) : s.seqOf.contains id = true ↔ ∃ u ∈ s.toList, u.id = id := by
  rw [Table.contains_eq_true]
  constructor
  · rintro ⟨seq, hseq⟩
    obtain ⟨u, hu, hid⟩ := (h.seqOf id seq).mp hseq
    exact ⟨u, mem_toList.mpr ⟨seq, hu⟩, hid⟩
  · rintro ⟨u, hu, hid⟩
    obtain ⟨seq, hu⟩ := mem_toList.mp hu
    exact ⟨seq, (h.seqOf id seq).mpr ⟨u, hu, hid⟩⟩

end WellFormed

/-! ### What the operations do -/

/-- A twin is stored behind all others, under an id that is not taken. --/
theorem insert_ok (h : WellFormed s) (hi : s.insert twin = .ok t) :
    WellFormed t ∧ t.toList = s.toList ++ [twin] ∧ ∀ u ∈ s.toList, u.id ≠ twin.id := by
  unfold insert at hi
  split at hi
  · cases hi
  · rename_i hc
    cases hi
    have fresh : ∀ u ∈ s.toList, u.id ≠ twin.id := fun u hu hid => hc (h.contains_seqOf.mpr ⟨u, hu, hid⟩)
    have behind := putAt_behind twin h.issued
    refine ⟨⟨?_, ?_, ?_⟩, ?_, fresh⟩
    · rw [behind, List.pairwise_append]
      exact ⟨h.sorted, List.pairwise_singleton _ _, fun p hp q hq => by
        rw [List.mem_singleton.mp hq]
        exact h.issued p hp⟩
    · intro p hp
      rw [behind] at hp
      rcases List.mem_append.mp hp with hp | hp
      · exact Nat.lt_succ_of_lt (h.issued p hp)
      · rw [List.mem_singleton.mp hp]
        exact Nat.lt_succ_self _
    · intro id seq
      rw [behind, Table.get?_insert]
      by_cases hid : id = twin.id
      · subst hid
        rw [if_pos rfl, Option.some.injEq]
        constructor
        · rintro rfl
          exact ⟨twin, List.mem_append_right _ (List.mem_singleton_self _), rfl⟩
        · rintro ⟨u, hu, huid⟩
          rcases List.mem_append.mp hu with hu | hu
          · exact absurd huid (fresh u (mem_toList.mpr ⟨seq, hu⟩))
          · exact (congrArg Prod.fst (List.mem_singleton.mp hu)).symm
      · rw [if_neg hid, h.seqOf]
        constructor
        · rintro ⟨u, hu, huid⟩
          exact ⟨u, List.mem_append_left _ hu, huid⟩
        · rintro ⟨u, hu, huid⟩
          rcases List.mem_append.mp hu with hu | hu
          · exact ⟨u, hu, huid⟩
          · cases List.mem_singleton.mp hu
            exact absurd huid.symm hid
    · simp [toList, behind]

theorem mem_insert (h : WellFormed s) (hi : s.insert twin = .ok t) :
    u ∈ t.toList ↔ u = twin ∨ u ∈ s.toList ∧ u.id ≠ twin.id := by
  obtain ⟨-, hl, fresh⟩ := insert_ok h hi
  rw [hl, List.mem_append, List.mem_singleton]
  constructor
  · rintro (hu | rfl)
    · exact Or.inr ⟨hu, fresh u hu⟩
    · exact Or.inl rfl
  · rintro (rfl | ⟨hu, -⟩)
    · exact Or.inr rfl
    · exact Or.inl hu

theorem insert_error {e : ServiceError} (h : WellFormed s) (hi : s.insert twin = .error e) :
    e = .conflict ∧ ∃ u ∈ s.toList, u.id = twin.id := by
  unfold insert at hi
  split at hi
  · rename_i hc
    cases hi
    exact ⟨rfl, h.contains_seqOf.mp hc⟩
  · cases hi

/-- A twin takes the place of the one with its id. --/
theorem replace_ok (h : WellFormed s) (hr : s.replace twin = .ok t) :
    WellFormed t ∧ t.toList = (s.toList.map fun u => if u.id = twin.id then twin else u) ∧
      ∃ u ∈ s.toList, u.id = twin.id := by
  unfold replace at hr
  split at hr
  · cases hr
  · rename_i seq hseq
    cases hr
    obtain ⟨old, hold, hid⟩ := (h.seqOf twin.id seq).mp hseq
    have stored := putAt_stored twin h.sorted ⟨_, hold, rfl⟩
    have number := h.seqOf_iff hseq
    refine ⟨⟨?_, ?_, ?_⟩, ?_, old, mem_toList.mpr ⟨seq, hold⟩, hid⟩
    · rw [stored, List.pairwise_map]
      refine h.sorted.imp fun {p q} hlt => ?_
      split <;> split <;> simp_all
    · intro p hp
      rw [stored] at hp
      obtain ⟨q, hq, rfl⟩ := List.mem_map.mp hp
      have := h.issued q hq
      split
      · rename_i hs
        exact hs ▸ this
      · exact this
    · intro id n
      rw [stored, h.seqOf]
      constructor
      · rintro ⟨u, hu, huid⟩
        refine ⟨if n = seq then twin else u, List.mem_map.mpr ⟨_, hu, ?_⟩, ?_⟩
        · dsimp only
          split
          · rename_i hn
            rw [hn]
          · rfl
        · split
          · rename_i hn
            exact ((number _ hu).mp hn).symm.trans huid
          · exact huid
      · rintro ⟨u, hu, huid⟩
        obtain ⟨q, hq, hqu⟩ := List.mem_map.mp hu
        split at hqu
        · rename_i hn
          cases hqu
          exact ⟨q.2, hn ▸ hq, ((number q hq).mp hn).trans huid⟩
        · subst hqu
          exact ⟨u, hq, huid⟩
    · rw [toList, stored, toList, List.map_map, List.map_map]
      refine List.map_congr_left fun p hp => ?_
      simp only [Function.comp_apply, number p hp]
      split <;> rfl

theorem mem_replace (h : WellFormed s) (hr : s.replace twin = .ok t) :
    u ∈ t.toList ↔ u = twin ∨ u ∈ s.toList ∧ u.id ≠ twin.id := by
  obtain ⟨-, hl, u₀, hu₀, hid⟩ := replace_ok h hr
  rw [hl, List.mem_map]
  constructor
  · rintro ⟨v, hv, rfl⟩
    split
    · exact Or.inl rfl
    · rename_i hne
      exact Or.inr ⟨hv, hne⟩
  · rintro (rfl | ⟨hu, hne⟩)
    · exact ⟨u₀, hu₀, if_pos hid⟩
    · exact ⟨u, hu, if_neg hne⟩

theorem replace_error {e : ServiceError} (h : WellFormed s) (hr : s.replace twin = .error e) :
    e = .notFound ∧ ∀ u ∈ s.toList, u.id ≠ twin.id := by
  unfold replace at hr
  split at hr
  · rename_i hn
    cases hr
    refine ⟨rfl, fun u hu hid => ?_⟩
    obtain ⟨seq, hu⟩ := mem_toList.mp hu
    rw [(h.seqOf twin.id seq).mpr ⟨u, hu, hid⟩] at hn
    cases hn
  · cases hr

/-- The twin with an id is taken out, and the others keep their order. --/
theorem erase_toList (h : WellFormed s) (id : String) :
    WellFormed (s.erase id) ∧ (s.erase id).toList = s.toList.filter (·.id ≠ id) := by
  unfold erase
  split
  · rename_i hn
    refine ⟨h, (List.filter_eq_self.mpr fun u hu => ?_).symm⟩
    obtain ⟨seq, hu⟩ := mem_toList.mp hu
    refine decide_eq_true fun hid => ?_
    rw [(h.seqOf id seq).mpr ⟨u, hu, hid⟩] at hn
    cases hn
  · rename_i seq hseq
    have number := h.seqOf_iff hseq
    refine ⟨⟨h.sorted.filter _, fun p hp => h.issued p (List.mem_of_mem_filter hp), ?_⟩, ?_⟩
    · intro id' n
      rw [Table.get?_erase]
      by_cases hid' : id' = id
      · subst hid'
        simp only [if_true, reduceCtorEq, false_iff, not_exists, not_and]
        intro u hu huid
        obtain ⟨hu, hne⟩ := List.mem_filter.mp hu
        exact absurd ((number _ hu).mpr huid) (by simpa using hne)
      · rw [if_neg hid', h.seqOf]
        constructor
        · rintro ⟨u, hu, huid⟩
          refine ⟨u, List.mem_filter.mpr ⟨hu, decide_eq_true fun hn => ?_⟩, huid⟩
          exact hid' (huid.symm.trans ((number _ hu).mp hn))
        · rintro ⟨u, hu, huid⟩
          exact ⟨u, List.mem_of_mem_filter hu, huid⟩
    · rw [toList, toList, List.filter_map]
      congr 1
      refine List.filter_congr fun p hp => ?_
      simp [number p hp]

theorem mem_erase (h : WellFormed s) : u ∈ (s.erase id).toList ↔ u ∈ s.toList ∧ u.id ≠ id := by
  rw [(erase_toList h id).2, List.mem_filter, decide_eq_true_iff]

/-! ### What is found afterwards -/

/-- A twin that is put into a store is found there, and with other ids is found what was found before. --/
theorem get?_put (h : WellFormed s) (ht : WellFormed t)
    (hm : ∀ u, u ∈ t.toList ↔ u = twin ∨ u ∈ s.toList ∧ u.id ≠ twin.id) (id : String) :
    t.get? id = if id = twin.id then some twin else s.get? id := by
  ext u
  rw [ht.get?_eq_some, hm]
  split
  · rename_i hid
    subst hid
    constructor
    · rintro ⟨rfl | ⟨-, hne⟩, hu⟩
      · rfl
      · exact absurd hu hne
    · rintro hu
      cases hu
      exact ⟨Or.inl rfl, rfl⟩
  · rename_i hne
    rw [h.get?_eq_some]
    constructor
    · rintro ⟨rfl | ⟨hu, -⟩, hid⟩
      · exact absurd hid.symm hne
      · exact ⟨hu, hid⟩
    · rintro ⟨hu, rfl⟩
      exact ⟨Or.inr ⟨hu, hne⟩, rfl⟩

theorem get?_insert (h : WellFormed s) (hi : s.insert twin = .ok t) (id : String) :
    t.get? id = if id = twin.id then some twin else s.get? id :=
  get?_put h (insert_ok h hi).1 (fun _ => mem_insert h hi) id

theorem get?_replace (h : WellFormed s) (hr : s.replace twin = .ok t) (id : String) :
    t.get? id = if id = twin.id then some twin else s.get? id :=
  get?_put h (replace_ok h hr).1 (fun _ => mem_replace h hr) id

theorem get?_erase (h : WellFormed s) (id other : String) :
    (s.erase id).get? other = if other = id then none else s.get? other := by
  obtain ⟨hw, -⟩ := erase_toList h id
  split
  · rename_i hid
    subst hid
    exact hw.get?_eq_none.mpr fun u hu => ((mem_erase h).mp hu).2
  · rename_i hne
    ext u
    rw [hw.get?_eq_some, h.get?_eq_some, mem_erase h]
    constructor
    · rintro ⟨⟨hu, -⟩, hid⟩
      exact ⟨hu, hid⟩
    · rintro ⟨hu, rfl⟩
      exact ⟨⟨hu, hne⟩, rfl⟩

/-- What is stored under an id is not replaced by an insertion. --/
theorem get?_insert_of_stored (h : WellFormed s) (hi : s.insert twin = .ok t) (hg : s.get? id = some u) :
    t.get? id = some u := by
  obtain ⟨-, -, fresh⟩ := insert_ok h hi
  obtain ⟨hu, rfl⟩ := h.get?_eq_some.mp hg
  rw [get?_insert h hi, if_neg (fresh u hu), hg]

end TwinStore
end DigitalTwin
