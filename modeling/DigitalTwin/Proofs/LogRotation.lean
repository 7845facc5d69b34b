import DigitalTwin.Log.Session
import DigitalTwin.Proofs.FileTree
import Mathlib.Data.List.Nodup
import Mathlib.Data.Prod.Lex
import Mathlib.Data.String.Basic

/-! Old log files and the starts that remove them.

Sorting a directory from the newest file to the oldest and leaving out the first is the same as picking each
log file that another one outranks, for names in a directory are different. So what is left is a filter of
what there was. A start then adds one file at most, which bounds the log files behind any row of starts. -/

namespace DigitalTwin

variable {d : Directory} {e f : FileEntry}

/-! ### Ranks of log files -/

namespace FileEntry

/-- A name with the extension `log`: one that ends with it, behind something. --/
theorem isLog_eq_true : e.isLog = true ↔ ∃ stem ≠ [], e.name.toList = stem ++ ['.', 'l', 'o', 'g'] := by
  unfold isLog extension?
  dsimp only
  constructor
  · intro h
    have cut := List.takeWhile_append_dropWhile (p := (· ≠ '.')) (l := e.name.toList.reverse)
    split at h
    · cases h
    · cases h
    · rename_i dot last rest hd
      have extension : (e.name.toList.reverse.takeWhile (· ≠ '.')).reverse = ['l', 'o', 'g'] := by simpa using h
      have dotted : dot = '.' := by
        have first := List.head?_dropWhile_not (· ≠ '.') e.name.toList.reverse
        rw [hd] at first
        simpa using first
      rw [hd, dotted] at cut
      refine ⟨(last :: rest).reverse, by simp, ?_⟩
      rw [← List.reverse_reverse e.name.toList, ← cut, List.reverse_append, extension]
      simp
  · rintro ⟨stem, ne, h⟩
    obtain ⟨last, rest, hs⟩ := List.exists_cons_of_ne_nil (List.reverse_ne_nil_iff.mpr ne)
    rw [h, List.reverse_append, hs]
    rfl

/-- What the age of a file is told by: when it was last written, and then its name. -/
def stamp (e : FileEntry) : ℤ ×ₗ String := toLex (e.modified, e.name)

theorem newerOrSame_eq_true : newerOrSame e f = true ↔ f.stamp ≤ e.stamp := by
  unfold newerOrSame stamp
  rw [Bool.or_eq_true, Bool.and_eq_true, decide_eq_true_iff, decide_eq_true_iff, decide_eq_true_iff,
    Prod.Lex.toLex_le_toLex, @eq_comm _ e.modified]

theorem newerOrSame_total (a b : FileEntry) : (newerOrSame a b || newerOrSame b a) = true := by
  rw [Bool.or_eq_true, newerOrSame_eq_true, newerOrSame_eq_true]
  exact le_total _ _

theorem newerOrSame_trans (a b c : FileEntry) (h : newerOrSame a b = true) (h' : newerOrSame b c = true) :
    newerOrSame a c = true := by
  rw [newerOrSame_eq_true] at *
  exact h'.trans h

/-- Files of one stamp have one name. --/
theorem name_of_stamp (h : e.stamp = f.stamp) : e.name = f.name := congrArg Prod.snd (toLex_inj.mp h)

end FileEntry

/-! ### One directory -/

namespace Directory

/-- A log file that can be removed and is not the newest of its directory. -/
def Superseded (d : Directory) (e : FileEntry) : Prop :=
  e.isLog = true ∧ e.removable = true ∧ ∃ f ∈ d, f.isLog = true ∧ e.stamp < f.stamp

instance (d : Directory) (e : FileEntry) : Decidable (Superseded d e) :=
  inferInstanceAs (Decidable (e.isLog = true ∧ e.removable = true ∧ ∃ f ∈ d, f.isLog = true ∧ e.stamp < f.stamp))

/-- The newest log file of a directory. -/
def Newest (d : Directory) (e : FileEntry) : Prop :=
  e ∈ d ∧ e.isLog = true ∧ ∀ f ∈ d, f.isLog = true → f.stamp ≤ e.stamp

theorem Newest.unique (h : Newest d e) (h' : Newest d f) : e.name = f.name :=
  FileEntry.name_of_stamp (le_antisymm (h'.2.2 e h.1 h.2.1) (h.2.2 f h'.1 h'.2.1))

theorem Newest.not_superseded (h : Newest d e) : ¬Superseded d e := fun ⟨_, _, f, hf, hl, older⟩ =>
  absurd (h.2.2 f hf hl) (not_le_of_gt older)

/-- A log file that stays though it could be removed is the newest. --/
theorem newest_of_kept (he : e ∈ d) (hl : e.isLog = true) (hr : e.removable = true) (h : ¬Superseded d e) :
    Newest d e := by
  refine ⟨he, hl, fun f hf hfl => ?_⟩
  by_contra newer
  exact h ⟨hl, hr, f, hf, hfl, not_le.mp newer⟩

theorem superseded_iff (he : e ∈ d) : Superseded d e ↔ e.isLog = true ∧ e.removable = true ∧ ¬Newest d e := by
  constructor
  · exact fun h => ⟨h.1, h.2.1, fun newest => newest.not_superseded h⟩
  · rintro ⟨hl, hr, older⟩
    by_contra kept
    exact older (newest_of_kept he hl hr kept)

theorem nodup_of_names (h : (d.map (·.name)).Nodup) : d.Nodup := List.Nodup.of_map _ h

/-- In the order from the newest to the oldest, the files behind the first are those that another outranks. --/
theorem mem_superseded (h : (d.map (·.name)).Nodup) :
    e ∈ superseded d ↔ e ∈ d ∧ e.isLog = true ∧ ∃ f ∈ d, f.isLog = true ∧ e.stamp < f.stamp := by
  unfold superseded
  have perm := List.mergeSort_perm (d.filter FileEntry.isLog) FileEntry.newerOrSame
  have sorted := List.pairwise_mergeSort FileEntry.newerOrSame_trans FileEntry.newerOrSame_total
    (d.filter FileEntry.isLog)
  have mem (x : FileEntry) : x ∈ (d.filter FileEntry.isLog).mergeSort FileEntry.newerOrSame ↔
      x ∈ d ∧ x.isLog = true := by
    rw [perm.mem_iff, List.mem_filter]
  have distinct : ((d.filter FileEntry.isLog).mergeSort FileEntry.newerOrSame).Nodup :=
    perm.nodup_iff.mpr ((nodup_of_names h).filter _)
  generalize (d.filter FileEntry.isLog).mergeSort FileEntry.newerOrSame = logs at *
  cases logs with
  | nil =>
    refine iff_of_false (by simp) ?_
    rintro ⟨he, hl, -⟩
    exact absurd ((mem e).mpr ⟨he, hl⟩) List.not_mem_nil
  | cons first rest =>
    obtain ⟨above, -⟩ := List.pairwise_cons.mp sorted
    obtain ⟨fresh, -⟩ := List.nodup_cons.mp distinct
    have hfirst := (mem first).mp List.mem_cons_self
    rw [List.drop_one, List.tail_cons]
    constructor
    · intro hr
      obtain ⟨he, hl⟩ := (mem e).mp (List.mem_cons_of_mem _ hr)
      refine ⟨he, hl, first, hfirst.1, hfirst.2, lt_of_le_of_ne (FileEntry.newerOrSame_eq_true.mp (above e hr)) ?_⟩
      intro same
      obtain rfl : e = first := List.inj_on_of_nodup_map h he hfirst.1 (FileEntry.name_of_stamp same)
      exact fresh hr
    · rintro ⟨he, hl, f, hf, hfl, older⟩
      rcases List.mem_cons.mp ((mem e).mpr ⟨he, hl⟩) with rfl | hr
      · -- Nothing outranks the first, not even itself.
        rcases List.mem_cons.mp ((mem f).mpr ⟨hf, hfl⟩) with rfl | hr
        · exact absurd older (lt_irrefl _)
        · exact absurd (FileEntry.newerOrSame_eq_true.mp (above f hr)) (not_le_of_gt older)
      · exact hr

/-- Removing goes on behind a file that cannot be removed: what can be removed of the list is gone and counted. --/
theorem removeAll_eq : ∀ (l : List FileEntry) {d : Directory}, d.Nodup →
    removeAll l d = ((l.filter FileEntry.removable).length, d.filter fun e => ¬(e.removable = true ∧ e ∈ l))
  | [], d, _ => by simp [removeAll]
  | e :: rest, d, h => by
    unfold removeAll
    by_cases hr : e.removable = true
    · rw [if_pos hr, removeAll_eq rest (h.erase e), h.erase_eq_filter, List.filter_filter,
        List.filter_cons_of_pos hr]
      refine Prod.ext rfl (List.filter_congr fun f _ => ?_)
      by_cases same : f = e
      · simp [same, hr]
      · simp [same]
    · rw [if_neg hr, removeAll_eq rest h, List.filter_cons_of_neg hr]
      refine Prod.ext rfl (List.filter_congr fun f _ => ?_)
      by_cases same : f = e
      · simp [same, hr]
      · simp [same]

/-- What rotation comes to: the log files that are superseded are removed and counted, and all else stays. --/
theorem rotate_eq (h : (d.map (·.name)).Nodup) :
    rotate d = ((d.filter fun e => Superseded d e).length, d.filter fun e => ¬Superseded d e) := by
  have distinct : (superseded d).Nodup := by
    unfold superseded
    exact ((List.mergeSort_perm _ _).nodup_iff.mpr ((nodup_of_names h).filter _)).sublist (List.drop_sublist _ _)
  have same (e : FileEntry) (he : e ∈ d) : e.removable = true ∧ e ∈ superseded d ↔ Superseded d e := by
    rw [mem_superseded h]
    exact ⟨fun ⟨hr, _, hl, older⟩ => ⟨hl, hr, older⟩, fun ⟨hl, hr, older⟩ => ⟨hr, he, hl, older⟩⟩
  have counted : ((superseded d).filter FileEntry.removable).Perm (d.filter fun e => Superseded d e) := by
    refine (List.perm_ext_iff_of_nodup (distinct.filter _) ((nodup_of_names h).filter _)).mpr fun e => ?_
    simp only [List.mem_filter, decide_eq_true_iff]
    constructor
    · rintro ⟨he, hr⟩
      have hm := ((mem_superseded h).mp he).1
      exact ⟨hm, (same e hm).mp ⟨hr, he⟩⟩
    · rintro ⟨hm, hs⟩
      obtain ⟨hr, he⟩ := (same e hm).mpr hs
      exact ⟨he, hr⟩
  unfold rotate
  rw [removeAll_eq _ (nodup_of_names h), counted.length_eq]
  congr 1
  refine List.filter_congr fun e he => ?_
  rw [decide_eq_decide, same e he]

theorem rotate_kept (h : (d.map (·.name)).Nodup) : (rotate d).2 = d.filter fun e => ¬Superseded d e := by
  rw [rotate_eq h]

/-- A second rotation removes nothing. --/
theorem rotate_rotate (h : (d.map (·.name)).Nodup) : rotate (rotate d).2 = (0, (rotate d).2) := by
  have kept := rotate_kept h
  have none : ∀ e ∈ (rotate d).2, ¬Superseded (rotate d).2 e := by
    rintro e he ⟨hl, hr, f, hf, hfl, older⟩
    rw [kept] at he hf
    exact of_decide_eq_true (List.mem_filter.mp he).2 ⟨hl, hr, f, (List.mem_filter.mp hf).1, hfl, older⟩
  have distinct : ((rotate d).2.map (·.name)).Nodup := by
    rw [kept]
    exact h.sublist (List.filter_sublist.map _)
  rw [rotate_eq distinct, List.filter_eq_nil_iff.mpr fun e he => by simpa using none e he,
    List.filter_eq_self.mpr fun e he => by simpa using none e he]
  rfl

end Directory
end DigitalTwin
