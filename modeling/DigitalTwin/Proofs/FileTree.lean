import DigitalTwin.FileTree
import DigitalTwin.Proofs.Table

/-! Trees of files that hang together: the names in a directory are different, and the table has a directory at
a place just if the directory above it lists one there.

A path that leads to a directory passes through directories only. So it leads there in every tree that has
all directories of the first one, whatever files have come or gone. -/

namespace DigitalTwin
namespace FileTree

variable {t t' : FileTree} {here next p : Place} {d kept : Directory} {e : FileEntry} {name : String}
  {names : List String} {now : Int}

/-- Whether the table has a directory at a place. -/
def IsDirectory (t : FileTree) (p : Place) : Prop := ∃ d, t.directories.get? p = some d

/-- A tree that hangs together. -/
structure WellFormed (t : FileTree) : Prop where
  /-- No two entries of a directory have one name. -/
  distinct : ∀ {p d}, t.directories.get? p = some d → (d.map (·.name)).Nodup
  /-- The entries that are directories are in the table. -/
  listed : ∀ {p d e}, t.directories.get? p = some d → e ∈ d → (e.content = .directory ↔ t.IsDirectory (p ++ [e.name]))
  /-- A directory in the table is listed in the one above. -/
  above : ∀ {p name}, t.IsDirectory (p ++ [name]) → ∃ d, t.directories.get? p = some d ∧ ∃ e ∈ d, e.name = name

theorem wellFormed_empty : WellFormed empty := by
  have root {p : Place} {d : Directory} (h : empty.directories.get? p = some d) : p = [] ∧ d = [] := by
    have hm : (p, d) ∈ [(([] : Place), ([] : Directory))] := (Table.mem_entries (by decide)).mpr h
    simpa using hm
  constructor
  · intro p d h
    obtain ⟨-, rfl⟩ := root h
    exact List.nodup_nil
  · intro p d e h he
    obtain ⟨-, rfl⟩ := root h
    exact absurd he List.not_mem_nil
  · rintro p name ⟨d, h⟩
    obtain ⟨nil, -⟩ := root h
    simp at nil

/-! ### Walking -/

theorem step_eq_ok : t.step here name = .ok next ↔ ∃ d, t.directories.get? here = some d ∧
    (if name.isEmpty ∨ name = "." then next = here
    else if name = ".." then next = here.dropLast
    else name.utf8ByteSize ≤ nameLimit ∧ next = here ++ [name] ∧ ∃ e ∈ d, e.name = name) := by
  unfold step
  cases t.directories.get? here with
  | none => simp
  | some d =>
    simp only [Option.some.injEq, exists_eq_left']
    by_cases stays : name.isEmpty ∨ name = "."
    · rw [if_pos stays, if_pos stays, Except.ok.injEq, eq_comm]
    · rw [if_neg stays, if_neg stays]
      by_cases back : name = ".."
      · rw [if_pos back, if_pos back, Except.ok.injEq, eq_comm]
      · rw [if_neg back, if_neg back]
        by_cases long : nameLimit < name.utf8ByteSize
        · rw [if_pos long]
          exact iff_of_false nofun fun ⟨short, _⟩ => Nat.not_lt.mpr short long
        · rw [if_neg long]
          by_cases found : ∃ e ∈ d, e.name = name
          · rw [if_pos (by simpa using found), Except.ok.injEq, eq_comm]
            exact ⟨fun h => ⟨Nat.le_of_not_lt long, h, found⟩, fun h => h.2.1⟩
          · rw [if_neg (by simpa using found)]
            exact iff_of_false nofun fun h => found h.2.2

/-- A name that is not found could be given to something new. --/
theorem step_eq_notFound (h : t.step here name = .error .notFound) : ∃ d, t.directories.get? here = some d ∧
    (∀ e ∈ d, e.name ≠ name) ∧ ¬(name.isEmpty ∨ name = ".") ∧ name ≠ ".." ∧ name.utf8ByteSize ≤ nameLimit := by
  unfold step at h
  cases hd : t.directories.get? here with
  | none =>
    rw [hd] at h
    cases h
  | some d =>
    rw [hd] at h
    dsimp only at h
    split_ifs at h with stays back long found
    · cases h
    have absent : ∀ e ∈ d, e.name ≠ name := by simpa using found
    exact ⟨d, rfl, absent, stays, back, Nat.le_of_not_lt long⟩

theorem walk_cons {place : Place} : t.walk here (name :: names) = .ok place ↔
    ∃ next, t.step here name = .ok next ∧ t.walk next names = .ok place := by
  unfold walk
  rw [List.foldlM_cons]
  cases t.step here name with
  | error e => simp [bind, Except.bind]
  | ok next => simp [bind, Except.bind]

theorem walk_append {before after : List String} {place : Place} : t.walk here (before ++ after) = .ok place ↔
    ∃ next, t.walk here before = .ok next ∧ t.walk next after = .ok place := by
  unfold walk
  rw [List.foldlM_append]
  cases before.foldlM t.step here with
  | error e => simp [bind, Except.bind]
  | ok next => simp [bind, Except.bind]

/-- A way to a directory starts at a directory. --/
theorem isDirectory_of_walk {place : Place} (h : t.walk here names = .ok place) (hp : t.IsDirectory place) :
    t.IsDirectory here := by
  cases names with
  | nil =>
    obtain rfl : here = place := by simpa [walk, pure, Except.pure] using h
    exact hp
  | cons name rest =>
    obtain ⟨next, hs, -⟩ := walk_cons.mp h
    obtain ⟨d, hd, -⟩ := step_eq_ok.mp hs
    exact ⟨d, hd⟩

/-- A step to a directory is a step there in every tree that has the directories of the first. --/
theorem step_mono (wf : t'.WellFormed) (more : ∀ p, t.IsDirectory p → t'.IsDirectory p)
    (hn : t'.IsDirectory next) (h : t.step here name = .ok next) : t'.step here name = .ok next := by
  obtain ⟨d, hd, leads⟩ := step_eq_ok.mp h
  obtain ⟨d', hd'⟩ := more here ⟨d, hd⟩
  refine step_eq_ok.mpr ⟨d', hd', ?_⟩
  split_ifs at leads ⊢
  · exact leads
  · exact leads
  · obtain ⟨short, rfl, -⟩ := leads
    obtain ⟨listed, hl, found⟩ := wf.above hn
    cases hd'.symm.trans hl
    exact ⟨short, rfl, found⟩

theorem walk_mono {place : Place} (wf : t'.WellFormed) (more : ∀ p, t.IsDirectory p → t'.IsDirectory p)
    (hp : t.IsDirectory place) (h : t.walk here names = .ok place) : t'.walk here names = .ok place := by
  induction names generalizing here with
  | nil => exact h
  | cons name rest ih =>
    obtain ⟨next, hs, hw⟩ := walk_cons.mp h
    have dir := more next (isDirectory_of_walk hw hp)
    exact walk_cons.mpr ⟨next, step_mono wf more dir hs, ih hw⟩

/-! ### Adding and taking entries -/

/-- An entry with a new name stands behind the others of its directory, and a new directory is empty. --/
theorem get?_add (wf : t.WellFormed) (hd : t.directories.get? here = some d) (free : ∀ e' ∈ d, e'.name ≠ e.name) :
    (t.add here e).directories.get? p =
      if p = here then some (d ++ [e])
      else if p = here ++ [e.name] ∧ e.content = .directory then some []
      else t.directories.get? p := by
  have others : d.filter (fun e' => decide (e'.name ≠ e.name)) = d :=
    List.filter_eq_self.mpr fun e' he' => decide_eq_true (free e' he')
  have vacant : t.directories.get? (here ++ [e.name]) = none := by
    rw [Option.eq_none_iff_forall_ne_some]
    intro inner hi
    obtain ⟨d', hd', e', he', hn⟩ := wf.above ⟨inner, hi⟩
    cases hd.symm.trans hd'
    exact free e' he' hn
  have apart : here ≠ here ++ [e.name] := by simp
  unfold add
  rw [hd, Option.getD_some, others]
  by_cases hc : e.content = .directory
  · simp only [hc, if_true, and_true]
    rw [Table.get?_insert, Table.get?_insert]
    by_cases hp : p = here ++ [e.name]
    · simp [hp]
    · simp [hp]
  · simp only [hc, if_false, and_false]
    rw [Table.get?_erase, Table.get?_insert]
    by_cases hp : p = here ++ [e.name]
    · simp [hp, vacant]
    · simp [hp]

theorem isDirectory_add (wf : t.WellFormed) (hd : t.directories.get? here = some d)
    (free : ∀ e' ∈ d, e'.name ≠ e.name) : (t.add here e).IsDirectory p ↔
      t.IsDirectory p ∨ p = here ++ [e.name] ∧ e.content = .directory := by
  unfold IsDirectory
  rw [get?_add wf hd free]
  split_ifs with h h'
  · subst h
    simp [hd]
  · simp [h']
  · simp [h']

/-- What is in a directory behind an addition was in it before, or was added. --/
theorem mem_add (wf : t.WellFormed) (hd : t.directories.get? here = some d) (free : ∀ e' ∈ d, e'.name ≠ e.name)
    {inner : Directory} {x : FileEntry} (hp : (t.add here e).directories.get? p = some inner) (hx : x ∈ inner) :
    (∃ old, t.directories.get? p = some old ∧ x ∈ old) ∨ p = here ∧ x = e := by
  rw [get?_add wf hd free] at hp
  split_ifs at hp with h h'
  · subst h
    cases hp
    rcases List.mem_append.mp hx with hx | hx
    · exact .inl ⟨d, hd, hx⟩
    · exact .inr ⟨rfl, List.mem_singleton.mp hx⟩
  · cases hp
    exact absurd hx List.not_mem_nil
  · exact .inl ⟨inner, hp, hx⟩

/-- What was in a directory is in it behind an addition. --/
theorem mem_add_of_mem (wf : t.WellFormed) (hd : t.directories.get? here = some d) (free : ∀ e' ∈ d, e'.name ≠ e.name)
    {old : Directory} {x : FileEntry} (hp : t.directories.get? p = some old) (hx : x ∈ old) :
    ∃ inner, (t.add here e).directories.get? p = some inner ∧ x ∈ inner := by
  rw [get?_add wf hd free]
  by_cases h : p = here
  · subst h
    cases hd.symm.trans hp
    exact ⟨_, if_pos rfl, List.mem_append_left _ hx⟩
  · refine ⟨old, ?_, hx⟩
    rw [if_neg h, if_neg, hp]
    -- The place of the new entry was no directory before, so nothing was in it.
    rintro ⟨rfl, -⟩
    obtain ⟨d', hd', e', he', hn⟩ := wf.above ⟨old, hp⟩
    cases hd.symm.trans hd'
    exact free e' he' hn

theorem wellFormed_add (wf : t.WellFormed) (hd : t.directories.get? here = some d)
    (free : ∀ e' ∈ d, e'.name ≠ e.name) : (t.add here e).WellFormed := by
  have added : (t.add here e).directories.get? here = some (d ++ [e]) := by rw [get?_add wf hd free, if_pos rfl]
  constructor
  · intro q c hq
    rw [get?_add wf hd free] at hq
    split_ifs at hq with h h'
    · cases hq
      rw [List.map_append, List.nodup_append]
      refine ⟨wf.distinct hd, by simp, ?_⟩
      intro a ha b hb hab
      obtain ⟨e', he', rfl⟩ := List.mem_map.mp ha
      obtain rfl : b = e.name := by simpa using hb
      exact free e' he' hab
    · cases hq
      exact List.nodup_nil
    · exact wf.distinct hq
  · intro q c x hq hx
    rw [isDirectory_add wf hd free]
    rcases mem_add wf hd free hq hx with ⟨c', hc', hx'⟩ | ⟨rfl, rfl⟩
    · rw [wf.listed hc' hx']
      constructor
      · exact .inl
      · rintro (h | ⟨same, -⟩)
        · exact h
        · obtain ⟨rfl, hn⟩ := List.append_inj' same rfl
          cases hd.symm.trans hc'
          exact absurd (List.singleton_inj.mp hn) (free x hx')
    · constructor
      · exact fun h => .inr ⟨rfl, h⟩
      · rintro (h | ⟨-, h⟩)
        · obtain ⟨c', hc', e', he', hn⟩ := wf.above h
          cases hd.symm.trans hc'
          exact absurd hn (free e' he')
        · exact h
  · intro q n hq
    rcases (isDirectory_add wf hd free).mp hq with h | ⟨same, -⟩
    · obtain ⟨c, hc, x, hx, hn⟩ := wf.above h
      obtain ⟨c', hc', hx'⟩ := mem_add_of_mem wf hd free hc hx
      exact ⟨c', hc', x, hx', hn⟩
    · obtain ⟨rfl, hn⟩ := List.append_inj' same rfl
      exact ⟨_, added, e, by simp, (List.singleton_inj.mp hn).symm⟩

/-- The name that was not found leads to the entry that is added under it. --/
theorem step_add (wf : t.WellFormed) (h : t.step here name = .error .notFound) {content : FileContent} :
    (t.add here ⟨name, now, content⟩).step here name = .ok (here ++ [name]) := by
  obtain ⟨d, hd, free, stays, back, short⟩ := step_eq_notFound h
  refine step_eq_ok.mpr ⟨d ++ [⟨name, now, content⟩], ?_, ?_⟩
  · rw [get?_add wf hd free, if_pos rfl]
  · rw [if_neg stays, if_neg back]
    exact ⟨short, rfl, _, List.mem_append_right _ (List.mem_singleton_self _), rfl⟩

/-- Other entries in a directory make it no other place. --/
theorem isDirectory_insert (hd : t.directories.get? here = some d) :
    IsDirectory ⟨t.directories.insert here kept⟩ p ↔ t.IsDirectory p := by
  unfold IsDirectory
  rw [Table.get?_insert]
  split_ifs with h
  · subst h
    simp [hd]
  · rfl

/-- A directory may lose files. --/
theorem wellFormed_insert (wf : t.WellFormed) (hd : t.directories.get? here = some d) (sub : kept.Sublist d)
    (dirs : ∀ e ∈ d, e.content = .directory → e ∈ kept) : WellFormed ⟨t.directories.insert here kept⟩ := by
  constructor
  · intro q c hq
    rw [Table.get?_insert] at hq
    split_ifs at hq with h
    · cases hq
      exact (wf.distinct hd).sublist (sub.map _)
    · exact wf.distinct hq
  · intro q c x hq hx
    rw [isDirectory_insert hd]
    rw [Table.get?_insert] at hq
    split_ifs at hq with h
    · subst h
      cases hq
      exact wf.listed hd (sub.subset hx)
    · exact wf.listed hq hx
  · intro q n hq
    obtain ⟨c, hc, x, hx, hn⟩ := wf.above ((isDirectory_insert hd).mp hq)
    rw [Table.get?_insert]
    split_ifs with h
    · subst h
      cases hd.symm.trans hc
      have dir : x.content = .directory := (wf.listed hd hx).mpr (hn ▸ (isDirectory_insert hd).mp hq)
      exact ⟨kept, rfl, x, dirs x hx dir, hn⟩
    · exact ⟨c, hc, x, hx, hn⟩

/-! ### Making directories and opening files -/

/-- Where everything is there, nothing is made. --/
theorem makeAll_of_walk {place : Place} (h : t.walk here names = .ok place) :
    makeAll now t here names = .ok (t, place) := by
  induction names generalizing here with
  | nil =>
    obtain rfl : here = place := by simpa [walk, pure, Except.pure] using h
    rfl
  | cons name rest ih =>
    obtain ⟨next, hs, hw⟩ := walk_cons.mp h
    rw [makeAll, hs]
    exact ih hw

/-- Made directories stay, and the way along the names leads to where it has been made. --/
theorem makeAll_ok : ∀ {names : List String} {t t' : FileTree} {here place : Place}, t.WellFormed →
    makeAll now t here names = .ok (t', place) →
    t'.WellFormed ∧ (∀ p, t.IsDirectory p → t'.IsDirectory p) ∧ (t'.IsDirectory place → t'.walk here names = .ok place)
  | [], t, t', here, place, wf, h => by
    obtain ⟨rfl, rfl⟩ : t = t' ∧ here = place := by simpa [makeAll] using h
    exact ⟨wf, fun _ hp => hp, fun _ => rfl⟩
  | name :: rest, t, t', here, place, wf, h => by
    unfold makeAll at h
    split at h
    · rename_i next hs
      obtain ⟨wf', more, walks⟩ := makeAll_ok wf h
      refine ⟨wf', more, fun hp => ?_⟩
      have hw := walks hp
      exact walk_cons.mpr ⟨next, step_mono wf' more (isDirectory_of_walk hw hp) hs, hw⟩
    · rename_i hs
      obtain ⟨d, hd, free, -⟩ := step_eq_notFound hs
      split_ifs at h
      obtain ⟨wf', more, walks⟩ := makeAll_ok (wellFormed_add wf hd free) h
      have more' : ∀ p, t.IsDirectory p → t'.IsDirectory p := fun p hp =>
        more p ((isDirectory_add wf hd free).mpr (.inl hp))
      refine ⟨wf', more', fun hp => ?_⟩
      have hw := walks hp
      exact walk_cons.mpr ⟨_, step_mono wf' more (isDirectory_of_walk hw hp) (step_add wf hs), hw⟩
    · cases h

theorem names_eq_concat (path : String) : FileTree.names path =
    (FileTree.names path).dropLast ++ [(FileTree.names path).getLast?.getD ""] := by
  have ne : FileTree.names path ≠ [] := by simp [FileTree.names, List.splitOn_ne_nil]
  rw [List.getLast?_eq_some_getLast ne, Option.getD_some, List.dropLast_append_getLast]

/-- What opening a file comes to: the path leads to it, no directory comes or goes, and all that is new is one
    file, at the end of its directory, if it was not there before. -/
structure Opened (t : FileTree) (now : Int) (path : String) (place : Place) (t' : FileTree) : Prop where
  wellFormed : t'.WellFormed
  directories : ∀ p, t'.IsDirectory p ↔ t.IsDirectory p
  found : t'.find [] path = .ok place
  entries : ∀ {p d}, t.directories.get? p = some d → t'.directories.get? p = some d ∨
    ∃ name, place = p ++ [name] ∧ t'.directories.get? p = some (d ++ [⟨name, now, .file []⟩])

/-- A file is opened where its directory has the last name of the path, or else it is made there. --/
theorem openFile_cases {path : String} {place : Place} (h : t.openFile now [] path = .ok (t', place)) :
    ∃ parent name, checkPath path = .ok () ∧ FileTree.names path = (FileTree.names path).dropLast ++ [name] ∧
      t.walk (origin [] path) (FileTree.names path).dropLast = .ok parent ∧
      (t.step parent name = .ok place ∧ t' = t ∨
        t.step parent name = .error .notFound ∧ place = parent ++ [name] ∧
          t' = t.add parent ⟨name, now, .file []⟩) := by
  unfold openFile at h
  cases hc : checkPath path with
  | error e =>
    rw [hc] at h
    cases h
  | ok =>
    cases hw : t.walk (origin [] path) (FileTree.names path).dropLast with
    | error e =>
      rw [hc] at h
      simp only [bind, Except.bind, hw] at h
      cases h
    | ok parent =>
      rw [hc] at h
      simp only [bind, Except.bind, hw] at h
      refine ⟨parent, _, rfl, names_eq_concat path, rfl, ?_⟩
      split at h
      · rename_i place' hs
        split_ifs at h
        cases h
        exact .inl ⟨hs, rfl⟩
      · rename_i hs
        cases h
        exact .inr ⟨hs, rfl, rfl⟩
      · cases h

theorem openFile_ok {path : String} {place : Place} (wf : t.WellFormed)
    (h : t.openFile now [] path = .ok (t', place)) : Opened t now path place t' := by
  obtain ⟨parent, name, hc, hnames, hw, last⟩ := openFile_cases h
  have leads {u : FileTree} (hu : u.walk (origin [] path) (FileTree.names path).dropLast = .ok parent)
      (hs : u.step parent name = .ok place) : u.find [] path = .ok place := by
    have walked : u.walk (origin [] path) (FileTree.names path) = .ok place := by
      rw [hnames, walk_append]
      exact ⟨parent, hu, walk_cons.mpr ⟨place, hs, rfl⟩⟩
    unfold find
    rw [hc]
    exact walked
  rcases last with ⟨hs, rfl⟩ | ⟨hs, rfl, rfl⟩
  · exact ⟨wf, fun _ => Iff.rfl, leads hw hs, fun hp => .inl hp⟩
  · obtain ⟨d, hd, free, -⟩ := step_eq_notFound hs
    have free' : ∀ e' ∈ d, e'.name ≠ (FileEntry.mk name now (.file [])).name := free
    have wf' := wellFormed_add wf hd free'
    have dirs (p : Place) : (t.add parent ⟨name, now, .file []⟩).IsDirectory p ↔ t.IsDirectory p := by
      rw [isDirectory_add wf hd free']
      simp
    have walked := walk_mono wf' (fun p hp => (dirs p).mpr hp) ⟨d, hd⟩ hw
    refine ⟨wf', dirs, leads walked (step_add wf hs), fun {p c} hp => ?_⟩
    by_cases same : p = parent
    · subst same
      cases hd.symm.trans hp
      refine .inr ⟨name, rfl, ?_⟩
      rw [get?_add wf hd free', if_pos rfl]
    · rw [get?_add wf hd free', if_neg same, if_neg (by simp)]
      exact .inl hp

/-- A directory keeps its entries, and no other comes in than the file that was opened. --/
theorem Opened.exists_entries {path : String} {place : Place} (h : Opened t now path place t')
    (hp : t.directories.get? p = some d) : ∃ inner, t'.directories.get? p = some inner ∧
      ∀ e, (e ∈ d → e ∈ inner) ∧ (e ∈ inner → e ∈ d ∨ p ++ [e.name] = place) := by
  rcases h.entries hp with same | ⟨name, here, more⟩
  · exact ⟨d, same, fun e => ⟨id, .inl⟩⟩
  · refine ⟨_, more, fun e => ⟨List.mem_append_left _, fun he => ?_⟩⟩
    rcases List.mem_append.mp he with he | he
    · exact .inl he
    · obtain rfl := List.mem_singleton.mp he
      exact .inr here.symm

end FileTree
end DigitalTwin
