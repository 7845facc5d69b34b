import DigitalTwin.Proofs.LogRotation
import Mathlib.Data.List.Perm.Subperm

/-! The log files behind a row of starts.

The old files are removed before the new one is opened, so a directory has one log file more than rotation
leaves. The next start takes the older of the two away. What holds on from start to start is that the path of
the log directory leads to it and that its log files can be removed; files that are written to in between
change their age and nothing else. -/

namespace DigitalTwin.Log

open FileTree Directory

variable {t t' : FileTree} {directory : String} {place : Place} {d : Directory} {now : Int}

/-- Files have been written to: the directories have the same names, for files and for directories. -/
def Rewritten (t t' : FileTree) : Prop :=
  ∀ p, (t'.directories.get? p).map (·.map fun e => (e.name, e.removable)) =
    (t.directories.get? p).map (·.map fun e => (e.name, e.removable))

namespace Rewritten

theorem symm (h : Rewritten t t') : Rewritten t' t := fun p => (h p).symm

theorem entries (h : Rewritten t t') {p : Place} (hd : t'.directories.get? p = some d) :
    ∃ d₀, t.directories.get? p = some d₀ ∧
      d.map (fun e => (e.name, e.removable)) = d₀.map fun e => (e.name, e.removable) := by
  have same := h p
  rw [hd] at same
  obtain ⟨d₀, hd₀, hm⟩ := Option.map_eq_some_iff.mp same.symm
  exact ⟨d₀, hd₀, hm.symm⟩

theorem entry (h : Rewritten t t') {p : Place} {e : FileEntry} (hd : t'.directories.get? p = some d) (he : e ∈ d) :
    ∃ d₀, t.directories.get? p = some d₀ ∧ ∃ e₀ ∈ d₀, e₀.name = e.name ∧ e₀.removable = e.removable := by
  obtain ⟨d₀, hd₀, same⟩ := h.entries hd
  have hm : (e.name, e.removable) ∈ d.map fun e => (e.name, e.removable) := List.mem_map_of_mem he
  rw [same] at hm
  obtain ⟨e₀, he₀, hs⟩ := List.mem_map.mp hm
  exact ⟨d₀, hd₀, e₀, he₀, congrArg Prod.fst hs, congrArg Prod.snd hs⟩

theorem isDirectory (h : Rewritten t t') {p : Place} : t'.IsDirectory p ↔ t.IsDirectory p := by
  constructor
  · rintro ⟨d, hd⟩
    obtain ⟨d₀, hd₀, -⟩ := h.entries hd
    exact ⟨d₀, hd₀⟩
  · rintro ⟨d, hd⟩
    obtain ⟨d', hd', -⟩ := h.symm.entries hd
    exact ⟨d', hd'⟩

theorem wellFormed (h : Rewritten t t') (wf : t.WellFormed) : t'.WellFormed where
  distinct {p d} hd := by
    obtain ⟨d₀, hd₀, same⟩ := h.entries hd
    have names := congrArg (List.map Prod.fst) same
    rw [List.map_map, List.map_map] at names
    have distinct := wf.distinct hd₀
    rwa [show d₀.map (·.name) = d.map (·.name) from names.symm] at distinct
  listed {p d e} hd he := by
    obtain ⟨d₀, hd₀, e₀, he₀, hn, hr⟩ := h.entry hd he
    have kind : e.content = .directory ↔ e₀.content = .directory := by
      simpa [FileEntry.removable] using congrArg (· = false) hr.symm
    rw [kind, h.isDirectory, ← hn]
    exact wf.listed hd₀ he₀
  above {p name} hp := by
    obtain ⟨d, hd, e, he, hn⟩ := wf.above (h.isDirectory.mp hp)
    obtain ⟨d', hd', e', he', hn', -⟩ := h.symm.entry hd he
    exact ⟨d', hd', e', he', hn'.trans hn⟩

end Rewritten

/-- The path of the log directory leads to it, and the log files in it can be removed. -/
structure Ready (t : FileTree) (directory : String) (place : Place) : Prop where
  wellFormed : t.WellFormed
  path : checkPath directory = .ok ()
  leads : t.walk (origin [] directory) (names directory) = .ok place
  exists_entries : t.IsDirectory place
  deletable : ∀ {d e}, t.directories.get? place = some d → e ∈ d → e.isLog = true → e.removable = true

namespace Ready

/-- A tree in which the directory has been made, if there was none. --/
theorem of_makeDirectories (wf : t.WellFormed) (h : t.makeDirectories now [] directory = .ok (t', place))
    (hd : t'.directories.get? place = some d) (deletable : ∀ e ∈ d, e.isLog = true → e.removable = true) :
    Ready t' directory place := by
  unfold makeDirectories at h
  cases hc : checkPath directory with
  | error e =>
    rw [hc] at h
    cases h
  | ok =>
    rw [hc] at h
    obtain ⟨wf', -, walks⟩ := makeAll_ok wf h
    refine ⟨wf', hc, walks ⟨d, hd⟩, ⟨d, hd⟩, fun hd' he hl => ?_⟩
    cases hd.symm.trans hd'
    exact deletable _ he hl

theorem makeDirectories (h : Ready t directory place) (now : Int) :
    t.makeDirectories now [] directory = .ok (t, place) := by
  unfold FileTree.makeDirectories
  rw [h.path]
  exact makeAll_of_walk h.leads

/-- A change that leaves all directories, and only such log files in this one as can be removed. --/
theorem of_directories (h : Ready t directory place) (wf : t'.WellFormed)
    (dirs : ∀ p, t'.IsDirectory p ↔ t.IsDirectory p)
    (deletable : ∀ {d e}, t'.directories.get? place = some d → e ∈ d → e.isLog = true → e.removable = true) :
    Ready t' directory place :=
  ⟨wf, h.path, walk_mono wf (fun p => (dirs p).mpr) h.exists_entries h.leads, (dirs place).mpr h.exists_entries,
    deletable⟩

theorem rotated (h : Ready t directory place) (hd : t.directories.get? place = some d) :
    Ready ⟨t.directories.insert place (rotate d).2⟩ directory place := by
  have kept := rotate_kept (h.wellFormed.distinct hd)
  have sub : (rotate d).2.Sublist d := by
    rw [kept]
    exact List.filter_sublist
  have dirs : ∀ e ∈ d, e.content = .directory → e ∈ (rotate d).2 := by
    intro e he dir
    rw [kept]
    refine List.mem_filter.mpr ⟨he, decide_eq_true fun ⟨_, hr, _⟩ => ?_⟩
    simp [FileEntry.removable, dir] at hr
  refine h.of_directories (wellFormed_insert h.wellFormed hd sub dirs) (fun p => isDirectory_insert hd)
    fun hd' he hl => ?_
  rw [Table.get?_insert, if_pos rfl] at hd'
  cases hd'
  exact h.deletable hd (sub.subset he) hl

theorem opened (h : Ready t directory place) {path : String} {q : Place} (ho : Opened t now path q t') :
    Ready t' directory place := by
  refine h.of_directories ho.wellFormed ho.directories fun hd' he hl => ?_
  obtain ⟨d, hd⟩ := h.exists_entries
  rcases ho.entries hd with same | ⟨name, -, more⟩
  · cases hd'.symm.trans same
    exact h.deletable hd he hl
  · cases hd'.symm.trans more
    rcases List.mem_append.mp he with he | he
    · exact h.deletable hd he hl
    · obtain rfl := List.mem_singleton.mp he
      rfl

theorem rewritten (h : Ready t directory place) (hw : Rewritten t t') : Ready t' directory place := by
  refine h.of_directories (hw.wellFormed h.wellFormed) (fun p => hw.isDirectory) fun hd' he hl => ?_
  obtain ⟨d, hd, e, he', hn, hr⟩ := hw.entry hd' he
  rw [← hr]
  refine h.deletable hd he' ?_
  unfold FileEntry.isLog at hl ⊢
  rw [hn]
  exact hl

end Ready

/-! ### Starts -/

/-- What may happen to the files between the first of some starts in a log directory and the last: a session
    starts, a start removes the old files and cannot open a new one, or files are written to. -/
inductive Past (directory : String) (t : FileTree) : FileTree → Prop
  | none : Past directory t t
  | started {t₁ t₂ : FileTree} {app level : String} {now : Instant} {s : Session} (before : Past directory t t₁)
      (start : Session.start t₁ directory app level now = .ok (s, t₂)) : Past directory t t₂
  | unopened {t₁ made t₂ : FileTree} {place : Place} {now : Instant} {removed : Nat} (before : Past directory t t₁)
      (make : t₁.makeDirectories now.seconds [] directory = .ok (made, place))
      (rotation : made.rotateLogs place = .ok (removed, t₂)) : Past directory t t₂
  | written {t₁ t₂ : FileTree} (before : Past directory t t₁) (change : Rewritten t₁ t₂) : Past directory t t₂

/-- The steps of a start. --/
theorem start_eq_ok {app level : String} {now : Instant} {s : Session} {after : FileTree}
    (h : Session.start t directory app level now = .ok (s, after)) :
    ∃ made removed kept opened, t.makeDirectories now.seconds [] directory = .ok (made, s.directory) ∧
      made.rotateLogs s.directory = .ok (removed, kept) ∧
      kept.openFile now.seconds [] s.path = .ok (after, opened) := by
  unfold Session.start at h
  simp only [bind, Except.bind] at h
  split at h
  · cases h
  · rename_i made hm
    split at h
    · cases h
    · rename_i kept hk
      split at h
      · cases h
      · rename_i opened ho
        cases h
        exact ⟨made.1, kept.1, kept.2, opened.2, hm, hk, ho⟩

theorem rotateLogs_eq_ok {removed : Nat} (h : t.rotateLogs place = .ok (removed, t')) :
    ∃ d, t.directories.get? place = some d ∧ removed = (rotate d).1 ∧
      t' = ⟨t.directories.insert place (rotate d).2⟩ := by
  unfold rotateLogs at h
  split at h
  · cases h
  · rename_i d hd
    cases h
    exact ⟨d, hd, rfl, rfl⟩

/-- A session starts once its file can be opened in what rotation leaves. --/
theorem Session.start_of_openFile {made after : FileTree} {app level : String} {now : Instant} (opened : Place)
    (make : t.makeDirectories now.seconds [] directory = .ok (made, place)) (hd : made.directories.get? place = some d)
    (opens : openFile ⟨made.directories.insert place (rotate d).2⟩ now.seconds [] (join directory (fileName app now)) =
      .ok (after, opened)) :
    Session.start t directory app level now =
      .ok (⟨join directory (fileName app now), place, .ofName level⟩, after) := by
  have rotation : made.rotateLogs place =
      .ok ((rotate d).1, (⟨made.directories.insert place (rotate d).2⟩ : FileTree)) := by
    unfold rotateLogs
    rw [hd]
  unfold Session.start
  simp only [bind, Except.bind, make, rotation, opens]
  rfl

theorem Ready.past (h : Ready t directory place) (hp : Past directory t t') : Ready t' directory place := by
  induction hp with
  | none => exact h
  | started before start ih =>
    obtain ⟨made, removed, kept, opened, hm, hk, ho⟩ := start_eq_ok start
    cases (ih.makeDirectories _).symm.trans hm
    obtain ⟨d, hd, -, rfl⟩ := rotateLogs_eq_ok hk
    have rotated := ih.rotated hd
    exact rotated.opened (openFile_ok rotated.wellFormed ho)
  | unopened before make rotation ih =>
    cases (ih.makeDirectories _).symm.trans make
    obtain ⟨d, hd, -, rfl⟩ := rotateLogs_eq_ok rotation
    exact ih.rotated hd
  | written before change ih => exact ih.rewritten change

/-- What a start leaves in a log directory: the newest log file that there was and the one that it opened, if
    that is in the directory, and of the other log files none. -/
structure Left (before left : Directory) (place opened : Place) : Prop where
  logs : ∀ e ∈ left, e.isLog = true → place ++ [e.name] = opened ∨ Newest before e
  newest : ∀ e, Newest before e → e ∈ left
  others : ∀ e ∈ before, e.isLog = false → e ∈ left
  two : (left.filter FileEntry.isLog).length ≤ 2

/-- Log files of different names are two at most if each of them has one name or is the newest. --/
theorem length_logs_le_two {before left : Directory} {opened : Place} (distinct : (left.map (·.name)).Nodup)
    (logs : ∀ e ∈ left, e.isLog = true → place ++ [e.name] = opened ∨ Newest before e) :
    (left.filter FileEntry.isLog).length ≤ 2 := by
  have newest : ∃ name, ∀ e, Newest before e → e.name = name := by
    by_cases h : ∃ e, Newest before e
    · obtain ⟨e, he⟩ := h
      exact ⟨e.name, fun f hf => hf.unique he⟩
    · exact ⟨"", fun e he => absurd ⟨e, he⟩ h⟩
  obtain ⟨name, hn⟩ := newest
  have among : (left.filter FileEntry.isLog).map (·.name) ⊆ [opened.getLast?.getD "", name] := by
    intro n hm
    obtain ⟨e, he, rfl⟩ := List.mem_map.mp hm
    obtain ⟨he, hl⟩ := List.mem_filter.mp he
    rcases logs e he hl with rfl | newest
    · simp
    · simp [hn e newest]
  have distinct' : ((left.filter FileEntry.isLog).map (·.name)).Nodup := distinct.sublist (List.filter_sublist.map _)
  have short := (List.subperm_of_subset distinct' among).length_le
  rwa [List.length_map] at short

theorem Ready.start (h : Ready t directory place) {app level : String} {now : Instant} {s : Session}
    {after : FileTree} (hs : Session.start t directory app level now = .ok (s, after)) :
    ∃ before left opened, t.directories.get? place = some before ∧ after.directories.get? place = some left ∧
      s.directory = place ∧ after.find [] s.path = .ok opened ∧ Left before left place opened := by
  obtain ⟨made, removed, kept, opened, hm, hk, ho⟩ := start_eq_ok hs
  have made' := (h.makeDirectories _).symm.trans hm
  obtain ⟨rfl, hp⟩ : t = made ∧ place = s.directory := by simpa using made'
  subst hp
  obtain ⟨d, hd, -, rfl⟩ := rotateLogs_eq_ok hk
  have rotated := h.rotated hd
  have opens := openFile_ok rotated.wellFormed ho
  have stays := rotate_kept (h.wellFormed.distinct hd)
  have inside : (⟨t.directories.insert s.directory (rotate d).2⟩ : FileTree).directories.get? s.directory =
      some (rotate d).2 := by rw [Table.get?_insert, if_pos rfl]
  -- What rotation leaves stays, and what is more has the name of the file that has been opened.
  obtain ⟨left, hleft, more⟩ := opens.exists_entries inside
  have logs : ∀ e ∈ left, e.isLog = true → s.directory ++ [e.name] = opened ∨ Newest d e := by
    intro e he hl
    rcases (more e).2 he with he | named
    · rw [stays] at he
      obtain ⟨he, kept⟩ := List.mem_filter.mp he
      exact .inr (newest_of_kept he hl (h.deletable hd he hl) (of_decide_eq_true kept))
    · exact .inl named
  refine ⟨d, left, opened, hd, hleft, rfl, opens.found, logs, fun e he => (more e).1 ?_, fun e he hl => (more e).1 ?_,
    length_logs_le_two (opens.wellFormed.distinct hleft) logs⟩
  · rw [stays]
    exact List.mem_filter.mpr ⟨he.1, decide_eq_true he.not_superseded⟩
  · rw [stays]
    refine List.mem_filter.mpr ⟨he, decide_eq_true fun superseded => ?_⟩
    rw [superseded.1] at hl
    cases hl

/-- Rotation removes just those log files that can be removed and are older than another, as told by the time
    of the last change and then by the name. It counts them, stops at none that cannot be removed, and leaves
    nothing to remove for the next time. So take any tree of files in which a log directory has been made, and
    any past of it, with sessions that started there and files that were written to. If the log files that were
    there at first could be removed, then behind a further start there are two log files at most: the one that
    was opened, to which the path of the session leads, and the newest of those before. --/
theorem rotation_keeps_newest :
    (∀ d : Directory, (d.map (·.name)).Nodup →
      (∀ e ∈ d, e.isLog = true ↔ ∃ stem ≠ [], e.name.toList = stem ++ ['.', 'l', 'o', 'g']) ∧
      (∀ e ∈ d, e ∈ (rotate d).2 ↔ ¬(e.isLog = true ∧ e.removable = true ∧ ¬Newest d e)) ∧
      (rotate d).2.Sublist d ∧ (rotate d).1 + (rotate d).2.length = d.length ∧
      rotate (rotate d).2 = (0, (rotate d).2)) ∧
    ∀ {t made : FileTree} {directory : String} {now : Instant} {place : Place} {d : Directory}, t.WellFormed →
      t.makeDirectories now.seconds [] directory = .ok (made, place) → made.directories.get? place = some d →
      (∀ e ∈ d, e.isLog = true → e.removable = true) →
      (∀ app level, Session.start t directory app level now = Session.start made directory app level now) ∧
      ∀ t', Past directory made t' → ∀ app level now' s after,
        Session.start t' directory app level now' = .ok (s, after) →
        ∃ before left opened, t'.directories.get? place = some before ∧ after.directories.get? place = some left ∧
          s.directory = place ∧ after.find [] s.path = .ok opened ∧ Left before left place opened := by
  refine ⟨fun d distinct => ⟨fun e _ => FileEntry.isLog_eq_true, fun e he => ?_, ?_, ?_, rotate_rotate distinct⟩,
    fun {t made directory now place d} wf make hd deletable => ?_⟩
  · rw [rotate_eq distinct, List.mem_filter, decide_eq_true_iff, superseded_iff he]
    exact and_iff_right he
  · rw [rotate_eq distinct]
    exact List.filter_sublist
  · rw [rotate_eq distinct]
    simp only [decide_not]
    exact (List.length_eq_length_filter_add _).symm
  · have ready := Ready.of_makeDirectories wf make hd deletable
    refine ⟨fun app level => ?_, fun t' past app level now' s after start => (ready.past past).start start⟩
    unfold Session.start
    rw [make, ready.makeDirectories]

deriving instance DecidableEq for FileTree

/-- Two sessions. An old file is written to while the first of them goes on, so it outlives the file of that. --/
theorem rotation_keeps_newest_two_sessions :
    let file (name : String) (modified : Int) : FileEntry := ⟨name, modified, .file []⟩
    let tree (entries : Directory) : FileTree := ⟨⟨[([], [⟨"logs", 0, .directory⟩]), (["logs"], entries)]⟩⟩
    let old := [file "a.log" 5, file "b.log" 5, file "keep.txt" 9]
    let before := [file "b.log" 15, file "keep.txt" 9, file "p_1970-01-01_00-00-10.log" 10]
    let left := [file "b.log" 15, file "keep.txt" 9, file "q_1970-01-01_00-00-20.log" 20]
    (rotate old).1 = 1 ∧
      (∃ s, Session.start (tree old) "logs" "p" "info" ⟨10, 0⟩ =
        .ok (s, tree [file "b.log" 5, file "keep.txt" 9, file "p_1970-01-01_00-00-10.log" 10])) ∧
      (∃ s, Session.start (tree before) "logs" "q" "info" ⟨20, 0⟩ = .ok (s, tree left)) ∧
      Left before left ["logs"] ["logs", "q_1970-01-01_00-00-20.log"] := by
  intro file tree old before left
  have wf : (tree old).WellFormed := by
    have more {t : FileTree} (wf : t.WellFormed) (p : Place) (d : Directory) (e : FileEntry)
        (hd : t.directories.get? p = some d) (free : ∀ e' ∈ d, e'.name ≠ e.name) : (t.add p e).WellFormed :=
      wellFormed_add wf hd free
    have root := more wellFormed_empty [] [] ⟨"logs", 0, .directory⟩ rfl (by decide)
    have a := more root ["logs"] [] (file "a.log" 5) rfl (by decide)
    have b := more a ["logs"] [file "a.log" 5] (file "b.log" 5) rfl (by decide)
    exact more b ["logs"] [file "a.log" 5, file "b.log" 5] (file "keep.txt" 9) rfl (by decide)
  have make : (tree old).makeDirectories 10 [] "logs" = .ok (tree old, ["logs"]) := by decide +kernel
  have rotated : rotate old = (1, [file "b.log" 5, file "keep.txt" 9]) := by
    rw [rotate_eq (by decide)]
    decide +kernel
  have rotated' : rotate before = (1, [file "b.log" 15, file "keep.txt" 9]) := by
    rw [rotate_eq (by decide +kernel)]
    decide +kernel
  have first : Session.start (tree old) "logs" "p" "info" ⟨10, 0⟩ =
      .ok (⟨join "logs" (fileName "p" ⟨10, 0⟩), ["logs"], .ofName "info"⟩,
        tree [file "b.log" 5, file "keep.txt" 9, file "p_1970-01-01_00-00-10.log" 10]) := by
    refine Session.start_of_openFile ["logs", "p_1970-01-01_00-00-10.log"] make rfl ?_
    rw [rotated]
    decide +kernel
  have made : (tree before).makeDirectories 20 [] "logs" = .ok (tree before, ["logs"]) := by decide +kernel
  have second : Session.start (tree before) "logs" "q" "info" ⟨20, 0⟩ =
      .ok (⟨join "logs" (fileName "q" ⟨20, 0⟩), ["logs"], .ofName "info"⟩, tree left) := by
    refine Session.start_of_openFile ["logs", "q_1970-01-01_00-00-20.log"] made rfl ?_
    rw [rotated']
    decide +kernel
  have written : Rewritten (tree [file "b.log" 5, file "keep.txt" 9, file "p_1970-01-01_00-00-10.log" 10])
      (tree before) := by
    intro p
    by_cases root : p = []
    · simp [root, tree, Table.get?]
    · by_cases logs : p = ["logs"]
      · simp [logs, tree, before, file, Table.get?, FileEntry.removable]
      · simp [tree, Table.get?, Ne.symm root, Ne.symm logs]
  have past := (Past.none.started first).written written
  have deletable : ∀ e ∈ old, e.isLog = true → e.removable = true := by decide +kernel
  have make' : (tree old).makeDirectories (Instant.mk 10 0).seconds [] "logs" = .ok (tree old, ["logs"]) := make
  obtain ⟨-, runs⟩ := rotation_keeps_newest.2 wf make' rfl deletable
  obtain ⟨before', left', opened, hb, hl, -, found, holds⟩ := runs _ past "q" "info" ⟨20, 0⟩ _ _ second
  cases hb
  cases hl
  have place : (tree left).find [] (join "logs" (fileName "q" ⟨20, 0⟩)) =
      .ok ["logs", "q_1970-01-01_00-00-20.log"] := by
    decide +kernel
  cases found.symm.trans place
  exact ⟨by rw [rotated], ⟨_, first⟩, ⟨_, second⟩, holds⟩

end DigitalTwin.Log
