import DigitalTwin.Proofs.Table
import DigitalTwin.Startup.Tokens
import Mathlib.Data.List.DropRight
import Mathlib.Data.List.TakeWhile

/-! What a list of access tokens says.

A segment between two commas is blank, or it is refused, or it gives an identity to a token. Which of the
three it is, is said of the segment as it is written, with the white space in it; that a pair is trimmed
before it is cut makes no difference, since `=` is no white space. A list that is written out of a table,
with white space and blank segments put in anywhere, gives the table back. -/

namespace DigitalTwin
namespace Text

variable {s before after : List Char} {c : Char}

/-- Text that is nothing but white space. -/
def Blank (s : List Char) : Prop := ∀ c ∈ s, isBlank c = true

/-- Text with no white space around it. -/
def Trimmed (s : List Char) : Prop := (∀ c ∈ s.head?, isBlank c = false) ∧ ∀ c ∈ s.getLast?, isBlank c = false

instance : Decidable (Blank s) := decidable_of_iff (s.all isBlank = true) List.all_eq_true

instance : Decidable (Trimmed s) :=
  decidable_of_iff (s.head?.all (!isBlank ·) = true ∧ s.getLast?.all (!isBlank ·) = true) (by
    simp [Trimmed, Option.all_eq_true])

theorem trimStart_eq_nil : trimStart s = [] ↔ Blank s := List.dropWhile_eq_nil_iff

theorem trimEnd_eq_nil : trimEnd s = [] ↔ Blank s := List.rdropWhile_eq_nil_iff

theorem trimStart_append (h : Blank before) : trimStart (before ++ s) = trimStart s :=
  List.dropWhile_append_of_pos h

theorem trimEnd_append (h : Blank after) : trimEnd (s ++ after) = trimEnd s := by
  unfold trimEnd
  rw [List.reverse_append, List.dropWhile_append_of_pos fun c hc => h c (List.mem_reverse.mp hc)]

/-- What is trimmed at the start ends with a character that is not white space, so nothing behind it is lost. --/
theorem trimStart_append_cons (h : isBlank c = false) :
    trimStart (before ++ c :: after) = trimStart before ++ c :: after := by
  unfold trimStart
  rw [List.dropWhile_append, List.dropWhile_cons_of_neg (by simp [h])]
  split
  · rename_i nil
    rw [List.isEmpty_iff.mp nil, List.nil_append]
  · rfl

theorem trimEnd_append_cons (h : isBlank c = false) :
    trimEnd (before ++ c :: after) = before ++ c :: trimEnd after := by
  have mirrored : trimStart (after.reverse ++ c :: before.reverse) = trimStart after.reverse ++ c :: before.reverse :=
    trimStart_append_cons h
  unfold trimStart at mirrored
  unfold trimEnd
  simp [mirrored]

theorem trim_append_cons (h : isBlank c = false) :
    trim (before ++ c :: after) = trimStart before ++ c :: trimEnd after := by
  unfold trim
  rw [trimStart_append_cons h, trimEnd_append_cons h]

theorem blank_trimStart : Blank (trimStart s) ↔ Blank s := by
  rw [← trimStart_eq_nil, ← trimStart_eq_nil, trimStart, trimStart, List.dropWhile_idempotent]

@[simp] theorem trim_eq_nil : trim s = [] ↔ Blank s := by
  unfold trim
  rw [trimEnd_eq_nil, blank_trimStart]

/-- White space around a text does not count when it is trimmed. --/
theorem trim_surrounded (hb : Blank before) (ha : Blank after) : trim (before ++ s ++ after) = trim s := by
  unfold trim
  rw [List.append_assoc, trimStart_append hb]
  by_cases hs : Blank s
  · rw [trimStart_append hs, trimStart_eq_nil.mpr ha, trimStart_eq_nil.mpr hs]
  · have kept : trimStart (s ++ after) = trimStart s ++ after := by
      unfold trimStart
      rw [List.dropWhile_append, if_neg]
      rw [List.isEmpty_iff]
      exact mt trimStart_eq_nil.mp hs
    rw [kept, trimEnd_append ha]

theorem trim_of_trimmed (h : Trimmed s) : trim s = s := by
  unfold trim trimStart
  have start : s.dropWhile isBlank = s := by
    cases s with
    | nil => rfl
    | cons c rest => exact List.dropWhile_cons_of_neg (by simp [h.1 c rfl])
  rw [start]
  exact List.rdropWhile_eq_self_iff.mpr fun hs => by
    simp [h.2 _ (List.getLast?_eq_some_getLast hs)]

theorem trim_trimStart : trim (trimStart s) = trim s := by
  unfold trim trimStart
  rw [List.dropWhile_idempotent]

theorem trim_trimEnd : trim (trimEnd s) = trim s := by
  have whole : trimEnd s ++ s.rtakeWhile isBlank = s := List.rdropWhile_append_rtakeWhile
  have blank : Blank (s.rtakeWhile isBlank) := fun c hc => List.mem_rtakeWhile_imp hc
  have surrounded : trim ([] ++ trimEnd s ++ s.rtakeWhile isBlank) = trim (trimEnd s) :=
    trim_surrounded (fun c hc => absurd hc List.not_mem_nil) blank
  rw [List.nil_append, whole] at surrounded
  exact surrounded.symm

end Text

namespace IdentityTable

variable {segment before after pair : List Char} {rest : List (List Char)} {t m : IdentityTable}
  {token identity : String} {e e' : TokenError}

/-! ### What a segment says -/

/-- A segment gives an identity to a token: they stand before and behind its first `=`, and neither is blank. -/
def Assigns (segment : List Char) (token identity : String) : Prop :=
  ∃ before after, segment = before ++ '=' :: after ∧ '=' ∉ before ∧ ¬Text.Blank before ∧ ¬Text.Blank after ∧
    token = String.ofList (Text.trim before) ∧ identity = String.ofList (Text.trim after)

/-- A segment is refused: it is not blank and has no `=`, or one side of its first `=` is blank. The error
    names the segment without the white space around it. -/
inductive Refused (segment : List Char) : TokenError → Prop
  | unassigned (written : ¬Text.Blank segment) (bare : '=' ∉ segment) :
    Refused segment (.unassigned (String.ofList (Text.trim segment)))
  | blankPart (before after : List Char) (cut : segment = before ++ '=' :: after) (first : '=' ∉ before)
      (blank : Text.Blank before ∨ Text.Blank after) :
    Refused segment (.blankPart (String.ofList (Text.trim segment)))

theorem isBlank_equals : Text.isBlank '=' = false := by decide

theorem isBlank_comma : Text.isBlank ',' = false := by decide

theorem not_blank_of_mem (h : '=' ∈ segment) : ¬Text.Blank segment := fun blank => by
  have := blank '=' h
  rw [isBlank_equals] at this
  exact Bool.false_ne_true this

theorem cut?_eq_none (h : '=' ∉ pair) : cut? pair = none := by
  have whole : pair.dropWhile (· ≠ '=') = [] :=
    List.dropWhile_eq_nil_iff.mpr fun c hc => decide_eq_true fun hce => h (hce ▸ hc)
  unfold cut?
  rw [whole]

theorem cut?_append (h : '=' ∉ before) : cut? (before ++ '=' :: after) = some (before, after) := by
  have passed : ∀ c ∈ before, decide (c ≠ '=') = true := fun c hc => decide_eq_true fun hce => h (hce ▸ hc)
  unfold cut?
  rw [List.dropWhile_append_of_pos passed, List.takeWhile_append_of_pos passed]
  simp

/-- A segment that is cut at its first `=` is read by its two sides. --/
theorem readPair_cut (h : '=' ∉ before) : readPair (Text.trim (before ++ '=' :: after)) =
    if (Text.trim before).isEmpty || (Text.trim after).isEmpty
    then .error (.blankPart (String.ofList (Text.trim (before ++ '=' :: after))))
    else .ok (String.ofList (Text.trim before), String.ofList (Text.trim after)) := by
  have first : '=' ∉ Text.trimStart before := fun hm => h ((List.dropWhile_sublist _).subset hm)
  unfold readPair
  rw [Text.trim_append_cons isBlank_equals, cut?_append first]
  simp only [Text.trim_trimStart, Text.trim_trimEnd]

theorem Refused.readPair (h : Refused segment e) : readPair (Text.trim segment) = .error e := by
  cases h with
  | unassigned written bare =>
    have kept : '=' ∉ Text.trim segment := fun hm =>
      bare ((List.dropWhile_sublist _).subset ((List.rdropWhile_prefix _ _).subset hm))
    unfold IdentityTable.readPair
    rw [cut?_eq_none kept]
  | blankPart before after cut first blank =>
    subst cut
    rw [readPair_cut first, if_pos]
    simpa using blank

theorem Refused.not_blank (h : Refused segment e) : ¬Text.Blank segment := by
  cases h with
  | unassigned written bare => exact written
  | blankPart before after cut first blank => exact not_blank_of_mem (by simp [cut])

theorem Assigns.readPair (h : Assigns segment token identity) :
    readPair (Text.trim segment) = .ok (token, identity) := by
  obtain ⟨before, after, rfl, first, hb, ha, rfl, rfl⟩ := h
  rw [readPair_cut first, if_neg]
  simp [hb, ha]

theorem Assigns.not_blank (h : Assigns segment token identity) : ¬Text.Blank segment := by
  obtain ⟨before, after, rfl, -, -, -, -, -⟩ := h
  exact not_blank_of_mem (by simp)

/-- Each segment is blank, or refused, or gives an identity to a token. --/
theorem blank_or_refused_or_assigns (segment : List Char) :
    Text.Blank segment ∨ (∃ e, Refused segment e) ∨ ∃ token identity, Assigns segment token identity := by
  by_cases hm : '=' ∈ segment
  · obtain ⟨before, after, cut, first⟩ := List.eq_append_cons_of_mem hm
    by_cases blank : Text.Blank before ∨ Text.Blank after
    · exact .inr (.inl ⟨_, .blankPart before after cut first blank⟩)
    · exact .inr (.inr ⟨_, _, before, after, cut, first, fun h => blank (.inl h), fun h => blank (.inr h), rfl, rfl⟩)
  · by_cases written : Text.Blank segment
    · exact .inl written
    · exact .inr (.inl ⟨_, .unassigned written hm⟩)

theorem Assigns.unique (h : Assigns segment token identity) {token' identity' : String}
    (h' : Assigns segment token' identity') : token' = token ∧ identity' = identity := by
  have same := h'.readPair.symm.trans h.readPair
  simpa using same

theorem Assigns.not_refused (h : Assigns segment token identity) : ¬Refused segment e := fun refused => by
  have same := h.readPair.symm.trans refused.readPair
  cases same

/-! ### Adding what the segments of a list say -/

/-- The pairs that are read of some segments. -/
def pairsAmong (segs : List (List Char)) : List (List Char) := (segs.map Text.trim).filter (!·.isEmpty)

theorem pairsAmong_cons_of_blank (h : Text.Blank segment) : pairsAmong (segment :: rest) = pairsAmong rest := by
  unfold pairsAmong
  rw [List.map_cons, List.filter_cons_of_neg]
  simpa using h

theorem pairsAmong_cons (h : ¬Text.Blank segment) :
    pairsAmong (segment :: rest) = Text.trim segment :: pairsAmong rest := by
  unfold pairsAmong
  rw [List.map_cons, List.filter_cons_of_pos]
  simpa using h

theorem addPairs_blank (h : Text.Blank segment) :
    addPairs t (pairsAmong (segment :: rest)) = addPairs t (pairsAmong rest) := by
  rw [pairsAmong_cons_of_blank h]

theorem addPairs_refused (h : Refused segment e) : addPairs t (pairsAmong (segment :: rest)) = .error e := by
  rw [pairsAmong_cons h.not_blank, addPairs, h.readPair]

theorem addPairs_assigns (h : Assigns segment token identity) :
    addPairs t (pairsAmong (segment :: rest)) = addPairs (t.insert token identity) (pairsAmong rest) := by
  rw [pairsAmong_cons h.not_blank, addPairs, h.readPair]

/-- The first segment that is refused, with the error that names it. -/
def FirstRefused (segs : List (List Char)) (e : TokenError) : Prop :=
  ∃ before segment after, segs = before ++ segment :: after ∧ (∀ s ∈ before, ∀ e', ¬Refused s e') ∧
    Refused segment e

/-- The identity that the last segment for a token gives it. -/
def LastAssigned (segs : List (List Char)) (token identity : String) : Prop :=
  ∃ before segment after, segs = before ++ segment :: after ∧ Assigns segment token identity ∧
    ∀ s ∈ after, ∀ other, ¬Assigns s token other

/-- A place in a list is its head or a place behind it. --/
theorem exists_split_cons {α : Type} {P : List α → α → List α → Prop} {a : α} {l : List α} :
    (∃ before x after, a :: l = before ++ x :: after ∧ P before x after) ↔
      P [] a l ∨ ∃ before x after, l = before ++ x :: after ∧ P (a :: before) x after := by
  constructor
  · rintro ⟨before, x, after, split, h⟩
    rcases List.cons_eq_append_iff.mp split with ⟨rfl, rest⟩ | ⟨before', rfl, rest⟩
    · obtain ⟨rfl, rfl⟩ := List.cons.inj rest
      exact .inl h
    · exact .inr ⟨before', x, after, rest, h⟩
  · rintro (h | ⟨before, x, after, rfl, h⟩)
    · exact ⟨[], a, l, rfl, h⟩
    · exact ⟨a :: before, x, after, rfl, h⟩

theorem firstRefused_cons_of_refused (h : Refused segment e) : FirstRefused (segment :: rest) e' ↔ e' = e := by
  unfold FirstRefused
  rw [exists_split_cons]
  constructor
  · rintro (⟨-, h'⟩ | ⟨_, _, _, -, none, -⟩)
    · have same := h'.readPair.symm.trans h.readPair
      exact Except.error.inj same
    · exact absurd h (none segment List.mem_cons_self e)
  · rintro rfl
    exact .inl ⟨fun _ hs => absurd hs List.not_mem_nil, h⟩

theorem firstRefused_cons (h : ∀ e, ¬Refused segment e) : FirstRefused (segment :: rest) e' ↔ FirstRefused rest e' := by
  unfold FirstRefused
  rw [exists_split_cons]
  simp only [h, and_false, false_or, List.mem_cons, forall_eq_or_imp, not_false_eq_true, implies_true, true_and]

theorem lastAssigned_cons : LastAssigned (segment :: rest) token identity ↔
    (Assigns segment token identity ∧ ∀ s ∈ rest, ∀ other, ¬Assigns s token other) ∨
      LastAssigned rest token identity := exists_split_cons

/-- Where a segment is refused, there is a first one. --/
theorem exists_firstRefused {segs : List (List Char)} :
    (∃ e, FirstRefused segs e) ↔ ∃ segment ∈ segs, ∃ e, Refused segment e := by
  constructor
  · rintro ⟨e, before, segment, after, rfl, -, refused⟩
    exact ⟨segment, by simp, e, refused⟩
  · rintro ⟨segment, hm, e, refused⟩
    induction segs with
    | nil => exact absurd hm List.not_mem_nil
    | cons first rest ih =>
      by_cases h : ∃ e, Refused first e
      · obtain ⟨e', h⟩ := h
        exact ⟨e', (firstRefused_cons_of_refused h).mpr rfl⟩
      · have fine : ∀ e, ¬Refused first e := fun e' h' => h ⟨e', h'⟩
        rcases List.mem_cons.mp hm with rfl | hm
        · exact absurd refused (fine e)
        · obtain ⟨e', h⟩ := ih hm
          exact ⟨e', (firstRefused_cons fine).mpr h⟩

/-- Adding fails with the error of the first segment that is refused, whatever the table holds before. --/
theorem addPairs_eq_error : ∀ (segs : List (List Char)) (t : IdentityTable),
    addPairs t (pairsAmong segs) = .error e ↔ FirstRefused segs e
  | [], t => by simp [FirstRefused, pairsAmong, addPairs]
  | segment :: rest, t => by
    rcases blank_or_refused_or_assigns segment with blank | ⟨e', refused⟩ | ⟨token, identity, assigns⟩
    · rw [addPairs_blank blank, firstRefused_cons fun _ refused => refused.not_blank blank]
      exact addPairs_eq_error rest t
    · rw [addPairs_refused refused, firstRefused_cons_of_refused refused]
      exact ⟨fun h => (Except.error.inj h).symm, fun h => congrArg _ h.symm⟩
    · rw [addPairs_assigns assigns, firstRefused_cons fun _ => assigns.not_refused]
      exact addPairs_eq_error rest _

/-- Behind what the segments of a list say, a token has the identity that the last segment for it gives it,
    or that of before if there is none. --/
theorem get?_of_addPairs : ∀ (segs : List (List Char)) {t t' : IdentityTable},
    addPairs t (pairsAmong segs) = .ok t' →
    (t'.get? token = some identity ↔ LastAssigned segs token identity ∨
      (∀ s ∈ segs, ∀ other, ¬Assigns s token other) ∧ t.get? token = some identity)
  | [], t, t', h => by
    obtain rfl : t = t' := by simpa [pairsAmong, addPairs] using h
    simp [LastAssigned]
  | segment :: rest, t, t', h => by
    rw [lastAssigned_cons]
    rcases blank_or_refused_or_assigns segment with blank | ⟨e, refused⟩ | ⟨token', identity', assigns⟩
    · have silent : ∀ other, ¬Assigns segment token other := fun _ assigns => assigns.not_blank blank
      rw [addPairs_blank blank] at h
      rw [get?_of_addPairs rest h]
      simp [silent]
    · rw [addPairs_refused refused] at h
      cases h
    · rw [addPairs_assigns assigns] at h
      rw [get?_of_addPairs rest h, Table.get?_insert]
      by_cases same : token = token'
      · subst same
        have given : Assigns segment token identity ↔ identity' = identity :=
          ⟨fun h => (assigns.unique h).2.symm, fun h => h ▸ assigns⟩
        have silenced : ¬∀ other, ¬Assigns segment token other := fun none => none _ assigns
        simp only [if_pos, Option.some.injEq, given, List.mem_cons, forall_eq_or_imp, silenced, false_and, or_false]
        rw [or_comm, and_comm]
      · have silent : ∀ other, ¬Assigns segment token other := fun _ h => same (assigns.unique h).1
        simp [same, silent]

theorem nodup_keys_of_addPairs : ∀ (segs : List (List Char)) {t t' : IdentityTable}, t.keys.Nodup →
    addPairs t (pairsAmong segs) = .ok t' → t'.keys.Nodup
  | [], t, t', ht, h => by
    obtain rfl : t = t' := by simpa [pairsAmong, addPairs] using h
    exact ht
  | segment :: rest, t, t', ht, h => by
    rcases blank_or_refused_or_assigns segment with blank | ⟨e, refused⟩ | ⟨token, identity, assigns⟩
    · rw [addPairs_blank blank] at h
      exact nodup_keys_of_addPairs rest ht h
    · rw [addPairs_refused refused] at h
      cases h
    · rw [addPairs_assigns assigns] at h
      exact nodup_keys_of_addPairs rest (Table.nodup_keys_insert ht _ _) h

theorem ofText_eq (text : String) : ofText text = addPairs .empty (pairsAmong (segments text.toList)) := rfl

/-! ### Lists that are written out of a table -/

/-- What is written between two commas: white space only, or a token and its identity, with white space
    around the one and around the other. -/
inductive Written where
  | blank (space : List Char)
  | pair (token identity : String) (beforeToken afterToken beforeIdentity afterIdentity : List Char)

namespace Written

def text : Written → List Char
  | .blank space => space
  | .pair token identity a b c d => a ++ token.toList ++ b ++ '=' :: (c ++ identity.toList ++ d)

def given? : Written → Option (String × String)
  | .blank _ => none
  | .pair token identity _ _ _ _ => some (token, identity)

def spaces : Written → List (List Char)
  | .blank space => [space]
  | .pair _ _ a b c d => [a, b, c, d]

/-- The spaces are white space. -/
def Spaced (w : Written) : Prop := ∀ space ∈ w.spaces, Text.Blank space

instance (w : Written) : Decidable w.Spaced := List.decidableBAll Text.Blank w.spaces

end Written

/-- A token and an identity that a list can hold. -/
structure Listable (token identity : String) : Prop where
  token_ne : token ≠ ""
  identity_ne : identity ≠ ""
  token_trimmed : Text.Trimmed token.toList
  identity_trimmed : Text.Trimmed identity.toList
  token_comma : ',' ∉ token.toList
  identity_comma : ',' ∉ identity.toList
  token_equals : '=' ∉ token.toList

/-- The text in which some segments are written, with commas between them. -/
def render (written : List Written) : String := String.ofList ([','].intercalate (written.map Written.text))

theorem notMem_of_blank {s : List Char} {c : Char} (hs : Text.Blank s) (hc : Text.isBlank c = false) : c ∉ s := by
  intro hm
  have := hs c hm
  rw [hc] at this
  exact Bool.false_ne_true this

theorem trim_padded {a b : List Char} {part : String} (ha : Text.Blank a) (hb : Text.Blank b)
    (trimmed : Text.Trimmed part.toList) : String.ofList (Text.trim (a ++ part.toList ++ b)) = part := by
  rw [Text.trim_surrounded ha hb, Text.trim_of_trimmed trimmed, String.ofList_toList]

theorem not_blank_padded {a b : List Char} {part : String} (ha : Text.Blank a) (hb : Text.Blank b)
    (trimmed : Text.Trimmed part.toList) (ne : part ≠ "") : ¬Text.Blank (a ++ part.toList ++ b) := fun blank => by
  rw [← Text.trim_eq_nil, Text.trim_surrounded ha hb, Text.trim_of_trimmed trimmed] at blank
  exact ne (String.toList_eq_nil_iff.mp blank)

namespace Written

variable {w : Written} {written : List Written}

theorem blank_text (hs : w.Spaced) (h : w.given? = none) : Text.Blank w.text := by
  cases w with
  | blank space => exact hs space (by simp [spaces])
  | pair => simp [given?] at h

theorem assigns_text (hs : w.Spaced) (listable : Listable token identity) (h : w.given? = some (token, identity)) :
    Assigns w.text token identity := by
  cases w with
  | blank => simp [given?] at h
  | pair token' identity' a b c d =>
    obtain ⟨rfl, rfl⟩ : token' = token ∧ identity' = identity := by simpa [given?] using h
    have ha : Text.Blank a := hs a (by simp [spaces])
    have hb : Text.Blank b := hs b (by simp [spaces])
    have hc : Text.Blank c := hs c (by simp [spaces])
    have hd : Text.Blank d := hs d (by simp [spaces])
    refine ⟨_, _, rfl, ?_, not_blank_padded ha hb listable.token_trimmed listable.token_ne,
      not_blank_padded hc hd listable.identity_trimmed listable.identity_ne,
      (trim_padded ha hb listable.token_trimmed).symm, (trim_padded hc hd listable.identity_trimmed).symm⟩
    simp [notMem_of_blank ha isBlank_equals, notMem_of_blank hb isBlank_equals, listable.token_equals]

theorem comma_notMem_text (hs : w.Spaced) (listable : ∀ entry, w.given? = some entry → Listable entry.1 entry.2) :
    ',' ∉ w.text := by
  have spaces (space) (h : space ∈ w.spaces) : ',' ∉ space := notMem_of_blank (hs space h) isBlank_comma
  cases w with
  | blank space => exact spaces space (by simp [Written.spaces])
  | pair token identity a b c d =>
    have holds := listable (token, identity) rfl
    simp [text, spaces a (by simp [Written.spaces]), spaces b (by simp [Written.spaces]),
      spaces c (by simp [Written.spaces]), spaces d (by simp [Written.spaces]),
      holds.token_comma, holds.identity_comma]

/-- What is written between the commas is what the list is cut into. --/
theorem segments_render (ne : written ≠ []) (spaced : ∀ w ∈ written, w.Spaced)
    (listable : ∀ entry ∈ written.filterMap given?, Listable entry.1 entry.2) :
    segments (render written).toList = written.map text := by
  unfold segments render
  rw [String.toList_ofList, List.splitOn_intercalate]
  · intro s hs
    obtain ⟨w, hw, rfl⟩ := List.mem_map.mp hs
    exact comma_notMem_text (spaced w hw) fun entry he => listable entry (List.mem_filterMap.mpr ⟨w, hw, he⟩)
  · simpa using ne

/-- A segment that is written gives an identity to a token just if that is the entry written in it. --/
theorem assigns_text_iff (hs : w.Spaced) (listable : ∀ entry, w.given? = some entry → Listable entry.1 entry.2) :
    Assigns w.text token identity ↔ w.given? = some (token, identity) := by
  constructor
  · intro h
    cases he : w.given? with
    | none => exact absurd (blank_text hs he) h.not_blank
    | some entry =>
      obtain ⟨rfl, rfl⟩ := (assigns_text hs (listable entry he) he).unique h
      rfl
  · exact fun he => assigns_text hs (listable _ he) he

theorem not_refused_text (hs : w.Spaced) (listable : ∀ entry, w.given? = some entry → Listable entry.1 entry.2) :
    ¬Refused w.text e := fun refused => by
  cases he : w.given? with
  | none => exact refused.not_blank (blank_text hs he)
  | some entry => exact (assigns_text hs (listable entry he) he).not_refused refused

/-- With one segment at most for each token, the last one for it is the one. --/
theorem lastAssigned_text (spaced : ∀ w ∈ written, w.Spaced)
    (listable : ∀ entry ∈ written.filterMap given?, Listable entry.1 entry.2)
    (nodup : ((written.filterMap given?).map (·.1)).Nodup) :
    LastAssigned (written.map text) token identity ↔ (token, identity) ∈ written.filterMap given? := by
  have reads (w) (hw : w ∈ written) (identity : String) :
      Assigns w.text token identity ↔ w.given? = some (token, identity) :=
    assigns_text_iff (spaced w hw) fun entry he => listable entry (List.mem_filterMap.mpr ⟨w, hw, he⟩)
  constructor
  · rintro ⟨before, segment, after, split, assigns, -⟩
    have hm : segment ∈ written.map text := by simp [split]
    obtain ⟨w, hw, rfl⟩ := List.mem_map.mp hm
    exact List.mem_filterMap.mpr ⟨w, hw, (reads w hw identity).mp assigns⟩
  · intro hm
    obtain ⟨w, hw, he⟩ := List.mem_filterMap.mp hm
    obtain ⟨before, after, rfl⟩ := List.append_of_mem hw
    refine ⟨before.map text, w.text, after.map text, by simp, (reads w hw identity).mpr he, ?_⟩
    intro s hs other assigns
    obtain ⟨w', hw', rfl⟩ := List.mem_map.mp hs
    have he' : w'.given? = some (token, other) := (reads w' (by simp [hw']) other).mp assigns
    simp only [List.filterMap_append, List.filterMap_cons, he, List.map_append, List.map_cons] at nodup
    have alone := (List.nodup_cons.mp (List.nodup_append.mp nodup).2.1).1
    exact alone (List.mem_map_of_mem (List.mem_filterMap.mpr ⟨w', hw', he'⟩))

/-- A list that is written out of a table is read, and it says the same as the table. --/
theorem ofText_render_of_ne_nil (ne : written ≠ []) (keys : m.keys.Nodup)
    (listable : ∀ entry ∈ m.entries, Listable entry.1 entry.2) (spaced : ∀ w ∈ written, w.Spaced)
    (entries : (written.filterMap given?).Perm m.entries) :
    ∃ t, ofText (render written) = .ok t ∧ ∀ token, t.get? token = m.get? token := by
  have listable' : ∀ entry ∈ written.filterMap given?, Listable entry.1 entry.2 :=
    fun entry he => listable entry (entries.mem_iff.mp he)
  rw [ofText_eq, segments_render ne spaced listable']
  cases he : addPairs .empty (pairsAmong (written.map text)) with
  | error e =>
    obtain ⟨before, segment, after, split, -, refused⟩ := (addPairs_eq_error _ _).mp he
    have hm : segment ∈ written.map text := by simp [split]
    obtain ⟨w, hw, rfl⟩ := List.mem_map.mp hm
    exact absurd refused (not_refused_text (spaced w hw) fun entry he =>
      listable' entry (List.mem_filterMap.mpr ⟨w, hw, he⟩))
  | ok t =>
    refine ⟨t, rfl, fun token => Option.ext fun identity => ?_⟩
    have nodup : ((written.filterMap given?).map (·.1)).Nodup := (entries.map _).nodup_iff.mpr keys
    rw [get?_of_addPairs _ he, lastAssigned_text spaced listable' nodup, entries.mem_iff, Table.mem_entries keys]
    simp

end Written

/-- A list is refused just if one of its segments is, and then with the error of the first of these; the
    identity of a token is otherwise what the last segment for it gives it. And a table that is written out,
    its entries in any order, with white space around their parts and blank segments between them, is read
    back: each token has the identity that it has in the table, and no other token has one. --/
theorem ofText_reads_segments : (∀ text : String,
      ((∃ e, ofText text = .error e) ↔ ∃ segment ∈ segments text.toList, ∃ e, Refused segment e) ∧
      (∀ e, ofText text = .error e ↔ FirstRefused (segments text.toList) e) ∧
      ∀ t, ofText text = .ok t → t.keys.Nodup ∧
        ∀ token identity, t.get? token = some identity ↔ LastAssigned (segments text.toList) token identity) ∧
    ∀ (m : IdentityTable) (written : List Written), m.keys.Nodup →
      (∀ entry ∈ m.entries, Listable entry.1 entry.2) → (∀ w ∈ written, w.Spaced) →
      (written.filterMap Written.given?).Perm m.entries →
      ∃ t, ofText (render written) = .ok t ∧ (∀ token, t.get? token = m.get? token) ∧ t.entries.Perm m.entries := by
  have empty : (Table.empty : IdentityTable).keys.Nodup := List.nodup_nil
  have nodup (text : String) {t : IdentityTable} (h : ofText text = .ok t) : t.keys.Nodup :=
    nodup_keys_of_addPairs _ empty h
  refine ⟨fun text => ⟨?_, fun e => addPairs_eq_error _ _, fun t ht => ⟨nodup text ht, fun token identity => ?_⟩⟩,
    fun m written keys listable spaced entries => ?_⟩
  · rw [← exists_firstRefused]
    exact exists_congr fun e => addPairs_eq_error _ _
  · rw [get?_of_addPairs _ ht]
    simp
  · obtain ⟨t, ht, same⟩ : ∃ t, ofText (render written) = .ok t ∧ ∀ token, t.get? token = m.get? token := by
      -- Nothing at all is written as one blank segment is.
      cases written with
      | nil =>
        have blank : ∀ w ∈ [Written.blank []], w.Spaced := by simp [Written.Spaced, Written.spaces, Text.Blank]
        have one : [Written.blank []] ≠ [] := List.cons_ne_nil _ _
        have read := Written.ofText_render_of_ne_nil one keys listable blank entries
        exact read
      | cons w rest => exact Written.ofText_render_of_ne_nil (by simp) keys listable spaced entries
    exact ⟨t, ht, same, Table.entries_perm (nodup _ ht) keys same⟩

/-- A list with two tokens, the last of them first, blank segments around them, and an identity with `=`. --/
theorem ofText_reads_segments_two : ∃ t, ofText " ,def\t= a=b,,\u3000abc =user@example.com" = .ok t ∧
    t.get? "abc" = some "user@example.com" ∧ t.get? "def" = some "a=b" ∧ t.get? "user@example.com" = none := by
  have keys : (⟨[("abc", "user@example.com"), ("def", "a=b")]⟩ : IdentityTable).keys.Nodup := by decide
  have listable : ∀ entry ∈ [("abc", "user@example.com"), ("def", "a=b")], Listable entry.1 entry.2 := by
    simp only [List.forall_mem_cons, List.not_mem_nil, false_implies, implies_true, and_true]
    constructor
    · constructor <;> decide +kernel
    · constructor <;> decide +kernel
  obtain ⟨t, ht, same, -⟩ := ofText_reads_segments.2 _
    [.blank [' '], .pair "def" "a=b" [] ['\t'] [' '] [], .blank [],
      .pair "abc" "user@example.com" ['\u3000'] [' '] [] []] keys listable (by decide +kernel) (by decide +kernel)
  exact ⟨t, ht, same _, same _, same _⟩

end IdentityTable
end DigitalTwin
