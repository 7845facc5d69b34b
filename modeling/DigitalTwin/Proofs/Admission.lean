import DigitalTwin.Proofs.RouteTable

/-! Which stored twins are routed anew. They are gone through in order: one is admitted if its definition in
    force may be routed and no twin admitted before it has a key of it. The table that is made routes the
    admitted twins and nothing else. -/

namespace DigitalTwin
namespace RouteTable

variable {t : RouteTable} {twins twins' before behind : List Twin} {twin u : Twin} {id : String}
  {notifyChannel : Option String}

/-! ### Tables that route some twins -/

/-- The table routes what the twins persist and nothing else. -/
def Exact (t : RouteTable) (twins : List Twin) : Prop :=
  ∀ key route, t.get? key = some route ↔ ∃ twin ∈ twins, twin.routeOn? key = some route

theorem exact_nil : Exact empty [] := fun _ _ => by simp

theorem Exact.insert (h : Exact t twins) (hc : t.Consistent) (hf : t.requireFree twin = .ok ())
    (hm : ∀ u, u ∈ twins' ↔ u = twin ∨ u ∈ twins ∧ u.id ≠ twin.id) : Exact (t.insert twin).2 twins' := by
  rw [requireFree_eq_ok] at hf
  intro key route
  rw [get?_insert hc.covering]
  constructor
  · intro hr
    rcases Option.or_eq_some_iff.mp hr with hr | ⟨-, hr⟩
    · exact ⟨twin, (hm twin).mpr (Or.inl rfl), hr⟩
    · obtain ⟨hg, hne⟩ := Option.filter_eq_some_iff.mp hr
      obtain ⟨u, hu, hur⟩ := (h key route).mp hg
      refine ⟨u, (hm u).mpr (Or.inr ⟨hu, ?_⟩), hur⟩
      rw [← Twin.routeOn?_twinId hur]
      simpa using hne
  · rintro ⟨u, hu, hur⟩
    rcases (hm u).mp hu with rfl | ⟨hu, hne⟩
    · rw [hur, Option.some_or]
    · have hg := (h key route).mpr ⟨u, hu, hur⟩
      have hid := Twin.routeOn?_twinId hur
      -- The key is routed to `u`, so it is not one of those of `twin`, which are free.
      have hn : twin.routeOn? key = none :=
        Twin.routeOn?_eq_none.mpr fun hk => hne (hid.symm.trans (hf key hk route hg))
      rw [hn, Option.none_or, hg]
      exact Option.filter_eq_some_iff.mpr ⟨rfl, by simpa [hid] using hne⟩

theorem Exact.erase (h : Exact t twins) (hc : t.Consistent) (hm : ∀ u, u ∈ twins' ↔ u ∈ twins ∧ u.id ≠ id) :
    Exact (t.erase id).2 twins' := by
  intro key route
  rw [get?_erase hc.covering]
  constructor
  · intro hr
    obtain ⟨hg, hne⟩ := Option.filter_eq_some_iff.mp hr
    obtain ⟨u, hu, hur⟩ := (h key route).mp hg
    refine ⟨u, (hm u).mpr ⟨hu, ?_⟩, hur⟩
    rw [← Twin.routeOn?_twinId hur]
    simpa using hne
  · rintro ⟨u, hu, hur⟩
    obtain ⟨hu, hne⟩ := (hm u).mp hu
    refine Option.filter_eq_some_iff.mpr ⟨(h key route).mpr ⟨u, hu, hur⟩, ?_⟩
    simpa [Twin.routeOn?_twinId hur] using hne

/-- To a table that routes some twins, the keys of another one are free if none of the twins has them. --/
theorem Exact.requireFree_eq_ok (h : Exact t twins) (fresh : ∀ u ∈ twins, u.id ≠ twin.id) :
    t.requireFree twin = .ok () ↔ ∀ u ∈ twins, ∀ key ∈ u.persistedKeys, key ∉ twin.persistedKeys := by
  rw [RouteTable.requireFree_eq_ok]
  constructor
  · intro hf u hu key hku hkt
    obtain ⟨route, hr⟩ := Twin.routeOn?_isSome.mpr hku
    have hid := hf key hkt route ((h key route).mpr ⟨u, hu, hr⟩)
    exact fresh u hu ((Twin.routeOn?_twinId hr).symm.trans hid)
  · intro hd key hkt route hr
    obtain ⟨u, hu, hur⟩ := (h key route).mp hr
    exact absurd hkt (hd u hu key (Twin.routeOn?_isSome.mp ⟨route, hur⟩))

/-! ### Admission -/

/-- A twin may be routed, and none of the admitted twins has a key of it. -/
def Admissible (notifyChannel : Option String) (admitted : List Twin) (twin : Twin) : Prop :=
  twin.Routable notifyChannel ∧ ∀ u ∈ admitted, ∀ key ∈ u.persistedKeys, key ∉ twin.persistedKeys

instance (notifyChannel : Option String) (admitted : List Twin) (twin : Twin) :
    Decidable (Admissible notifyChannel admitted twin) :=
  have : Decidable (twin.Routable notifyChannel) :=
    decidable_of_iff (isRoutable notifyChannel twin = true) Twin.isRoutable_eq_true
  inferInstanceAs (Decidable (_ ∧ _))

/-- The admitted twins when one more has been looked at. -/
def admitNext (notifyChannel : Option String) (admitted : List Twin) (twin : Twin) : List Twin :=
  if Admissible notifyChannel admitted twin then admitted ++ [twin] else admitted

/-- The twins that are admitted of a listing, which is gone through in order. -/
def admitted (notifyChannel : Option String) (twins : List Twin) : List Twin :=
  twins.foldl (admitNext notifyChannel) []

/-- Of the rest of a listing, some twins are admitted behind those before them. --/
theorem foldl_admitNext (notifyChannel : Option String) (rest before : List Twin) :
    ∃ more, rest.foldl (admitNext notifyChannel) before = before ++ more ∧ more.Sublist rest := by
  induction rest generalizing before with
  | nil => exact ⟨[], by simp, List.Sublist.refl _⟩
  | cons twin rest ih =>
    obtain ⟨more, he, hs⟩ := ih (admitNext notifyChannel before twin)
    rw [List.foldl_cons, he]
    unfold admitNext
    split
    · exact ⟨twin :: more, by simp, hs.cons_cons twin⟩
    · exact ⟨more, rfl, hs.cons twin⟩

theorem admitted_sublist : (admitted notifyChannel twins).Sublist twins := by
  obtain ⟨more, he, hs⟩ := foldl_admitNext notifyChannel twins []
  unfold admitted
  rw [he]
  exact hs

theorem admitted_append_cons (notifyChannel : Option String) (before : List Twin) (twin : Twin) (behind : List Twin) :
    ∃ more, more.Sublist behind ∧ admitted notifyChannel (before ++ twin :: behind) =
      admitNext notifyChannel (admitted notifyChannel before) twin ++ more := by
  obtain ⟨more, he, hs⟩ :=
    foldl_admitNext notifyChannel behind (admitNext notifyChannel (admitted notifyChannel before) twin)
  refine ⟨more, hs, ?_⟩
  rw [← he]
  unfold admitted
  rw [List.foldl_append, List.foldl_cons]

/-- What is admitted later has no say in what is admitted before it. --/
theorem mem_admitted_before (hids : ((before ++ twin :: behind).map (·.id)).Nodup) (hu : u ∈ before) :
    u ∈ admitted notifyChannel (before ++ twin :: behind) ↔ u ∈ admitted notifyChannel before := by
  obtain ⟨more, hs, he⟩ := admitted_append_cons notifyChannel before twin behind
  have other : ∀ v ∈ twin :: behind, u ≠ v := by
    rintro v hv rfl
    rw [List.map_append] at hids
    exact (List.nodup_append.mp hids).2.2 _ (List.mem_map_of_mem hu) _ (List.mem_map_of_mem hv) rfl
  have hm : u ∉ more := fun h => other u (List.mem_cons_of_mem _ (hs.subset h)) rfl
  have ht : u ≠ twin := other twin List.mem_cons_self
  rw [he]
  unfold admitNext
  split <;> simp [hm, ht]

/-- A twin of a listing is admitted if it may be routed and no twin admitted before it has a key of it. --/
theorem mem_admitted (hids : ((before ++ twin :: behind).map (·.id)).Nodup) :
    twin ∈ admitted notifyChannel (before ++ twin :: behind) ↔
      twin.Routable notifyChannel ∧ ∀ u ∈ before, u ∈ admitted notifyChannel (before ++ twin :: behind) →
        ∀ key ∈ u.persistedKeys, key ∉ twin.persistedKeys := by
  have looked : twin ∈ admitted notifyChannel (before ++ twin :: behind) ↔
      Admissible notifyChannel (admitted notifyChannel before) twin := by
    obtain ⟨more, hs, he⟩ := admitted_append_cons notifyChannel before twin behind
    rw [List.map_append, List.map_cons, List.nodup_append, List.nodup_cons] at hids
    obtain ⟨-, ⟨hbehind, -⟩, hbefore⟩ := hids
    have hm : twin ∉ more := fun h => hbehind (List.mem_map_of_mem (hs.subset h))
    have hb : twin ∉ admitted notifyChannel before := fun h =>
      hbefore _ (List.mem_map_of_mem (admitted_sublist.subset h)) _ List.mem_cons_self rfl
    rw [he]
    unfold admitNext
    split
    · rename_i ha
      simp [ha]
    · rename_i ha
      simp [ha, hm, hb]
  rw [looked]
  refine and_congr_right fun _ => ?_
  constructor
  · exact fun h u hu ha => h u ((mem_admitted_before hids hu).mp ha)
  · intro h u ha
    have hu : u ∈ before := admitted_sublist.subset ha
    exact h u hu ((mem_admitted_before hids hu).mpr ha)

/-- Twins that may be routed and share no key are all admitted. --/
theorem admitted_eq_self (hr : ∀ twin ∈ twins, twin.Routable notifyChannel)
    (hu : twins.Pairwise fun twin u => ∀ key ∈ twin.persistedKeys, key ∉ u.persistedKeys) :
    admitted notifyChannel twins = twins := by
  suffices all : ∀ rest before, before ++ rest = twins → rest.foldl (admitNext notifyChannel) before = twins from
    all twins [] rfl
  intro rest
  induction rest with
  | nil => exact fun before h => (List.append_nil before) ▸ h
  | cons twin rest ih =>
    intro before h
    have ha : Admissible notifyChannel before twin := by
      refine ⟨hr twin (h ▸ List.mem_append_right _ List.mem_cons_self), fun u hb => ?_⟩
      rw [← h] at hu
      exact (List.pairwise_append.mp hu).2.2 u hb twin List.mem_cons_self
    rw [List.foldl_cons]
    unfold admitNext
    rw [if_pos ha]
    exact ih (before ++ [twin]) (by rw [← h, List.append_assoc]; rfl)

/-! ### The table that is made of stored twins -/

theorem Consistent.accept (hc : t.Consistent) (notifyChannel : Option String) (twin : Twin) :
    (accept notifyChannel t twin).Consistent := by
  rcases accept_cases notifyChannel t twin with h | ⟨-, hf, h⟩ <;> rw [h]
  · exact hc
  · exact hc.insert hf

/-- A table that routes the admitted twins does so when one more has been looked at. --/
theorem Exact.accept (h : Exact t twins) (hc : t.Consistent) (fresh : ∀ u ∈ twins, u.id ≠ twin.id) :
    Exact (accept notifyChannel t twin) (admitNext notifyChannel twins twin) := by
  have free := h.requireFree_eq_ok fresh
  unfold admitNext
  split
  · rename_i ha
    rw [accept_of_free ha.1 (free.mpr ha.2)]
    refine h.insert hc (free.mpr ha.2) fun u => ?_
    rw [List.mem_append, List.mem_singleton]
    constructor
    · rintro (hu | rfl)
      · exact Or.inr ⟨hu, fresh u hu⟩
      · exact Or.inl rfl
    · rintro (rfl | ⟨hu, -⟩)
      · exact Or.inr rfl
      · exact Or.inl hu
  · rename_i ha
    rcases accept_cases notifyChannel t twin with he | ⟨hr, hf, -⟩
    · rw [he]
      exact h
    · exact absurd ⟨hr, free.mp hf⟩ ha

/-- The table made of twins with distinct ids routes the admitted ones and nothing else. --/
theorem exact_ofTwins (notifyChannel : Option String) (hids : (twins.map (·.id)).Nodup) :
    Exact (ofTwins notifyChannel twins) (admitted notifyChannel twins) := by
  -- Table and admitted twins grow together, so the induction is on the twins that are still to be looked at.
  suffices all : ∀ rest t before, Exact t before → t.Consistent → ((before ++ rest).map (·.id)).Nodup →
      Exact (rest.foldl (accept notifyChannel) t) (rest.foldl (admitNext notifyChannel) before) from
    all twins empty [] exact_nil consistent_empty hids
  intro rest
  induction rest with
  | nil => exact fun _ _ h _ _ => h
  | cons twin rest ih =>
    intro t before h hc hids
    have fresh : ∀ u ∈ before, u.id ≠ twin.id := fun u hu => by
      rw [List.map_append, List.map_cons] at hids
      exact (List.nodup_append.mp hids).2.2 _ (List.mem_map_of_mem hu) _ List.mem_cons_self
    refine ih _ _ (h.accept hc fresh) (hc.accept notifyChannel twin) ?_
    unfold admitNext
    split
    · simpa using hids
    · exact hids.sublist (((List.sublist_cons_self twin rest).append_left before).map _)

end RouteTable
end DigitalTwin
