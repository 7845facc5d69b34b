import DigitalTwin.Proofs.Table
import DigitalTwin.Proofs.Twin

/-! The route table as a function from keys to routes. As long as no key that is routed to a twin is missing
    from those held for it (`Covering`), putting a twin in gives it its own routes and nothing else, and taking
    it out leaves every other route. With twins whose keys are free, no other keys are held either
    (`Consistent`). -/

namespace DigitalTwin
namespace RouteTable

variable {t : RouteTable} {twin : Twin} {id : String} {key : RouteKey} {route : Route}

/-- The keys held for a twin. -/
def held (t : RouteTable) (id : String) : List RouteKey := (t.keysOf.get? id).getD []

/-- The keys held for each twin are those that are routed to it. -/
def Consistent (t : RouteTable) : Prop :=
  ∀ id key, key ∈ t.held id ↔ ∃ route, t.get? key = some route ∧ route.twinId = id

/-- No key that is routed to a twin is missing from the keys held for it. -/
def Covering (t : RouteTable) : Prop := ∀ key route, t.get? key = some route → key ∈ t.held route.twinId

theorem Consistent.covering (hc : t.Consistent) : t.Covering := fun key route hr =>
  (hc route.twinId key).mpr ⟨route, hr, rfl⟩

theorem mem_keys : key ∈ t.keys ↔ ∃ route, t.get? key = some route := Table.mem_keys

theorem size_eq (t : RouteTable) : t.size = t.keys.length := (List.length_map _).symm

@[simp] theorem get?_empty : empty.get? key = none := rfl

theorem consistent_empty : Consistent empty := fun _ _ => by
  simp [held, empty, get?]

/-! ### Passes over the keys of a twin -/

theorem get?_dropRoutes (keys : List RouteKey) (routes : Table RouteKey Route) :
    (keys.foldl (dropRoute id) routes).get? key =
      if key ∈ keys then (routes.get? key).filter (·.twinId ≠ id) else routes.get? key := by
  induction keys generalizing routes with
  | nil => simp
  | cons k rest ih =>
    have dropped : (dropRoute id routes k).get? key =
        if key = k then (routes.get? key).filter (·.twinId ≠ id) else routes.get? key := by
      unfold dropRoute
      by_cases hk : key = k
      · subst hk
        cases h : routes.get? key with
        | none => simp [h]
        | some r => by_cases hr : r.twinId = id <;> simp [h, hr, Option.filter_some]
      · cases h : routes.get? k with
        | none => simp [hk]
        | some r => by_cases hr : r.twinId = id <;> simp [hr, hk, Table.get?_erase_of_ne]
    rw [List.foldl_cons, ih, dropped]
    by_cases hk : key = k <;> by_cases hr : key ∈ rest <;> simp [hk, hr, Option.filter_filter]

theorem get?_addRoutes (attributes : List Attribute) (routes : Table RouteKey Route) :
    (attributes.foldl (addRoute twin) routes).get? key =
      ((attributes.reverse.find? (·.key = key)).map fun a => (⟨twin.id, a, twin.revision⟩ : Route)).or
        (routes.get? key) := by
  induction attributes generalizing routes with
  | nil => simp
  | cons a rest ih =>
    rw [List.foldl_cons, ih, List.reverse_cons, List.find?_append]
    unfold addRoute
    rw [Table.get?_insert]
    cases rest.reverse.find? (·.key = key) with
    | some b => simp
    | none =>
      by_cases hk : a.key = key
      · simp [hk]
      · simp [hk, Ne.symm hk]

/-! ### Putting a twin in -/

/-- A twin may be put in exactly if no other twin has a key of it. --/
theorem requireFree_eq_ok :
    t.requireFree twin = .ok () ↔
      ∀ key ∈ twin.persistedKeys, ∀ route, t.get? key = some route → route.twinId = twin.id := by
  have taken : ∀ key, t.takenFrom twin.id key = false ↔ ∀ route, t.get? key = some route → route.twinId = twin.id := by
    intro key
    unfold takenFrom
    cases t.get? key <;> simp
  unfold requireFree
  split
  · rename_i h
    simp only [reduceCtorEq, false_iff]
    intro hf
    obtain ⟨key, hk, ht⟩ := List.any_eq_true.mp h
    rw [(taken key).mpr (hf key hk)] at ht
    cases ht
  · rename_i h
    simp only [true_iff]
    exact fun key hk => (taken key).mp (by simpa using (List.any_eq_false.mp (by simpa using h)) key hk)

theorem requireFree_error {e : ServiceError} (h : t.requireFree twin = .error e) : e = .conflict := by
  unfold requireFree at h
  split at h <;> cases h
  rfl

theorem get?_insert (hc : t.Covering) :
    (t.insert twin).2.get? key = (twin.routeOn? key).or ((t.get? key).filter (·.twinId ≠ twin.id)) := by
  show (twin.persisted.foldl (addRoute twin) _).get? key = _
  rw [get?_addRoutes]
  show (twin.routeOn? key).or _ = _
  cases hr : twin.routeOn? key with
  | some r => rfl
  | none =>
    -- A key that the twin does not persist is dropped if it is held for it; if it is not, no route goes to it.
    have hn := Twin.routeOn?_eq_none.mp hr
    rw [Option.none_or, Option.none_or, get?_dropRoutes]
    split
    · rfl
    · rename_i hk
      cases hg : t.routes.get? key with
      | none => simp [get?, hg]
      | some r =>
        have other : r.twinId ≠ twin.id := fun hid =>
          hk (RouteKey.mem_difference.mpr ⟨hid ▸ hc key r hg, hn⟩)
        simp [get?, hg, other, Option.filter_some]

/-- Putting in a twin whose keys are free neither adds a route to another twin nor takes one away. --/
theorem get?_insert_of_ne (hc : t.Consistent) (hf : t.requireFree twin = .ok ()) (hne : route.twinId ≠ twin.id) :
    (t.insert twin).2.get? key = some route ↔ t.get? key = some route := by
  rw [get?_insert hc.covering, Option.or_eq_some_iff, Option.filter_eq_some_iff]
  constructor
  · rintro (hr | ⟨-, hr, -⟩)
    · exact absurd (Twin.routeOn?_twinId hr) hne
    · exact hr
  · intro hr
    have foreign : key ∉ twin.persistedKeys := fun hk => hne (requireFree_eq_ok.mp hf key hk route hr)
    exact Or.inr ⟨Twin.routeOn?_eq_none.mpr foreign, hr, by simpa using hne⟩

/-- A key routed behind a change was routed before it or belongs to the twin that was put in. --/
theorem mem_keys_insert (h : key ∈ (t.insert twin).2.keys) : key ∈ t.keys ∨ key ∈ twin.persistedKeys := by
  obtain ⟨route, hr⟩ := mem_keys.mp h
  have hr : (twin.persisted.foldl (addRoute twin) _).get? key = some route := hr
  rw [get?_addRoutes] at hr
  rcases Option.or_eq_some_iff.mp hr with hr | ⟨-, hr⟩
  · exact Or.inr (Twin.routeOn?_isSome.mp ⟨route, hr⟩)
  · rw [get?_dropRoutes] at hr
    split at hr
    · exact Or.inl (mem_keys.mpr ⟨route, (Option.filter_eq_some_iff.mp hr).1⟩)
    · exact Or.inl (mem_keys.mpr ⟨route, hr⟩)

theorem held_insert : (t.insert twin).2.held id = if id = twin.id then twin.persistedKeys else t.held id := by
  unfold held insert
  dsimp only
  by_cases hid : id = twin.id
  · subst hid
    split
    · rename_i h
      simp [List.isEmpty_iff.mp h]
    · simp
  · split <;> simp [hid, Table.get?_insert_of_ne, Table.get?_erase_of_ne]

theorem Consistent.insert (hc : t.Consistent) (hf : t.requireFree twin = .ok ()) : (t.insert twin).2.Consistent := by
  rw [requireFree_eq_ok] at hf
  intro id key
  rw [held_insert, get?_insert hc.covering]
  by_cases hid : id = twin.id
  · subst hid
    rw [if_pos rfl]
    constructor
    · intro hk
      obtain ⟨r, hr⟩ := Twin.routeOn?_isSome.mpr hk
      exact ⟨r, by rw [hr, Option.some_or], Twin.routeOn?_twinId hr⟩
    · rintro ⟨r, hr, hrid⟩
      rcases Option.or_eq_some_iff.mp hr with hr | ⟨-, hr⟩
      · exact Twin.routeOn?_isSome.mp ⟨r, hr⟩
      · exact absurd hrid (by simpa using (Option.filter_eq_some_iff.mp hr).2)
  · rw [if_neg hid, hc id key]
    constructor
    · rintro ⟨r, hr, rfl⟩
      have hn : twin.routeOn? key = none := Twin.routeOn?_eq_none.mpr fun hk => hid (hf key hk r hr)
      exact ⟨r, by rw [hn, hr, Option.none_or]; simp [hid], rfl⟩
    · rintro ⟨r, hr, rfl⟩
      rcases Option.or_eq_some_iff.mp hr with hr | ⟨-, hr⟩
      · exact absurd (Twin.routeOn?_twinId hr) hid
      · exact ⟨r, (Option.filter_eq_some_iff.mp hr).1, rfl⟩

/-! ### Taking a twin out -/

theorem get?_erase (hc : t.Covering) : (t.erase id).2.get? key = (t.get? key).filter (·.twinId ≠ id) := by
  show ((RouteKey.sorted (t.held id)).foldl (dropRoute id) t.routes).get? key = _
  rw [get?_dropRoutes]
  split
  · rfl
  · rename_i hk
    cases hg : t.routes.get? key with
    | none => simp [get?, hg]
    | some r =>
      have other : r.twinId ≠ id := fun hid => hk (RouteKey.mem_sorted.mpr (hid ▸ hc key r hg))
      simp [get?, hg, other, Option.filter_some]

theorem get?_erase_of_ne (hc : t.Consistent) (hne : route.twinId ≠ id) :
    (t.erase id).2.get? key = some route ↔ t.get? key = some route := by
  rw [get?_erase hc.covering, Option.filter_eq_some_iff]
  simp [hne]

theorem mem_keys_erase (h : key ∈ (t.erase id).2.keys) : key ∈ t.keys := by
  obtain ⟨route, hr⟩ := mem_keys.mp h
  have hr : ((RouteKey.sorted (t.held id)).foldl (dropRoute id) t.routes).get? key = some route := hr
  rw [get?_dropRoutes] at hr
  split at hr
  · exact mem_keys.mpr ⟨route, (Option.filter_eq_some_iff.mp hr).1⟩
  · exact mem_keys.mpr ⟨route, hr⟩

theorem held_erase {id' : String} : (t.erase id).2.held id' = if id' = id then [] else t.held id' := by
  unfold held erase
  rw [Table.get?_erase]
  split <;> rfl

theorem Consistent.erase (hc : t.Consistent) (id : String) : (t.erase id).2.Consistent := by
  intro id' key
  rw [held_erase, get?_erase hc.covering]
  by_cases hid : id' = id
  · subst hid
    rw [if_pos rfl]
    simp
  · rw [if_neg hid, hc id' key]
    constructor
    · rintro ⟨r, hr, rfl⟩
      exact ⟨r, by rw [hr]; simp [hid], rfl⟩
    · rintro ⟨r, hr, rfl⟩
      exact ⟨r, (Option.filter_eq_some_iff.mp hr).1, rfl⟩

/-! ### Routing stored twins anew -/

/-- A twin is passed over, or it may be routed, its keys are free and it is put in. --/
theorem accept_cases (notifyChannel : Option String) (t : RouteTable) (twin : Twin) :
    accept notifyChannel t twin = t ∨
      twin.Routable notifyChannel ∧ t.requireFree twin = .ok () ∧ accept notifyChannel t twin = (t.insert twin).2 := by
  unfold accept
  split
  · rename_i hr
    split
    · rename_i hf
      exact Or.inr ⟨Twin.isRoutable_eq_true.mp hr, hf, rfl⟩
    · exact Or.inl rfl
  · exact Or.inl rfl

theorem accept_of_free {notifyChannel : Option String} (hr : twin.Routable notifyChannel)
    (hf : t.requireFree twin = .ok ()) : accept notifyChannel t twin = (t.insert twin).2 := by
  unfold accept
  rw [if_pos (Twin.isRoutable_eq_true.mpr hr), hf]

/-- What holds of no route at all and is kept by putting in a free and routable twin holds of the routes
    of stored twins. --/
theorem ofTwins_induction {notifyChannel : Option String} {P : RouteTable → Prop} (hempty : P empty)
    {twins : List Twin}
    (hinsert : ∀ t twin, twin ∈ twins → P t → twin.Routable notifyChannel → t.requireFree twin = .ok () →
      P (t.insert twin).2) :
    P (ofTwins notifyChannel twins) := by
  unfold ofTwins
  refine List.foldlRecOn twins _ hempty fun t ht twin hm => ?_
  rcases accept_cases notifyChannel t twin with h | ⟨hr, hf, h⟩
  · rw [h]
    exact ht
  · rw [h]
    exact hinsert t twin hm ht hr hf

theorem consistent_ofTwins (notifyChannel : Option String) (twins : List Twin) :
    (ofTwins notifyChannel twins).Consistent :=
  ofTwins_induction consistent_empty fun _ _ _ hc _ hf => hc.insert hf

/-! ### Every routed key once -/

theorem nodup_dropRoutes (keys : List RouteKey) {routes : Table RouteKey Route} (h : routes.keys.Nodup) :
    (keys.foldl (dropRoute id) routes).keys.Nodup := by
  induction keys generalizing routes with
  | nil => exact h
  | cons key rest ih =>
    refine ih ?_
    unfold dropRoute
    split
    · split
      · exact Table.nodup_keys_erase h key
      · exact h
    · exact h

theorem nodup_addRoutes (attributes : List Attribute) {routes : Table RouteKey Route} (h : routes.keys.Nodup) :
    (attributes.foldl (addRoute twin) routes).keys.Nodup := by
  induction attributes generalizing routes with
  | nil => exact h
  | cons a rest ih => exact ih (Table.nodup_keys_insert h a.key _)

theorem nodup_keys_insert (h : t.keys.Nodup) (twin : Twin) : (t.insert twin).2.keys.Nodup :=
  nodup_addRoutes twin.persisted (nodup_dropRoutes _ h)

theorem nodup_keys_erase (h : t.keys.Nodup) (id : String) : (t.erase id).2.keys.Nodup := nodup_dropRoutes _ h

theorem nodup_keys_ofTwins (notifyChannel : Option String) (twins : List Twin) :
    (ofTwins notifyChannel twins).keys.Nodup :=
  ofTwins_induction (P := fun t => t.keys.Nodup) List.nodup_nil fun _ twin _ h _ _ => nodup_keys_insert h twin

/-- No key of the notification channel is routed anew. --/
theorem mem_keys_ofTwins {notifyChannel : Option String} {twins : List Twin}
    (h : key ∈ (ofTwins notifyChannel twins).keys) : some key.channel ≠ notifyChannel := by
  refine ofTwins_induction (P := fun t => ∀ key ∈ t.keys, some key.channel ≠ notifyChannel) (fun _ hk => (nomatch hk))
    (fun t twin _ ht hr _ key hk => ?_) key h
  rcases mem_keys_insert hk with hk | hk
  · exact ht key hk
  · exact hr.unreserved hk

end RouteTable
end DigitalTwin
