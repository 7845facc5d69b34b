import DigitalTwin.Proofs.RouteScan

/-! What a route table reports of its changes. A report is made of the keys held for the twin, without a look at the
    routes, and it would be wrong of a twin that takes keys over. As long as a twin is put in only when its keys are
    free, the keys held for each twin are those that are routed to it (`Faithful`), and then the report names the
    keys that become routed and those that cease to be. -/

namespace DigitalTwin
namespace RouteTable

variable {t : RouteTable} {twin : Twin} {id : String} {key : RouteKey} {route : Route}

/-! ### Keys behind a change -/

theorem mem_keys_insert_iff (hc : t.Covering) : key ∈ (t.insert twin).2.keys ↔
    key ∈ twin.persistedKeys ∨ ∃ route, t.get? key = some route ∧ route.twinId ≠ twin.id := by
  simp only [mem_keys, get?_insert hc, Option.or_eq_some_iff, Option.filter_eq_some_iff]
  constructor
  · rintro ⟨route, hr | ⟨-, hr, hne⟩⟩
    · exact Or.inl (Twin.routeOn?_isSome.mp ⟨route, hr⟩)
    · exact Or.inr ⟨route, hr, by simpa using hne⟩
  · intro h
    by_cases hk : key ∈ twin.persistedKeys
    · obtain ⟨route, hr⟩ := Twin.routeOn?_isSome.mpr hk
      exact ⟨route, Or.inl hr⟩
    · obtain ⟨route, hr, hne⟩ := h.resolve_left hk
      exact ⟨route, Or.inr ⟨Twin.routeOn?_eq_none.mpr hk, hr, by simpa using hne⟩⟩

theorem mem_keys_erase_iff (hc : t.Covering) :
    key ∈ (t.erase id).2.keys ↔ ∃ route, t.get? key = some route ∧ route.twinId ≠ id := by
  simp only [mem_keys, get?_erase hc, Option.filter_eq_some_iff, decide_eq_true_eq]

/-! ### Changes that are permitted -/

/-- A twin may be put in if none of its keys is routed to another twin, and any twin may be taken out. -/
def Permits (t : RouteTable) : RouteCall → Prop
  | .insert twin => t.requireFree twin = .ok ()
  | .erase _ | .clear => True

/-- Each change of a row is permitted when its turn comes. -/
def PermitsAll (t : RouteTable) : List RouteCall → Prop
  | [] => True
  | call :: rest => t.Permits call ∧ (t.change call).PermitsAll rest

instance (t : RouteTable) : (call : RouteCall) → Decidable (t.Permits call)
  | .insert twin => inferInstanceAs (Decidable (t.requireFree twin = .ok ()))
  | .erase _ | .clear => isTrue trivial

instance decidablePermitsAll (t : RouteTable) : (calls : List RouteCall) → Decidable (t.PermitsAll calls)
  | [] => isTrue trivial
  | call :: rest =>
    have := decidablePermitsAll (t.change call) rest
    inferInstanceAs (Decidable (t.Permits call ∧ (t.change call).PermitsAll rest))

/-- The keys held for a twin are those that are routed to it, and no key is there twice. -/
structure Faithful (t : RouteTable) : Prop where
  consistent : t.Consistent
  nodup_held : ∀ id, (t.held id).Nodup
  nodup : t.keys.Nodup

namespace Faithful

theorem empty : Faithful empty := ⟨consistent_empty, fun _ => List.nodup_nil, List.nodup_nil⟩

theorem insert (h : t.Faithful) (hf : t.requireFree twin = .ok ()) : (t.insert twin).2.Faithful := by
  refine ⟨h.consistent.insert hf, fun id => ?_, nodup_keys_insert h.nodup twin⟩
  rw [held_insert]
  split
  · exact RouteKey.nodup_setOf _
  · exact h.nodup_held id

theorem erase (h : t.Faithful) (id : String) : (t.erase id).2.Faithful := by
  refine ⟨h.consistent.erase id, fun id' => ?_, nodup_keys_erase h.nodup id⟩
  rw [held_erase]
  split
  · exact List.nodup_nil
  · exact h.nodup_held id'

theorem change {call : RouteCall} (h : t.Faithful) (hp : t.Permits call) : (t.change call).Faithful := by
  cases call with
  | insert twin => exact h.insert hp
  | erase id => exact h.erase id
  | clear => exact .empty

theorem changeAll {calls : List RouteCall} (h : t.Faithful) (hp : t.PermitsAll calls) :
    (t.changeAll calls).Faithful := by
  induction calls generalizing t with
  | nil => exact h
  | cons call rest ih => exact ih (h.change hp.1) hp.2

end Faithful

/-! ### Reports -/

/-- What is reported of a change for a twin is what happens to the table: which keys become routed and which cease to
be, each list in order and without repetitions. The routes of other twins stay. -/
structure Reports (t : RouteTable) (id : String) (change : RouteChange) (after : RouteTable) : Prop where
  added : RouteKey.Lists change.added fun key => key ∈ after.keys ∧ key ∉ t.keys
  removed : RouteKey.Lists change.removed fun key => key ∈ t.keys ∧ key ∉ after.keys
  others : ∀ key route, t.get? key = some route → route.twinId ≠ id →
    key ∉ change.added ∧ key ∉ change.removed ∧ after.get? key = some route
  size : (after.size : Int) = t.size + change.added.length - change.removed.length

/-- The lists say all of the change, so the size and what is kept need not be looked at in each case. --/
theorem Reports.of_lists {change : RouteChange} {after : RouteTable}
    (ha : RouteKey.Lists change.added fun key => key ∈ after.keys ∧ key ∉ t.keys)
    (hr : RouteKey.Lists change.removed fun key => key ∈ t.keys ∧ key ∉ after.keys) (hn : t.keys.Nodup)
    (hn' : after.keys.Nodup)
    (ho : ∀ key route, t.get? key = some route → route.twinId ≠ id → after.get? key = some route) :
    t.Reports id change after := by
  refine ⟨ha, hr, fun key route hkey hne => ?_, ?_⟩
  · have kept := ho key route hkey hne
    refine ⟨fun hk => ?_, fun hk => ?_, kept⟩
    · exact ((ha.mem_iff key).mp hk).2 (mem_keys.mpr ⟨route, hkey⟩)
    · exact ((hr.mem_iff key).mp hk).2 (mem_keys.mpr ⟨route, kept⟩)
  · have sizes := RouteKey.Lists.length_add ha hr hn hn'
    rw [size_eq, size_eq]
    omega

theorem Faithful.mem_keys_of_held (h : t.Faithful) (hk : key ∈ t.held id) : key ∈ t.keys := by
  obtain ⟨route, hr, -⟩ := (h.consistent id key).mp hk
  exact mem_keys.mpr ⟨route, hr⟩

theorem Faithful.reports_insert (h : t.Faithful) (hf : t.requireFree twin = .ok ()) :
    t.Reports twin.id (t.insert twin).1 (t.insert twin).2 := by
  have hc := h.consistent.covering
  have free := requireFree_eq_ok.mp hf
  -- No other twin has a key of the definition, so of its keys those are routed before that are held for the twin.
  have own {key : RouteKey} (hk : key ∈ twin.persistedKeys) (ht : key ∈ t.keys) : key ∈ t.held twin.id := by
    obtain ⟨route, hr⟩ := mem_keys.mp ht
    exact (h.consistent twin.id key).mpr ⟨route, hr, free key hk route hr⟩
  refine .of_lists ?_ ?_ h.nodup (nodup_keys_insert h.nodup twin) fun key route hr hne =>
    (get?_insert_of_ne h.consistent hf hne).mpr hr
  · refine (RouteKey.Lists.difference (RouteKey.nodup_setOf _) (t.held twin.id)).congr fun key => ?_
    constructor
    · rintro ⟨hk, hheld⟩
      exact ⟨(mem_keys_insert_iff hc).mpr (Or.inl hk), fun ht => hheld (own hk ht)⟩
    · rintro ⟨hafter, ht⟩
      rcases (mem_keys_insert_iff hc).mp hafter with hk | ⟨route, hr, -⟩
      · exact ⟨hk, fun hheld => ht (h.mem_keys_of_held hheld)⟩
      · exact absurd (mem_keys.mpr ⟨route, hr⟩) ht
  · refine (RouteKey.Lists.difference (h.nodup_held twin.id) twin.persistedKeys).congr fun key => ?_
    constructor
    · rintro ⟨hheld, hk⟩
      refine ⟨h.mem_keys_of_held hheld, fun hafter => ?_⟩
      obtain ⟨route, hr, hid⟩ := (h.consistent twin.id key).mp hheld
      obtain ⟨route', hr', hne⟩ := ((mem_keys_insert_iff hc).mp hafter).resolve_left hk
      rw [hr] at hr'
      cases hr'
      exact hne hid
    · rintro ⟨ht, hafter⟩
      obtain ⟨route, hr⟩ := mem_keys.mp ht
      have hk : key ∉ twin.persistedKeys := fun hk => hafter ((mem_keys_insert_iff hc).mpr (Or.inl hk))
      have hid : route.twinId = twin.id := by
        by_contra hne
        exact hafter ((mem_keys_insert_iff hc).mpr (Or.inr ⟨route, hr, hne⟩))
      exact ⟨(h.consistent twin.id key).mpr ⟨route, hr, hid⟩, hk⟩

theorem Faithful.reports_erase (h : t.Faithful) (id : String) : t.Reports id (t.erase id).1 (t.erase id).2 := by
  have hc := h.consistent.covering
  refine .of_lists ?_ ?_ h.nodup (nodup_keys_erase h.nodup id) fun key route hr hne =>
    (get?_erase_of_ne h.consistent hne).mpr hr
  · refine ⟨.nil, List.nodup_nil, fun key => ⟨fun hk => (nomatch hk), ?_⟩⟩
    rintro ⟨hafter, ht⟩
    exact absurd (mem_keys_erase hafter) ht
  · refine (RouteKey.Lists.sorted (h.nodup_held id)).congr fun key => ?_
    constructor
    · intro hheld
      refine ⟨h.mem_keys_of_held hheld, fun hafter => ?_⟩
      obtain ⟨route, hr, hid⟩ := (h.consistent id key).mp hheld
      obtain ⟨route', hr', hne⟩ := (mem_keys_erase_iff hc).mp hafter
      rw [hr] at hr'
      cases hr'
      exact hne hid
    · rintro ⟨ht, hafter⟩
      obtain ⟨route, hr⟩ := mem_keys.mp ht
      refine (h.consistent id key).mpr ⟨route, hr, ?_⟩
      by_contra hne
      exact hafter ((mem_keys_erase_iff hc).mpr ⟨route, hr, hne⟩)

/-- Whatever twins are put into a table when their keys are free and taken out of it, with whatever definitions: the
    keys held for each twin are those that are routed to it, and the next change, if it is permitted, is what is
    reported of it. --/
theorem changeAll_reports {calls : List RouteCall} (hp : empty.PermitsAll calls) :
    let t := empty.changeAll calls
    (∀ id key, key ∈ t.held id ↔ ∃ route, t.get? key = some route ∧ route.twinId = id) ∧
    (∀ id, t.Reports id (t.erase id).1 (t.erase id).2) ∧
    ∀ twin, t.requireFree twin = .ok () → t.Reports twin.id (t.insert twin).1 (t.insert twin).2 := by
  intro t
  have h : t.Faithful := Faithful.empty.changeAll hp
  exact ⟨h.consistent, h.reports_erase, fun twin hf => h.reports_insert hf⟩

/-- A key is given up with its twin and claimed by another, which is then moved to a key that its definition binds
    twice. --/
theorem changeAll_reports_moved_twin :
    let flow : Attribute := ⟨"flow", "plant", "a", true⟩
    let heat : Attribute := ⟨"heat", "plant", "b", true⟩
    let twin (id : String) (attributes : List Attribute) : Twin :=
      ⟨id, "ann", "pump", [], ⟨0, 0⟩, ⟨0, 0⟩, 5, [⟨5, ⟨0, 0⟩, attributes⟩]⟩
    let t := empty.changeAll [.insert (twin "t" [flow]), .erase "t", .insert (twin "u" [flow])]
    let (change, after) := t.insert (twin "u" [heat, heat])
    change = ⟨[⟨"plant", "b"⟩], [⟨"plant", "a"⟩]⟩ ∧ t.Reports "u" change after := by
  intro flow heat twin t
  have permitted : empty.PermitsAll [.insert (twin "t" [flow]), .erase "t", .insert (twin "u" [flow])] := by
    decide +kernel
  obtain ⟨-, -, reports⟩ := changeAll_reports permitted
  exact ⟨by decide +kernel, reports (twin "u" [heat, heat]) (by decide +kernel)⟩

end RouteTable
end DigitalTwin
