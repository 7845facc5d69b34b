import DigitalTwin.Proofs.RouteTable
import DigitalTwin.Proofs.TwinStore

/-! What was put in last and is taken out again leaves no trace: not in a table, not in the store but for the number
    that was used up, and not in the routes. The equalities are of the tables themselves with the order of their
    entries, and not only of what is looked up in them. -/

namespace DigitalTwin

/-! ### Tables -/

namespace Table

variable {κ ν : Type} [DecidableEq κ] {base t : Table κ ν} {k : κ} {v : ν} {names : List κ} {P : ν → Prop}

theorem get?_eq_none : t.get? k = none ↔ ∀ entry ∈ t.entries, entry.1 ≠ k := by
  unfold get?
  rw [Option.map_eq_none_iff, List.find?_eq_none]
  simp

theorem erase_of_absent (h : t.get? k = none) : t.erase k = t := by
  have all : t.entries.filter (·.1 ≠ k) = t.entries :=
    List.filter_eq_self.mpr fun entry he => decide_eq_true (get?_eq_none.mp h entry he)
  exact congrArg Table.mk all

theorem mem_put {entry : κ × ν} : ∀ {entries : List (κ × ν)}, entry ∈ put k v entries → entry = (k, v) ∨ entry ∈ entries
  | [], h => Or.inl (List.mem_singleton.mp h)
  | (other, kept) :: rest, h => by
    unfold put at h
    split at h
    · exact (List.mem_cons.mp h).imp_right (List.mem_cons_of_mem _)
    · rcases List.mem_cons.mp h with rfl | h
      · exact Or.inr List.mem_cons_self
      · exact (mem_put h).imp_right (List.mem_cons_of_mem _)

/-- A new name is put behind the entries that do not have it. --/
theorem put_append : ∀ {entries : List (κ × ν)} (more : List (κ × ν)), (∀ entry ∈ entries, entry.1 ≠ k) →
    put k v (entries ++ more) = entries ++ put k v more
  | [], _, _ => rfl
  | (other, kept) :: rest, more, h => by
    rw [List.cons_append, put, if_neg (h _ List.mem_cons_self),
      put_append more fun entry he => h entry (List.mem_cons_of_mem _ he)]
    rfl

/-- A table that another has grown to: behind what was there are values with a property, under some of the given names,
    which were not there. -/
structure Grown (base : Table κ ν) (names : List κ) (P : ν → Prop) (t : Table κ ν) : Prop where
  absent : ∀ k ∈ names, base.get? k = none
  entries : ∃ more, t.entries = base.entries ++ more ∧ ∀ entry ∈ more, entry.1 ∈ names ∧ P entry.2

namespace Grown

theorem refl (h : ∀ k ∈ names, base.get? k = none) : base.Grown names P base :=
  ⟨h, [], (List.append_nil _).symm, by simp⟩

theorem insert (h : base.Grown names P t) (hk : k ∈ names) (hv : P v) : base.Grown names P (t.insert k v) := by
  obtain ⟨more, ht, hm⟩ := h.entries
  refine ⟨h.absent, put k v more, ?_, fun entry he => ?_⟩
  · show put k v t.entries = _
    rw [ht, put_append more (get?_eq_none.mp (h.absent k hk))]
  · rcases mem_put he with rfl | he
    · exact ⟨hk, hv⟩
    · exact hm entry he

theorem erase (h : base.Grown (k :: names) P t) : base.Grown names P (t.erase k) := by
  obtain ⟨more, ht, hm⟩ := h.entries
  refine ⟨fun k' hk' => h.absent k' (List.mem_cons_of_mem _ hk'), more.filter (·.1 ≠ k), ?_, fun entry he => ?_⟩
  · have kept : base.entries.filter (·.1 ≠ k) = base.entries :=
      congrArg Table.entries (erase_of_absent (h.absent k List.mem_cons_self))
    show t.entries.filter (·.1 ≠ k) = _
    rw [ht, List.filter_append, kept]
  · obtain ⟨he, hne⟩ := List.mem_filter.mp he
    obtain ⟨hk, hp⟩ := hm entry he
    exact ⟨(List.mem_cons.mp hk).resolve_left (of_decide_eq_true hne), hp⟩

/-- Under the names that were not there, only values with the property are found. --/
theorem of_get? (h : base.Grown names P t) (hk : k ∈ names) (ht : t.get? k = some v) : P v := by
  obtain ⟨more, he, hm⟩ := h.entries
  obtain ⟨entry, found, rfl⟩ := Option.map_eq_some_iff.mp ht
  have named : entry.1 = k := by simpa using List.find?_some found
  have mem := List.mem_of_find?_eq_some found
  rw [he] at mem
  rcases List.mem_append.mp mem with mem | mem
  · exact absurd named (get?_eq_none.mp (h.absent k hk) entry mem)
  · exact (hm entry mem).2

/-- With no names left, the table is what it was. --/
theorem eq_of_nil (h : base.Grown [] P t) : t = base := by
  obtain ⟨more, he, hm⟩ := h.entries
  have none : more = [] := List.eq_nil_iff_forall_not_mem.mpr fun entry he => nomatch (hm entry he).1
  rw [none, List.append_nil] at he
  exact congrArg Table.mk he

end Grown

/-- A name that was not there is put in and taken out again. --/
theorem erase_insert (h : t.get? k = none) : (t.insert k v).erase k = t := by
  have one : t.Grown [k] (fun _ => True) (t.insert k v) := by
    refine (Grown.refl fun k' hk' => ?_).insert (List.mem_singleton_self k) trivial
    rw [List.mem_singleton.mp hk', h]
  exact one.erase.eq_of_nil

end Table

/-! ### The store -/

/-- A number that is passed over belongs to no twin. --/
theorem TwinStore.WellFormed.skip {s : TwinStore} (h : s.WellFormed) :
    WellFormed { s with nextSeq := s.nextSeq + 1 } :=
  ⟨h.sorted, fun p hp => Nat.lt_succ_of_lt (h.issued p hp), h.seqOf⟩

theorem TwinStore.WellFormed.insert_of_new {s : TwinStore} (h : s.WellFormed) (twin : Twin)
    (hn : s.get? twin.id = none) : ∃ t, s.insert twin = .ok t := by
  cases hs : s.insert twin with
  | ok t => exact ⟨t, rfl⟩
  | error e =>
    obtain ⟨-, u, hu, hid⟩ := insert_error h hs
    exact absurd hid (h.get?_eq_none.mp hn u hu)

/-- A twin that is stored and removed leaves a gap in the numbers and nothing else. --/
theorem TwinStore.erase_insert {s t : TwinStore} {twin : Twin} (h : s.WellFormed) (hi : s.insert twin = .ok t) :
    t.erase twin.id = { s with nextSeq := s.nextSeq + 1 } := by
  unfold insert at hi
  split at hi
  · cases hi
  · rename_i absent
    cases hi
    have new : s.seqOf.get? twin.id = none := by simpa [Table.contains] using absent
    have others : s.bySeq.filter (·.1 ≠ s.nextSeq) = s.bySeq :=
      List.filter_eq_self.mpr fun p hp => decide_eq_true (Nat.ne_of_lt (h.issued p hp))
    unfold erase
    dsimp only
    rw [Table.get?_insert_self]
    dsimp only
    rw [Table.erase_insert new, putAt_behind twin h.issued, List.filter_append, others]
    simp

/-! ### The routes -/

theorem RouteKey.difference_eq_nil {keys others : List RouteKey} (h : ∀ key ∈ keys, key ∈ others) :
    difference keys others = [] :=
  List.eq_nil_iff_forall_not_mem.mpr fun key hk => (mem_difference.mp hk).2 (h key (mem_difference.mp hk).1)

namespace RouteTable

variable {t : RouteTable} {twin : Twin} {id : String} {key : RouteKey} {keys : List RouteKey}

/-- Of two twins to which nothing is routed, neither is hindered by a route that does not hinder the other. --/
theorem requireFree_congr {twin' : Twin} (hk : twin.persistedKeys = twin'.persistedKeys)
    (hid : ∀ key route, t.get? key = some route → route.twinId ≠ twin.id)
    (hid' : ∀ key route, t.get? key = some route → route.twinId ≠ twin'.id) :
    t.requireFree twin = t.requireFree twin' := by
  have taken : t.takenFrom twin.id = t.takenFrom twin'.id := by
    funext key
    unfold takenFrom
    cases hr : t.get? key with
    | none => rfl
    | some route => exact (bne_iff_ne.mpr (hid key route hr)).trans (bne_iff_ne.mpr (hid' key route hr)).symm
  unfold requireFree
  rw [hk, taken]

/-- No twin is listed without keys. -/
def Tight (t : RouteTable) : Prop := ∀ id, t.keysOf.get? id ≠ some []

theorem tight_empty : Tight empty := fun _ h => nomatch h

theorem Tight.insert (h : t.Tight) (twin : Twin) : (t.insert twin).2.Tight := by
  intro id
  unfold RouteTable.insert
  dsimp only
  split
  · rw [Table.get?_erase]
    split
    · simp
    · exact h id
  · rename_i hn
    rw [Table.get?_insert]
    split
    · simpa using hn
    · rename_i hid
      rw [Table.get?_erase_of_ne hid]
      exact h id

theorem Tight.erase (h : t.Tight) (id : String) : (t.erase id).2.Tight := by
  intro id'
  show (t.keysOf.erase id).get? id' ≠ _
  rw [Table.get?_erase]
  split
  · simp
  · exact h id'

theorem tight_ofTwins (notifyChannel : Option String) (twins : List Twin) : (ofTwins notifyChannel twins).Tight :=
  ofTwins_induction tight_empty fun _ twin _ h _ _ => h.insert twin

/-- A twin to which nothing is routed is not listed. --/
theorem Tight.keysOf_eq_none (h : t.Tight) (hc : t.Consistent) (hid : ∀ key route, t.get? key = some route →
    route.twinId ≠ id) : t.keysOf.get? id = none := by
  cases hk : t.keysOf.get? id with
  | none => rfl
  | some keys =>
    have none : keys = [] := by
      refine List.eq_nil_iff_forall_not_mem.mpr fun key hkey => ?_
      have held : key ∈ t.held id := by
        unfold held
        rw [hk]
        exact hkey
      obtain ⟨route, hr, hroute⟩ := (hc id key).mp held
      exact hid key route hr hroute
    exact absurd (none ▸ hk) (h id)

/-- Among routes that a table has grown by, dropping those of a twin is dropping their keys. --/
theorem dropRoutes_grown : ∀ {keys : List RouteKey} {base routes : Table RouteKey Route},
    base.Grown keys (·.twinId = id) routes → keys.foldl (dropRoute id) routes = base
  | [], _, _, h => h.eq_of_nil
  | key :: rest, base, routes, h => by
    have dropped : dropRoute id routes key = routes.erase key := by
      unfold dropRoute
      cases hr : routes.get? key with
      | none => exact (Table.erase_of_absent hr).symm
      | some route => exact if_pos (h.of_get? List.mem_cons_self hr)
    rw [List.foldl_cons, dropped]
    exact dropRoutes_grown h.erase

theorem addRoutes_grown (attributes : List Attribute) {base routes : Table RouteKey Route}
    (h : base.Grown keys (·.twinId = twin.id) routes) (hk : ∀ a ∈ attributes, a.key ∈ keys) :
    base.Grown keys (·.twinId = twin.id) (attributes.foldl (addRoute twin) routes) := by
  refine List.foldlRecOn attributes _ h fun routes h a ha => ?_
  exact h.insert (hk a ha) rfl

/-- A twin to which nothing was routed and whose keys were free is put in and taken out again. --/
theorem erase_insert (hc : t.Consistent) (ht : t.Tight) (hf : t.requireFree twin = .ok ())
    (hid : ∀ key route, t.get? key = some route → route.twinId ≠ twin.id) :
    ((t.insert twin).2.erase twin.id).2 = t := by
  have unlisted : t.keysOf.get? twin.id = none := ht.keysOf_eq_none hc hid
  have routes : (t.insert twin).2.routes = twin.persisted.foldl (addRoute twin) t.routes := by
    have none : RouteKey.difference [] twin.persistedKeys = [] := RouteKey.difference_eq_nil fun _ hk => nomatch hk
    unfold RouteTable.insert
    dsimp only
    rw [unlisted, Option.getD_none, none]
    rfl
  have keysOf : (t.insert twin).2.keysOf.erase twin.id = t.keysOf := by
    unfold RouteTable.insert
    dsimp only
    rw [Table.erase_of_absent unlisted]
    split
    · exact Table.erase_of_absent unlisted
    · exact Table.erase_insert unlisted
  have grown : t.routes.Grown (RouteKey.sorted twin.persistedKeys) (·.twinId = twin.id) (t.insert twin).2.routes := by
    rw [routes]
    refine addRoutes_grown twin.persisted (.refl fun key hkey => ?_) fun a ha => ?_
    · rw [RouteKey.mem_sorted] at hkey
      cases hr : t.routes.get? key with
      | none => rfl
      | some route => exact absurd (requireFree_eq_ok.mp hf key hkey route hr) (hid key route hr)
    · rw [RouteKey.mem_sorted]
      exact RouteKey.mem_setOf.mpr (List.mem_map_of_mem ha)
  have held : (t.insert twin).2.held twin.id = twin.persistedKeys := held_insert.trans (if_pos rfl)
  unfold RouteTable.erase
  dsimp only
  rw [keysOf, show ((t.insert twin).2.keysOf.get? twin.id).getD [] = twin.persistedKeys from held,
    dropRoutes_grown grown]

end RouteTable
end DigitalTwin
