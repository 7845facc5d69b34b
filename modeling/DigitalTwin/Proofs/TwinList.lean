import DigitalTwin.Proofs.Listing
import DigitalTwin.Proofs.TwinStore

/-! The twin store against a plain list. Whatever is asked of it, a store of two tables and a counter answers as a list
    of twins does to which twins are appended, in which they are replaced in place, and from which they are taken. -/

namespace DigitalTwin

/-- What is asked of stored twins. -/
inductive TwinCall where
  | save (twin : Twin)
  | update (twin : Twin)
  | find (id : String)
  | list (filter : TwinStore.Filter) (offset limit : Nat)
  | every
  | remove (id : String)

/-- What the answer is. -/
inductive TwinReply where
  | done
  | id (value : String)
  | twin (value : Twin)
  | page (value : Page Twin)
  | twins (value : List Twin)

/-- Whether an answer says that a twin was stored. -/
def TwinReply.isStored : Except ServiceError TwinReply → Bool
  | .ok (.id _) => true
  | _ => false

/-! ### A list that is asked -/

namespace TwinList

/-- Whether there is a twin with an id. -/
def has (l : List Twin) (id : String) : Bool := l.any (·.id = id)

def serve (l : List Twin) : TwinCall → Except ServiceError TwinReply × List Twin
  | .save twin => if has l twin.id then (.error .conflict, l) else (.ok (.id twin.id), l ++ [twin])
  | .update twin =>
    if has l twin.id then (.ok .done, l.map fun u => if u.id = twin.id then twin else u) else (.error .notFound, l)
  | .find id =>
    match l.find? (·.id = id) with
    | some twin => (.ok (.twin twin), l)
    | none => (.error .notFound, l)
  | .list filter offset limit =>
    let listing := l.filter fun twin => twin.Matches filter.owner filter.name filter.metadata
    (.ok (.page (.cutWords listing offset limit)), l)
  | .every => (.ok (.twins l), l)
  | .remove id => (.ok .done, l.filter (·.id ≠ id))

/-- The answers to calls, one after another, and the list behind them. -/
def serveAll (l : List Twin) : List TwinCall → List (Except ServiceError TwinReply) × List Twin
  | [] => ([], l)
  | call :: rest =>
    let (reply, l) := serve l call
    let (replies, l) := serveAll l rest
    (reply :: replies, l)

theorem has_eq_true {l : List Twin} {id : String} : has l id = true ↔ ∃ u ∈ l, u.id = id := by
  simp [has]

theorem has_eq_false {l : List Twin} {id : String} : has l id = false ↔ ∀ u ∈ l, u.id ≠ id := by
  simp [has]

end TwinList

/-! ### The store that is asked -/

namespace TwinStore

variable {s t : TwinStore} {l : List Twin} {twin : Twin}

def serve (s : TwinStore) : TwinCall → Except ServiceError TwinReply × TwinStore
  | .save twin =>
    match s.insert twin with
    | .ok t => (.ok (.id twin.id), t)
    | .error e => (.error e, s)
  | .update twin =>
    match s.replace twin with
    | .ok t => (.ok .done, t)
    | .error e => (.error e, s)
  | .find id => ((s.get id).map .twin, s)
  | .list filter offset limit => (.ok (.page (s.page filter offset limit)), s)
  | .every => (.ok (.twins s.toList), s)
  | .remove id => (.ok .done, s.erase id)

/-- The answers to calls, one after another, and the store behind them. -/
def serveAll (s : TwinStore) : List TwinCall → List (Except ServiceError TwinReply) × TwinStore
  | [] => ([], s)
  | call :: rest =>
    let (reply, s) := s.serve call
    let (replies, s) := s.serveAll rest
    (reply :: replies, s)

/-- The two tables of a store are inverse to each other on the ids and the numbers of its twins, and the counter is
    above all numbers. -/
structure Inverse (s : TwinStore) : Prop where
  number : ∀ id seq, s.seqOf.get? id = some seq ↔ ∃ twin, s.bySeq.lookup seq = some twin ∧ twin.id = id
  stored : ∀ seq twin, s.bySeq.lookup seq = some twin → s.seqOf.get? twin.id = some seq
  issued : ∀ seq twin, s.bySeq.lookup seq = some twin → seq < s.nextSeq
  ordered : (s.bySeq.map (·.1)).Pairwise (· < ·)
  /-- A twin is found by its id if and only if it is listed. -/
  found : ∀ id, s.get? id = s.toList.find? (·.id = id)
  distinct : (s.toList.map (·.id)).Nodup

theorem WellFormed.inverse (h : WellFormed s) : Inverse s where
  number id seq := by
    simp only [h.seqOf, lookup_eq_some h.sorted]
  stored seq twin ht := (h.seqOf twin.id seq).mpr ⟨twin, (lookup_eq_some h.sorted).mp ht, rfl⟩
  issued seq twin ht := h.issued _ ((lookup_eq_some h.sorted).mp ht)
  ordered := List.pairwise_map.mpr h.sorted
  found := h.get?_eq_find?
  distinct := h.nodup_ids

theorem nextSeq_insert (hi : s.insert twin = .ok t) : t.nextSeq = s.nextSeq + 1 := by
  unfold insert at hi
  split at hi
  · cases hi
  · cases hi
    rfl

theorem nextSeq_replace (hr : s.replace twin = .ok t) : t.nextSeq = s.nextSeq := by
  unfold replace at hr
  split at hr
  · cases hr
  · cases hr
    rfl

theorem nextSeq_erase (s : TwinStore) (id : String) : (s.erase id).nextSeq = s.nextSeq := by
  unfold erase
  split <;> rfl

/-- A store whose tables agree holds the twins of a list, in its order. -/
structure Holds (s : TwinStore) (l : List Twin) : Prop where
  wellFormed : WellFormed s
  toList : s.toList = l

namespace Holds

theorem empty : Holds .empty [] := ⟨wellFormed_empty, rfl⟩

/-- What a call comes to: the answer of the list, and a store that holds what the list is then. -/
structure Served (s : TwinStore) (l : List Twin) (call : TwinCall) : Prop where
  reply : (s.serve call).1 = (TwinList.serve l call).1
  holds : Holds (s.serve call).2 (TwinList.serve l call).2
  counted : (s.serve call).2.nextSeq = s.nextSeq + if TwinReply.isStored (s.serve call).1 then 1 else 0

theorem Served.of_eq {call : TwinCall} {reply : Except ServiceError TwinReply} {l' : List Twin}
    (store : s.serve call = (reply, t)) (list : TwinList.serve l call = (reply, l')) (holds : Holds t l')
    (counted : t.nextSeq = s.nextSeq + if TwinReply.isStored reply then 1 else 0) : Served s l call := by
  refine ⟨by rw [store, list], ?_, ?_⟩
  · rw [store, list]
    exact holds
  · rw [store]
    exact counted

theorem save (h : Holds s l) (twin : Twin) : Served s l (.save twin) := by
  obtain ⟨hw, rfl⟩ := h
  cases hi : s.insert twin with
  | ok t =>
    obtain ⟨ht, hl, fresh⟩ := insert_ok hw hi
    have free := TwinList.has_eq_false.mpr fresh
    have store : s.serve (.save twin) = (.ok (.id twin.id), t) := by simp only [serve, hi]
    have list : TwinList.serve s.toList (.save twin) = (.ok (.id twin.id), s.toList ++ [twin]) := by
      simp [TwinList.serve, free]
    exact .of_eq store list ⟨ht, hl⟩ (nextSeq_insert hi)
  | error e =>
    obtain ⟨rfl, taken⟩ := insert_error hw hi
    have occupied := TwinList.has_eq_true.mpr taken
    have store : s.serve (.save twin) = (.error .conflict, s) := by simp only [serve, hi]
    have list : TwinList.serve s.toList (.save twin) = (.error .conflict, s.toList) := by
      simp [TwinList.serve, occupied]
    exact .of_eq store list ⟨hw, rfl⟩ rfl

theorem update (h : Holds s l) (twin : Twin) : Served s l (.update twin) := by
  obtain ⟨hw, rfl⟩ := h
  cases hr : s.replace twin with
  | ok t =>
    obtain ⟨ht, hl, known⟩ := replace_ok hw hr
    have occupied := TwinList.has_eq_true.mpr known
    have store : s.serve (.update twin) = (.ok .done, t) := by simp only [serve, hr]
    have list : TwinList.serve s.toList (.update twin) =
        (.ok .done, s.toList.map fun u => if u.id = twin.id then twin else u) := by
      simp [TwinList.serve, occupied]
    exact .of_eq store list ⟨ht, hl⟩ (nextSeq_replace hr)
  | error e =>
    obtain ⟨rfl, missing⟩ := replace_error hw hr
    have free := TwinList.has_eq_false.mpr missing
    have store : s.serve (.update twin) = (.error .notFound, s) := by simp only [serve, hr]
    have list : TwinList.serve s.toList (.update twin) = (.error .notFound, s.toList) := by
      simp [TwinList.serve, free]
    exact .of_eq store list ⟨hw, rfl⟩ rfl

theorem find (h : Holds s l) (id : String) : Served s l (.find id) := by
  obtain ⟨hw, rfl⟩ := h
  have found := hw.get?_eq_find? id
  cases hf : s.toList.find? (·.id = id) with
  | some twin =>
    have store : s.serve (.find id) = (.ok (.twin twin), s) := by
      simp [serve, TwinStore.get, found, hf, Except.map]
    have list : TwinList.serve s.toList (.find id) = (.ok (.twin twin), s.toList) := by
      simp only [TwinList.serve, hf]
    exact .of_eq store list ⟨hw, rfl⟩ rfl
  | none =>
    have store : s.serve (.find id) = (.error .notFound, s) := by
      simp [serve, TwinStore.get, found, hf, Except.map]
    have list : TwinList.serve s.toList (.find id) = (.error .notFound, s.toList) := by
      simp only [TwinList.serve, hf]
    exact .of_eq store list ⟨hw, rfl⟩ rfl

/-- A page has the twins of the list that match. --/
theorem page_eq (h : Holds s l) (filter : Filter) (offset limit : Nat) : s.page filter offset limit =
    .cutWords (l.filter fun twin => twin.Matches filter.owner filter.name filter.metadata) offset limit := by
  unfold page
  rw [h.toList, filter_accepts_eq, Page.slice_eq_cutWords]

theorem list (h : Holds s l) (filter : Filter) (offset limit : Nat) : Served s l (.list filter offset limit) := by
  refine ⟨?_, h, rfl⟩
  show Except.ok (TwinReply.page (s.page filter offset limit)) = _
  rw [h.page_eq]
  rfl

theorem serve (h : Holds s l) (call : TwinCall) : Served s l call := by
  cases call with
  | save twin => exact h.save twin
  | update twin => exact h.update twin
  | find id => exact h.find id
  | list filter offset limit => exact h.list filter offset limit
  | every =>
    obtain ⟨hw, rfl⟩ := h
    exact ⟨rfl, ⟨hw, rfl⟩, rfl⟩
  | remove id =>
    obtain ⟨hw, rfl⟩ := h
    obtain ⟨he, hl⟩ := erase_toList hw id
    exact ⟨rfl, ⟨he, hl⟩, nextSeq_erase s id⟩

theorem serveAll (h : Holds s l) (calls : List TwinCall) :
    (s.serveAll calls).1 = (TwinList.serveAll l calls).1 ∧
      Holds (s.serveAll calls).2 (TwinList.serveAll l calls).2 ∧
      (s.serveAll calls).2.nextSeq = s.nextSeq + (s.serveAll calls).1.countP TwinReply.isStored := by
  induction calls generalizing s l with
  | nil => exact ⟨rfl, h, rfl⟩
  | cons call rest ih =>
    obtain ⟨reply, holds, counted⟩ := h.serve call
    obtain ⟨replies, holds', counted'⟩ := ih holds
    refine ⟨congrArg₂ List.cons reply replies, holds', ?_⟩
    show ((s.serve call).2.serveAll rest).2.nextSeq =
      s.nextSeq + ((s.serve call).1 :: ((s.serve call).2.serveAll rest).1).countP TwinReply.isStored
    rw [counted', counted, List.countP_cons]
    omega

end Holds

/-- Whatever calls are made of an empty store, in whatever order and with whatever twins: it answers as an empty list
    does and lists the same twins, no two with one id. A page has the matching twins of the list that are left when
    `offset` of them are dropped and `limit` are taken, as long as a word can count the twins, and their number for a
    total. The two tables of the store stay inverse to each other. The counter, which is above all numbers, has gone up
    once for each twin that was stored, so words of sixty-four bits are enough for 2 ^ 64 of them. --/
theorem serveAll_eq_list (calls : List TwinCall) :
    let s := (empty.serveAll calls).2
    let l := (TwinList.serveAll [] calls).2
    (empty.serveAll calls).1 = (TwinList.serveAll [] calls).1 ∧ s.toList = l ∧
      (∀ filter offset limit, l.length ≤ maxWord → s.page filter offset limit =
        .cut (l.filter fun twin => twin.Matches filter.owner filter.name filter.metadata) offset limit) ∧
      Inverse s ∧ s.nextSeq = (empty.serveAll calls).1.countP TwinReply.isStored := by
  intro s l
  obtain ⟨replies, holds, counted⟩ := Holds.empty.serveAll calls
  refine ⟨replies, holds.toList, fun filter offset limit hlen => ?_, holds.wellFormed.inverse,
    counted.trans (Nat.zero_add _)⟩
  rw [holds.page_eq, Page.cutWords_eq_cut ((List.length_filter_le _ _).trans hlen)]

/-- The first of three twins is taken out and stored again. It stands behind the others, and on the second place of
    a listing of its owner, who does not have the twin before it. --/
theorem serveAll_eq_list_stored_again :
    let twin (id owner : String) : Twin := ⟨id, owner, "pump", [], ⟨0, 0⟩, ⟨0, 0⟩, 0, []⟩
    let calls : List TwinCall :=
      [.save (twin "t" "ann"), .save (twin "u" "ann"), .save (twin "v" "bob"), .remove "t", .save (twin "t" "ann")]
    let s := (empty.serveAll calls).2
    s.toList = [twin "u" "ann", twin "v" "bob", twin "t" "ann"] ∧
      s.page ⟨"ann", none, none⟩ 1 5 = ⟨⟨2, 1, 5⟩, [twin "t" "ann"]⟩ ∧
      s.seqOf.get? "t" = some 3 ∧ s.nextSeq = 4 := by
  intro twin calls s
  obtain ⟨-, list, page, inverse, counted⟩ := serveAll_eq_list calls
  have fits : 3 ≤ maxWord := by decide
  exact ⟨list, page _ 1 5 fits, inverse.stored 3 (twin "t" "ann") rfl, counted⟩

end TwinStore
end DigitalTwin
