import DigitalTwin.LockTable
import DigitalTwin.Proofs.Table
import Mathlib.Data.Set.Card

/-! Locks as queues. The users of a key stand in a queue in the order in which they asked for it, whoever is first
    has the lock, and whoever goes leaves the queue. A lock table keeps of each queue its length, its head as the
    owner of a mutex and the others as those who wait for it, and it keeps nothing of an empty one. -/

namespace DigitalTwin

/-- What users do about the locks of keys. -/
inductive LockCall where
  | request (user key : String)
  | poll (user : String)
  | leave (user : String)
deriving DecidableEq, Repr

/-- Whose call it is. -/
def LockCall.user : LockCall → String
  | .request user _ => user
  | .poll user => user
  | .leave user => user

/-- Queues of users, and what each user knows. -/
structure LockQueues where
  /-- The users of a key in the order in which they asked for it. -/
  queue : String → List String
  /-- The key that a user asked for, and whether the user was first in its queue when it asked or was last polled. -/
  asked : String → Option (String × Bool)

namespace LockQueues

def empty : LockQueues := ⟨fun _ => [], fun _ => none⟩

/-- Whether a user is the first of those who use a key. -/
def isFirst (q : LockQueues) (key user : String) : Bool := (q.queue key).head? = some user

/-- A user who uses no key takes its place behind the others of one. -/
def request (q : LockQueues) (user key : String) : LockQueues :=
  match q.asked user with
  | some _ => q
  | none =>
    let q := { q with queue := Function.update q.queue key (q.queue key ++ [user]) }
    { q with asked := Function.update q.asked user (some (key, q.isFirst key user)) }

/-- A user looks whether it is first by now. -/
def poll (q : LockQueues) (user : String) : LockQueues :=
  match q.asked user with
  | some (key, _) => { q with asked := Function.update q.asked user (some (key, q.isFirst key user)) }
  | none => q

/-- A user leaves its queue, wherever it stands. -/
def leave (q : LockQueues) (user : String) : LockQueues :=
  match q.asked user with
  | some (key, _) =>
    { queue := Function.update q.queue key ((q.queue key).erase user)
      asked := Function.update q.asked user none }
  | none => q

/-- The queues behind a call. -/
def change (q : LockQueues) : LockCall → LockQueues
  | .request user key => q.request user key
  | .poll user => q.poll user
  | .leave user => q.leave user

/-- The queues behind a row of calls. -/
def changeAll (q : LockQueues) (calls : List LockCall) : LockQueues := calls.foldl change q

/-- What a user has: it holds its key if it is first and was so when it asked or was last polled. -/
def claim? (q : LockQueues) (user : String) : Option Claim :=
  (q.asked user).map fun (key, first) => if first && q.isFirst key user then .held else .waiting

/-! ### Queues and their users -/

/-- Everybody stands once in the queue of the key that it asked for and in no other, and who has been first is so. -/
structure Orderly (q : LockQueues) : Prop where
  nodup : ∀ key, (q.queue key).Nodup
  mem_iff : ∀ key user, user ∈ q.queue key ↔ ∃ first, q.asked user = some (key, first)
  first : ∀ key user, q.asked user = some (key, true) → (q.queue key).head? = some user

variable {q : LockQueues} {user key : String}

theorem orderly_empty : Orderly empty :=
  ⟨fun _ => List.nodup_nil, fun _ _ => by simp [empty], fun _ _ h => nomatch h⟩

namespace Orderly

theorem not_mem (h : q.Orderly) (ha : q.asked user = none) (key : String) : user ∉ q.queue key := by
  rw [h.mem_iff, ha]
  simp

/-- Queues stay orderly when a user comes or goes or is told its place, if the places of the others do not suffer. --/
theorem update (h : q.Orderly) {queue : String → List String} {told : Option (String × Bool)}
    (nodup : ∀ key, (queue key).Nodup)
    (mine : ∀ key, user ∈ queue key ↔ ∃ first, told = some (key, first))
    (others : ∀ key u, u ≠ user → (u ∈ queue key ↔ u ∈ q.queue key))
    (first : ∀ key, told = some (key, true) → (queue key).head? = some user)
    (heads : ∀ key u, u ≠ user → (q.queue key).head? = some u → (queue key).head? = some u) :
    Orderly ⟨queue, Function.update q.asked user told⟩ := by
  refine ⟨nodup, fun key u => ?_, fun key u hu => ?_⟩
  · by_cases hne : u = user
    · subst hne
      simpa using mine key
    · simpa [hne, h.mem_iff] using others key u hne
  · by_cases hne : u = user
    · subst hne
      exact first key (by simpa using hu)
    · exact heads key u hne (h.first key u (by simpa [hne] using hu))

theorem request (h : q.Orderly) (user key : String) : (q.request user key).Orderly := by
  unfold LockQueues.request
  split
  · exact h
  · rename_i ha
    have absent := h.not_mem ha
    refine h.update (fun k => ?_) (fun k => ?_) (fun k u hu => ?_) (fun k hk => ?_) fun k u hu head => ?_
    · by_cases hk : k = key
      · subst hk
        simpa [List.nodup_append] using ⟨h.nodup k, fun a hm => ne_of_mem_of_not_mem hm (absent k)⟩
      · simpa [hk] using h.nodup k
    · by_cases hk : k = key
      · simp [hk]
      · simp [hk, absent, Ne.symm hk]
    · by_cases hk : k = key
      · simp [hk, hu]
      · simp [hk]
    · obtain ⟨rfl, hf⟩ := Prod.mk.inj (Option.some.inj hk)
      simpa [isFirst] using hf
    · by_cases hk : k = key
      · subst hk
        simp [List.head?_append, head]
      · simpa [hk] using head

theorem poll (h : q.Orderly) (user : String) : (q.poll user).Orderly := by
  unfold LockQueues.poll
  split
  · rename_i key first ha
    refine h.update h.nodup (fun k => ?_) (fun _ _ _ => Iff.rfl) (fun k hk => ?_) fun _ _ _ head => head
    · simp [h.mem_iff, ha]
    · obtain ⟨rfl, hf⟩ := Prod.mk.inj (Option.some.inj hk)
      simpa [isFirst] using hf
  · exact h

theorem leave (h : q.Orderly) (user : String) : (q.leave user).Orderly := by
  unfold LockQueues.leave
  split
  · rename_i key first ha
    refine h.update (fun k => ?_) (fun k => ?_) (fun k u hu => ?_) (fun _ hk => nomatch hk) fun k u hu head => ?_
    · by_cases hk : k = key
      · subst hk
        simpa using (h.nodup k).erase user
      · simpa [hk] using h.nodup k
    · by_cases hk : k = key
      · simp [hk, (h.nodup key).mem_erase_iff]
      · simp [hk, h.mem_iff, ha, Ne.symm hk]
    · by_cases hk : k = key
      · subst hk
        simp [hu, (h.nodup k).mem_erase_iff]
      · simp [hk]
    · by_cases hk : k = key
      · subst hk
        obtain ⟨rest, hq⟩ := List.head?_eq_some_iff.mp head
        simp [hq, hu]
      · simpa [hk] using head
  · exact h

theorem queue_leave (h : q.Orderly) (hm : user ∈ q.queue key) :
    (q.leave user).queue key = (q.queue key).erase user := by
  obtain ⟨first, ha⟩ := (h.mem_iff key user).mp hm
  unfold LockQueues.leave
  simp [ha]

/-- A queue is used up when the last of its users leaves. --/
theorem queue_change_eq_nil (h : q.Orderly) (hne : q.queue key ≠ []) (call : LockCall) :
    (q.change call).queue key = [] ↔ ∃ user, call = .leave user ∧ q.queue key = [user] := by
  constructor
  · intro hnil
    cases call with
    | request user k =>
      have emptied : (q.request user k).queue key = [] := hnil
      unfold LockQueues.request at emptied
      split at emptied
      · exact absurd emptied hne
      · by_cases hk : key = k
        · subst hk
          simp at emptied
        · simp [hk, hne] at emptied
    | poll user =>
      have emptied : (q.poll user).queue key = [] := hnil
      unfold LockQueues.poll at emptied
      split at emptied <;> exact absurd emptied hne
    | leave user =>
      refine ⟨user, rfl, ?_⟩
      by_cases hm : user ∈ q.queue key
      · have left : (q.queue key).erase user = [] := (h.queue_leave hm).symm.trans hnil
        exact (List.erase_eq_nil_iff.mp left).resolve_left hne
      · have emptied : (q.leave user).queue key = [] := hnil
        unfold LockQueues.leave at emptied
        split at emptied
        · rename_i k first ha
          by_cases hk : key = k
          · subst hk
            exact absurd ((h.mem_iff key user).mpr ⟨first, ha⟩) hm
          · simp [hk, hne] at emptied
        · exact absurd emptied hne
  · rintro ⟨user, rfl, hq⟩
    show (q.leave user).queue key = []
    rw [h.queue_leave (hq ▸ List.mem_singleton_self user), hq, List.erase_cons_head]

end Orderly
end LockQueues

/-! ### The slot of a queue -/

namespace Slot

variable {queue : List String} {user : String} {slot : Slot}

/-- What is kept of a queue: the mutex belongs to the first user, and the others wait for it. -/
def ofQueue : List String → Option Slot
  | [] => none
  | first :: rest => some ⟨rest.length + 1, ⟨some first, rest⟩⟩

theorem ofQueue_eq_none : ofQueue queue = none ↔ queue = [] := by
  cases queue <;> simp [ofQueue]

theorem ofQueue_eq_some : ofQueue queue = some slot ↔
    0 < slot.users ∧ slot.users = queue.length ∧ slot.mutex = ⟨queue.head?, queue.tail⟩ := by
  obtain ⟨users, mutex⟩ := slot
  cases queue with
  | nil =>
    simp only [ofQueue, reduceCtorEq, List.length_nil, false_iff, not_and]
    exact fun hpos hzero => absurd hzero (Nat.ne_of_gt hpos)
  | cons first rest =>
    simp only [ofQueue, Option.some.injEq, Slot.mk.injEq, List.length_cons, List.head?_cons, List.tail_cons]
    constructor
    · rintro ⟨rfl, rfl⟩
      exact ⟨Nat.succ_pos _, rfl, rfl⟩
    · rintro ⟨-, rfl, rfl⟩
      exact ⟨rfl, rfl⟩

theorem ofQueue_append (queue : List String) (user : String) :
    let slot := (ofQueue queue).getD ⟨0, .free⟩
    ofQueue (queue ++ [user]) = some ⟨slot.users + 1, slot.mutex.request user⟩ := by
  cases queue with
  | nil => rfl
  | cons first rest => simp [ofQueue, Mutex.request]

theorem claimOf_eq (h : ofQueue queue = some slot) :
    slot.claimOf user = if queue.head? = some user then .held else .waiting := by
  obtain ⟨-, -, hm⟩ := ofQueue_eq_some.mp h
  rw [claimOf, hm]

/-- Without a user, wherever it stood, the slot is that of the queue without the user. --/
theorem ofQueue_erase (h : ofQueue queue = some slot) (hm : user ∈ queue) :
    ofQueue (queue.erase user) =
      if slot.users - 1 = 0 then none else some ⟨slot.users - 1, slot.mutex.leave user⟩ := by
  cases queue with
  | nil => cases hm
  | cons first rest =>
    cases h
    by_cases hf : first = user
    · -- The next in the queue becomes the owner.
      subst hf
      cases rest <;> simp [ofQueue, Mutex.leave]
    · have hr : user ∈ rest := (List.mem_cons.mp hm).resolve_left (Ne.symm hf)
      have hl : 0 < rest.length := List.length_pos_of_mem hr
      have length : (rest.erase user).length + 1 = rest.length := by
        rw [List.length_erase_of_mem hr]
        omega
      simp [ofQueue, Mutex.leave, hf, length, Nat.ne_of_gt hl]

end Slot

namespace LockTable

variable {l : LockTable} {q : LockQueues} {user key : String}

/-- The table behind a call. -/
def change (l : LockTable) : LockCall → LockTable
  | .request user key => l.request user key
  | .poll user => l.poll user
  | .leave user => l.leave user

/-- The table behind a row of calls. -/
def changeAll (l : LockTable) (calls : List LockCall) : LockTable := calls.foldl change l

/-! ### A table that keeps queues -/

/-- A table has the slot of each queue, and the claims that tell what the users know. -/
structure Keeps (l : LockTable) (q : LockQueues) : Prop where
  orderly : q.Orderly
  slots : ∀ key, l.slots.get? key = Slot.ofQueue (q.queue key)
  claims : ∀ user, l.claims.get? user = (q.asked user).map fun (key, first) => (key, if first then .held else .waiting)
  nodup : l.slots.keys.Nodup

namespace Keeps

theorem empty : Keeps .empty .empty := ⟨LockQueues.orderly_empty, fun _ => rfl, fun _ => rfl, List.nodup_nil⟩

theorem exists_slot (h : Keeps l q) (hm : user ∈ q.queue key) : ∃ slot, l.slots.get? key = some slot := by
  rw [← Option.ne_none_iff_exists', h.slots, ne_eq, Slot.ofQueue_eq_none]
  exact List.ne_nil_of_mem hm

theorem request (h : Keeps l q) (user key : String) : Keeps (l.request user key) (q.request user key) := by
  have orderly := h.orderly.request user key
  have hc := h.claims user
  unfold LockTable.request
  unfold LockQueues.request at orderly ⊢
  cases ha : q.asked user with
  | some asked =>
    rw [ha, Option.map_some] at hc
    rw [hc]
    exact h
  | none =>
    rw [ha, Option.map_none] at hc
    rw [ha] at orderly
    rw [hc]
    have grown := Slot.ofQueue_append (q.queue key) user
    rw [← h.slots] at grown
    refine ⟨orderly, fun k => ?_, fun u => ?_, Table.nodup_keys_insert h.nodup key _⟩
    · rw [Table.get?_insert]
      by_cases hk : k = key
      · subst hk
        simp [grown]
      · simp [hk, h.slots]
    · rw [Table.get?_insert, Slot.claimOf_eq grown]
      by_cases hu : u = user
      · subst hu
        simp [LockQueues.isFirst]
      · simp [hu, h.claims]

theorem poll (h : Keeps l q) (user : String) : Keeps (l.poll user) (q.poll user) := by
  have orderly := h.orderly.poll user
  have hc := h.claims user
  unfold LockTable.poll
  unfold LockQueues.poll at orderly ⊢
  cases ha : q.asked user with
  | none =>
    rw [ha, Option.map_none] at hc
    rw [hc]
    exact h
  | some asked =>
    obtain ⟨key, first⟩ := asked
    rw [ha, Option.map_some] at hc
    rw [ha] at orderly
    rw [hc]
    obtain ⟨slot, hs⟩ := h.exists_slot ((h.orderly.mem_iff key user).mpr ⟨first, ha⟩)
    cases first with
    | true =>
      -- A holder is first and stays so.
      have head := h.orderly.first key user ha
      refine ⟨orderly, h.slots, fun u => ?_, h.nodup⟩
      by_cases hu : u = user
      · subst hu
        simp [LockQueues.isFirst, head, hc]
      · simp [hu, h.claims]
    | false =>
      simp only [Bool.false_eq_true, if_false, hs]
      refine ⟨orderly, h.slots, fun u => ?_, h.nodup⟩
      rw [Table.get?_insert, Slot.claimOf_eq ((h.slots key).symm.trans hs)]
      by_cases hu : u = user
      · subst hu
        simp [LockQueues.isFirst]
      · simp [hu, h.claims]

theorem leave (h : Keeps l q) (user : String) : Keeps (l.leave user) (q.leave user) := by
  have orderly := h.orderly.leave user
  have hc := h.claims user
  unfold LockTable.leave
  unfold LockQueues.leave at orderly ⊢
  cases ha : q.asked user with
  | none =>
    rw [ha, Option.map_none] at hc
    rw [hc]
    exact h
  | some asked =>
    obtain ⟨key, first⟩ := asked
    rw [ha, Option.map_some] at hc
    rw [ha] at orderly
    rw [hc]
    dsimp only
    have hm : user ∈ q.queue key := (h.orderly.mem_iff key user).mpr ⟨first, ha⟩
    obtain ⟨slot, hs⟩ := h.exists_slot hm
    have left := Slot.ofQueue_erase ((h.slots key).symm.trans hs) hm
    have claims : ∀ u, (l.claims.erase user).get? u = ((Function.update q.asked user none) u).map
        fun (key, first) => (key, if first then .held else .waiting) := by
      intro u
      rw [Table.get?_erase]
      by_cases hu : u = user
      · simp [hu]
      · simp [hu, h.claims]
    rw [hs]
    dsimp only
    split
    · rename_i hzero
      rw [if_pos hzero] at left
      refine ⟨orderly, fun k => ?_, claims, Table.nodup_keys_erase h.nodup key⟩
      rw [Table.get?_erase]
      by_cases hk : k = key
      · subst hk
        simp [left]
      · simp [hk, h.slots]
    · rename_i hzero
      rw [if_neg hzero] at left
      refine ⟨orderly, fun k => ?_, claims, Table.nodup_keys_insert h.nodup key _⟩
      rw [Table.get?_insert]
      by_cases hk : k = key
      · subst hk
        simp [left]
      · simp [hk, h.slots]

theorem change (h : Keeps l q) (call : LockCall) : Keeps (l.change call) (q.change call) := by
  cases call with
  | request user key => exact h.request user key
  | poll user => exact h.poll user
  | leave user => exact h.leave user

theorem changeAll (h : Keeps l q) (calls : List LockCall) : Keeps (l.changeAll calls) (q.changeAll calls) := by
  induction calls generalizing l q with
  | nil => exact h
  | cons call rest ih => exact ih (h.change call)

theorem claim?_eq (h : Keeps l q) (user : String) : l.claim? user = q.claim? user := by
  unfold LockTable.claim? LockQueues.claim?
  rw [h.claims]
  cases ha : q.asked user with
  | none => rfl
  | some asked =>
    obtain ⟨key, first⟩ := asked
    cases first with
    | false => rfl
    | true =>
      have head := h.orderly.first key user ha
      simp [LockQueues.isFirst, head]

/-- Who holds a key is the first of its queue. --/
theorem head_of_held (h : Keeps l q) (hc : l.claims.get? user = some (key, .held)) :
    (q.queue key).head? = some user := by
  rw [h.claims] at hc
  obtain ⟨⟨k, first⟩, ha, hh⟩ := Option.map_eq_some_iff.mp hc
  cases first <;> cases hh
  exact h.orderly.first key user ha

/-- The first of a queue holds its key as soon as it looks. --/
theorem held_of_head (h : Keeps l q) (hq : (q.queue key).head? = some user) :
    (l.poll user).claims.get? user = some (key, .held) := by
  obtain ⟨first, ha⟩ := (h.orderly.mem_iff key user).mp (List.mem_of_head? hq)
  have told : (q.poll user).asked user = some (key, true) := by
    unfold LockQueues.poll
    simp [ha, LockQueues.isFirst, hq]
  rw [(h.poll user).claims, told]
  rfl

theorem size_eq (h : Keeps l q) : (l.size : ℕ∞) = {key | q.queue key ≠ []}.encard := by
  have used : {key | q.queue key ≠ []} = (l.slots.keys.toFinset : Set String) := by
    ext key
    rw [Set.mem_ofPred_eq, List.coe_toFinset, Set.mem_ofPred_eq, Table.mem_keys, h.slots, ← Option.ne_none_iff_exists',
      ne_eq, ne_eq, Slot.ofQueue_eq_none]
  have length : l.size = l.slots.keys.length := (List.length_map _).symm
  rw [used, Set.encard_coe_eq_coe_finsetCard, List.toFinset_card_of_nodup h.nodup, length]

end Keeps

/-! ### What a call leaves alone -/

/-- The key that a call is about. -/
def keyOf? (l : LockTable) : LockCall → Option String
  | .request _ key => some key
  | .poll user => (l.claims.get? user).map (·.1)
  | .leave user => (l.claims.get? user).map (·.1)

theorem slots_change_of_ne {call : LockCall} (h : l.keyOf? call ≠ some key) :
    (l.change call).slots.get? key = l.slots.get? key := by
  cases call with
  | request user k =>
    have hk : key ≠ k := fun hk => h (congrArg some hk.symm)
    show (l.request user k).slots.get? key = _
    unfold LockTable.request
    split
    · rfl
    · exact Table.get?_insert_of_ne hk
  | poll user =>
    show (l.poll user).slots.get? key = _
    unfold LockTable.poll
    split
    · split <;> rfl
    · rfl
  | leave user =>
    have other : (l.claims.get? user).map (·.1) ≠ some key := h
    show (l.leave user).slots.get? key = _
    unfold LockTable.leave
    split
    · rfl
    · rename_i k claim hc
      have hk : key ≠ k := fun hk => other (by rw [hc, hk]; rfl)
      dsimp only
      split
      · rfl
      · split
        · exact Table.get?_erase_of_ne hk
        · exact Table.get?_insert_of_ne hk

theorem claims_change_of_ne {call : LockCall} (h : user ≠ call.user) :
    (l.change call).claims.get? user = l.claims.get? user := by
  cases call with
  | request u k =>
    show (l.request u k).claims.get? user = _
    unfold LockTable.request
    split
    · rfl
    · exact Table.get?_insert_of_ne h
  | poll u =>
    show (l.poll u).claims.get? user = _
    unfold LockTable.poll
    split
    · split
      · exact Table.get?_insert_of_ne h
      · rfl
    · rfl
  | leave u =>
    show (l.leave u).claims.get? user = _
    unfold LockTable.leave
    split
    · rfl
    · dsimp only
      split
      · exact Table.get?_erase_of_ne h
      · split <;> exact Table.get?_erase_of_ne h

/-! ### Fairness -/

/-- A table does what queues do. -/
structure Fair (l : LockTable) (q : LockQueues) : Prop where
  /-- Each user has what its queue gives it. -/
  claims : ∀ user, l.claim? user = q.claim? user
  /-- As many keys are in use as there are queues with somebody in them. -/
  size : (l.size : ℕ∞) = {key | q.queue key ≠ []}.encard
  /-- Nobody holds a key beside another. -/
  exclusive : ∀ key user user', l.claims.get? user = some (key, .held) → l.claims.get? user' = some (key, .held) →
    user = user'
  /-- Who is first has the lock, whether or not it has noticed, and when it goes, the next in the queue has it. -/
  granted : ∀ key user, (q.queue key).head? = some user → (l.poll user).claims.get? user = some (key, .held)
  handedOn : ∀ key user next rest, q.queue key = user :: next :: rest →
    ((l.leave user).poll next).claims.get? next = some (key, .held)
  /-- A slot counts the users in its queue, and belongs to the first of them. -/
  users : ∀ key slot, l.slots.get? key = some slot →
    0 < slot.users ∧ slot.users = (q.queue key).length ∧ slot.mutex = ⟨(q.queue key).head?, (q.queue key).tail⟩
  /-- A slot is removed when its last user goes, with the mutex free, and at no other time. -/
  removed : ∀ call key slot, l.slots.get? key = some slot →
    ((l.change call).slots.get? key = none ↔
      ∃ user, call = .leave user ∧ q.queue key = [user] ∧ slot.mutex.leave user = .free)
  /-- A call leaves the slots of other keys and the claims of other users as they are. -/
  apart : ∀ call key, l.keyOf? call ≠ some key → (l.change call).slots.get? key = l.slots.get? key
  others : ∀ call user, user ≠ call.user → (l.change call).claims.get? user = l.claims.get? user

theorem Keeps.fair (h : Keeps l q) : Fair l q where
  claims := h.claim?_eq
  size := h.size_eq
  exclusive key user user' hu hu' := Option.some.inj ((h.head_of_held hu).symm.trans (h.head_of_held hu'))
  granted key user hq := h.held_of_head hq
  handedOn key user next rest hq := by
    have left : (q.leave user).queue key = next :: rest := by
      rw [h.orderly.queue_leave (hq ▸ List.mem_cons_self), hq, List.erase_cons_head]
    exact (h.leave user).held_of_head (by rw [left, List.head?_cons])
  users key slot hs := Slot.ofQueue_eq_some.mp ((h.slots key).symm.trans hs)
  removed call key slot hs := by
    have hs' : Slot.ofQueue (q.queue key) = some slot := (h.slots key).symm.trans hs
    obtain ⟨-, -, mutex⟩ := Slot.ofQueue_eq_some.mp hs'
    have hne : q.queue key ≠ [] := fun hnil => by
      rw [hnil] at hs'
      cases hs'
    rw [(h.change call).slots, Slot.ofQueue_eq_none, h.orderly.queue_change_eq_nil hne]
    refine exists_congr fun user => and_congr_right fun _ => ⟨fun hq => ⟨hq, ?_⟩, And.left⟩
    rw [mutex, hq]
    simp [Mutex.leave, Mutex.free]
  apart call key hk := slots_change_of_ne hk
  others call user hu := claims_change_of_ne hu

/-- Whatever users ask for, look for and give up, in whatever order: the lock table does what queues of them do. --/
theorem changeAll_fair (calls : List LockCall) : Fair (empty.changeAll calls) (LockQueues.empty.changeAll calls) :=
  (Keeps.empty.changeAll calls).fair

/-- The second of three users was granted the lock and goes without having noticed. The third has it then. --/
example :
    let calls : List LockCall := [.request "a" "k", .request "b" "k", .request "c" "k", .leave "a", .leave "b"]
    let l := empty.changeAll calls
    l.claim? "c" = some .waiting ∧ l.slots.get? "k" = some ⟨1, ⟨some "c", []⟩⟩ ∧
      (l.poll "c").claim? "c" = some .held := by
  decide

end LockTable
end DigitalTwin
