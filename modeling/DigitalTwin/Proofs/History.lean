import DigitalTwin.Proofs.Effect
import DigitalTwin.Proofs.JsonValue
import Mathlib.Algebra.GroupWithZero.Nat
import Mathlib.Data.List.Induction

/-! Histories of states under failures. However batches are cut off, twins removed and hubs restarted, the
    states of a twin are numbered without a gap, each is the one before it with one key set by a record
    that was routed to the twin, and none that is stored is ever touched again. -/

namespace DigitalTwin

/-! ### Numbers -/

/-- Counting words goes round. --/
theorem nextWord_mod (n : Nat) : nextWord (n % (maxWord + 1)) = (n + 1) % (maxWord + 1) := by
  have hlt : n % (maxWord + 1) < maxWord + 1 := Nat.mod_lt n (Nat.succ_pos maxWord)
  have one : 1 % (maxWord + 1) = 1 := Nat.mod_eq_of_lt (by decide)
  rw [Nat.add_mod n 1, one]
  unfold nextWord
  split
  · rename_i h
    exact (Nat.mod_eq_of_lt (Nat.succ_lt_succ h)).symm
  · rename_i h
    have full : n % (maxWord + 1) = maxWord := by omega
    rw [full, Nat.mod_self]

/-! ### Places -/

/-- What is in a list with one behind it was there or is the one behind it. --/
theorem getElem?_concat {α : Type} {l : List α} {a behind : α} {i : Nat} (h : (l ++ [behind])[i]? = some a) :
    l[i]? = some a ∨ i = l.length ∧ a = behind := by
  rcases Nat.lt_trichotomy i l.length with hlt | rfl | hgt
  · rw [List.getElem?_append_left hlt] at h
    exact Or.inl h
  · rw [List.getElem?_concat_length] at h
    exact Or.inr ⟨rfl, (Option.some.inj h).symm⟩
  · rw [List.getElem?_eq_none (by rw [List.length_append, List.length_singleton]; omega)] at h
    cases h

namespace Hub

variable {hub hub' : Hub} {clock : Clock} {op : Operation} {id : String} {sets sets' : Nat → String → Json → Prop}
  {states : List State}

/-! ### Chains -/

/-- The states of a twin, each with its number, and each but the first made of the one before it by setting a
    key to a value that counts for its place. -/
structure Chain (id : String) (sets : Nat → String → Json → Prop) (states : List State) : Prop where
  twinId : ∀ state ∈ states, state.twinId = id
  number : ∀ i state, states[i]? = some state → state.id = i % (maxWord + 1)
  first : ∀ state, states[0]? = some state → ∃ name value, sets 0 name value ∧ state.payload = [(name, value)]
  next : ∀ i before after, states[i]? = some before → states[i + 1]? = some after →
    ∃ name value, sets (i + 1) name value ∧ after.payload = Json.insertField name value before.payload

namespace Chain

theorem nil : Chain id sets [] :=
  ⟨fun _ h => (nomatch h), fun _ _ h => (nomatch h), fun _ h => (nomatch h), fun _ _ _ h => (nomatch h)⟩

theorem mono (h : Chain id sets states) (hsets : ∀ i name value, sets i name value → sets' i name value) :
    Chain id sets' states where
  twinId := h.twinId
  number := h.number
  first state hs := by
    obtain ⟨name, value, hset, hp⟩ := h.first state hs
    exact ⟨name, value, hsets 0 name value hset, hp⟩
  next i before after hb ha := by
    obtain ⟨name, value, hset, hp⟩ := h.next i before after hb ha
    exact ⟨name, value, hsets (i + 1) name value hset, hp⟩

/-- The number of a snapshot is its place behind the states that it goes on from. --/
theorem snapshot_id (h : Chain id sets states) (route : Route) (now : Instant) (m : Senml.Measurement) :
    (Hub.snapshot route now states.getLast? m).id = states.length % (maxWord + 1) := by
  unfold Hub.snapshot
  rw [List.getLast?_eq_getElem?]
  cases hl : states[states.length - 1]? with
  | none =>
    have empty : states.length = 0 := by
      have := List.getElem?_eq_none_iff.mp hl
      omega
    rw [empty, Nat.zero_mod]
  | some last =>
    obtain ⟨hlt, -⟩ := List.getElem?_eq_some_iff.mp hl
    have one : states.length - 1 + 1 = states.length := by omega
    dsimp only
    rw [h.number _ last hl, nextWord_mod, one]

/-- The snapshot of a measurement goes on where the states end. --/
theorem snapshot (h : Chain id sets states) {route : Route} {m : Senml.Measurement} (now : Instant)
    (hid : route.twinId = id) (hset : sets states.length route.routed.name m.value) :
    Chain id sets (states ++ [Hub.snapshot route now states.getLast? m]) := by
  refine ⟨fun state hs => ?_, fun i state hs => ?_, fun state hs => ?_, fun i before after hb ha => ?_⟩
  · rcases List.mem_append.mp hs with hs | hs
    · exact h.twinId state hs
    · rw [List.mem_singleton.mp hs]
      exact hid
  · rcases getElem?_concat hs with hs | ⟨rfl, rfl⟩
    · exact h.number i state hs
    · exact h.snapshot_id route now m
  · rcases getElem?_concat hs with hs | ⟨hempty, rfl⟩
    · exact h.first state hs
    · refine ⟨route.routed.name, m.value, hempty ▸ hset, ?_⟩
      rw [List.eq_nil_of_length_eq_zero hempty.symm]
      rfl
  · rcases getElem?_concat ha with ha | ⟨hlen, rfl⟩
    · rw [List.getElem?_append_left (by have := (List.getElem?_eq_some_iff.mp ha).1; omega)] at hb
      exact h.next i before after hb ha
    · refine ⟨route.routed.name, m.value, hlen ▸ hset, ?_⟩
      rw [List.getElem?_append_left (by omega)] at hb
      have last : states.getLast? = some before := by
        rw [List.getLast?_eq_getElem?, ← hlen, Nat.add_sub_cancel]
        exact hb
      unfold Hub.snapshot
      rw [last]
      rfl

/-- So do the snapshots of measurements, one behind the other. --/
theorem snapshots (h : Chain id sets states) {route : Route} (clock : Clock) (ms : List Senml.Measurement) (n : Nat)
    (hid : route.twinId = id)
    (hset : ∀ k m, ms[k]? = some m → sets (states.length + k) route.routed.name m.value) :
    Chain id sets (states ++ Hub.snapshots route clock n states.getLast? ms) := by
  induction ms generalizing n states with
  | nil =>
    rw [Hub.snapshots, List.append_nil]
    exact h
  | cons m rest ih =>
    have longer := h.snapshot (clock.record n) hid (hset 0 m rfl)
    have others := ih longer (n + 1) fun k m' hk => by
      rw [List.length_append, List.length_singleton, Nat.add_assoc, Nat.add_comm 1 k]
      exact hset (k + 1) m' hk
    rw [List.getLast?_concat, List.append_assoc] at others
    exact others

end Chain

/-! ### What one operation adds -/

namespace Effects

/-- No operation changes a stored state, moves it or drops it. --/
theorem history_prefix (row : Effects clock op hub hub') (id : String) :
    hub.states.history id <+: hub'.states.history id := by
  refine row.keeps (P := fun h => hub.states.history id <+: h.states.history id) List.prefix_rfl fun h h' he hp => ?_
  have appended : ∀ state, hub.states.history id <+: (h.states.append state).history id := by
    intro state
    rw [StateStore.history_append]
    split
    · exact hp.trans (List.prefix_append _ _)
    · exact hp
  cases he with
  | transport same => exact same.states ▸ hp
  | record => exact appended _
  | seedState => exact appended _
  | issue | add | update | remove | restore | restart | seedTwin => exact hp

/-- Only messages add states, unless one is put into the store directly. --/
theorem states_eq (row : Effects clock op hub hub') (hseed : ∀ state, op ≠ .seedState state) (hm : op.messages = []) :
    hub'.states = hub.states := by
  refine row.keeps (P := fun h => h.states = hub.states) rfl fun h h' he hs => ?_
  cases he with
  | transport same => exact same.states.trans hs
  | record hm' =>
    rw [hm] at hm'
    cases hm'
  | seedState hop => exact absurd hop (hseed _)
  | issue | add | update | remove | restore | restart | seedTwin => exact hs

end Effects

theorem follow_history_prefix (hq : Quiet hub) (turns : List Turn) (id : String) :
    hub.states.history id <+: (hub.follow turns).states.history id :=
  follow_induction (P := fun h => hub.states.history id <+: h.states.history id) hq List.prefix_rfl
    fun _ _ _ _ he hp => hp.trans (Effects.history_prefix (.single he) id)

/-! ### Calls that save states -/

/-- A call that saves the states of a message, and the hub that it finds. -/
structure SaveCall where
  clock : Clock
  hub : Hub
  message : Message

namespace SaveCall

/-- What the call comes to. -/
def result (c : SaveCall) : Except ServiceError Nat := (outcome (saveStates c.clock c.message) c.hub).1

/-- The count that the call returns, if it succeeds. -/
def count (c : SaveCall) : Nat :=
  match c.result with
  | .ok n => n
  | .error _ => 0

/-- Whether the key of the message is routed to a twin. -/
def isRoutedTo (id : String) (c : SaveCall) : Bool :=
  match c.hub.routes.get? c.message.key with
  | some route => route.twinId = id
  | none => false

/-- How many records of the message become states: those before the first whose state cannot be saved. -/
def stored (c : SaveCall) : Nat :=
  match c.hub.routes.get? c.message.key, Senml.decode c.message.payload c.clock.start,
    c.hub.faults.outcome? .lastState 0 with
  | some _, .ok ms, none => (List.range ms.length).findIdx fun k => (c.hub.faults.outcome? .saveState k).isSome
  | _, _, _ => 0

/-- The k-th record of the message gives a value to an attribute of a twin: that on which the key of the message
    is routed to the twin. -/
def Measures (c : SaveCall) (k : Nat) (id name : String) (value : Json) : Prop :=
  ∃ route ms m, c.hub.routes.get? c.message.key = some route ∧ route.twinId = id ∧ route.routed.name = name ∧
    Senml.decode c.message.payload c.clock.start = .ok ms ∧ ms[k]? = some m ∧ m.value = value

/-- One of the saves of states that the call makes fails. -/
def SaveFails (c : SaveCall) : Prop :=
  ∃ route ms i, c.hub.routes.get? c.message.key = some route ∧
    Senml.decode c.message.payload c.clock.start = .ok ms ∧ c.hub.faults.outcome? .lastState 0 = none ∧
    i < ms.length ∧ c.hub.faults.outcome? .saveState i ≠ none

end SaveCall

/-- The calls that save states one after another. -/
def saveCallsOf (clock : Clock) : List Message → Hub → List SaveCall
  | [], _ => []
  | m :: rest, hub => ⟨clock, hub, m⟩ :: saveCallsOf clock rest (outcome (saveStates clock m) hub).2

/-- The calls that save states in an operation. A message that a device publishes is one if it is subscribed. -/
def saveCalls (clock : Clock) (op : Operation) (hub : Hub) : List SaveCall :=
  match op with
  | .save m => [⟨clock, hub, m⟩]
  | .saveAll ms => saveCallsOf clock ms hub
  | .receive m => if hub.broker.handlers.contains m.key then [⟨clock, hub, m⟩] else []
  | _ => []

/-- The calls that save states in a run. -/
def saveCallsIn : List Turn → Hub → List SaveCall
  | [], _ => []
  | t :: rest, hub => saveCalls t.clock t.op { hub with faults := t.faults } ++ saveCallsIn rest (hub.turn t).2

/-- What the calls to a twin return, added up. -/
def savedCount (id : String) (calls : List SaveCall) : Nat := ((calls.filter (·.isRoutedTo id)).map (·.count)).sum

/-- The records that become states of a twin, each with the call that saves it, in the order of their states. -/
def storedRecords (id : String) (calls : List SaveCall) : List (SaveCall × Nat) :=
  (calls.filter (·.isRoutedTo id)).flatMap fun c => (List.range c.stored).map fun k => (c, k)

theorem storedRecords_append (id : String) (calls more : List SaveCall) :
    storedRecords id (calls ++ more) = storedRecords id calls ++ storedRecords id more := by
  simp [storedRecords]

theorem storedRecords_singleton (id : String) (c : SaveCall) :
    storedRecords id [c] = if c.isRoutedTo id then (List.range c.stored).map fun k => (c, k) else [] := by
  cases h : c.isRoutedTo id <;> simp [storedRecords, h]

/-! ### What a call stores -/

namespace SaveCall

variable {c : SaveCall} {route : Route} {ms : List Senml.Measurement}

theorem stored_le (hd : Senml.decode c.message.payload c.clock.start = .ok ms) : c.stored ≤ ms.length := by
  unfold stored
  rw [hd]
  split
  · rename_i heq _
    cases heq
    exact Nat.le_trans List.findIdx_le_length (Nat.le_of_eq List.length_range)
  · exact Nat.zero_le _

theorem stored_of_spared (hr : c.hub.routes.get? c.message.key = some route)
    (hd : Senml.decode c.message.payload c.clock.start = .ok ms) (hl : c.hub.faults.outcome? .lastState 0 = none)
    (hs : ∀ k < ms.length, c.hub.faults.outcome? .saveState k = none) : c.stored = ms.length := by
  have all : (List.range ms.length).findIdx (fun k => (c.hub.faults.outcome? .saveState k).isSome) =
      (List.range ms.length).length :=
    List.findIdx_eq_length.mpr fun k hk => by rw [hs k (List.mem_range.mp hk), Option.isSome_none]
  unfold stored
  rw [hr, hd, hl]
  exact all.trans List.length_range

theorem stored_of_broken {k : Nat} {e : ServiceError} (hr : c.hub.routes.get? c.message.key = some route)
    (hd : Senml.decode c.message.payload c.clock.start = .ok ms) (hl : c.hub.faults.outcome? .lastState 0 = none)
    (hk : k < ms.length) (hs : ∀ j < k, c.hub.faults.outcome? .saveState j = none)
    (he : c.hub.faults.outcome? .saveState k = some e) : c.stored = k := by
  unfold stored
  rw [hr, hd, hl]
  refine (List.findIdx_eq (by rw [List.length_range]; exact hk)).mpr ⟨?_, fun j hj => ?_⟩
  · rw [List.getElem_range, he, Option.isSome_some]
  · rw [List.getElem_range, hs j hj, Option.isSome_none]

theorem Measures.isRoutedTo {k : Nat} {id name : String} {value : Json} (h : c.Measures k id name value) :
    c.isRoutedTo id = true := by
  obtain ⟨route, ms, m, hr, hid, -⟩ := h
  unfold SaveCall.isRoutedTo
  rw [hr]
  exact decide_eq_true hid

/-- What recording a message leaves of states: those of the records that are counted as stored. --/
theorem recordStates (c : SaveCall) :
    (c.stored = 0 ∧ (outcome (recordStates c.clock c.message) c.hub).2.states = c.hub.states) ∨
      ∃ route ms, c.hub.routes.get? c.message.key = some route ∧
        Senml.decode c.message.payload c.clock.start = .ok ms ∧ c.stored ≤ ms.length ∧
        (outcome (recordStates c.clock c.message) c.hub).2.states = c.hub.states.appendAll
          (snapshots route c.clock 0 (c.hub.states.last? route.twinId) (ms.take c.stored)) := by
  have hrec := recordStates_recording c.clock c.message c.hub
  generalize outcome (Hub.recordStates c.clock c.message) c.hub = after at hrec ⊢
  obtain ⟨r, hub'⟩ := after
  dsimp only at hrec ⊢
  cases hrec with
  | unrouted hr => exact Or.inl ⟨by simp [stored, hr], rfl⟩
  | malformed hr hd => exact Or.inl ⟨by simp [stored, hr, hd], rfl⟩
  | blank hr hd => exact Or.inl ⟨Nat.le_zero.mp (stored_le hd), rfl⟩
  | unread hr hd hne hl => exact Or.inl ⟨by simp [stored, hr, hd, hl], rfl⟩
  | @saved route ms faults hr hd hne hl hs =>
    have all := stored_of_spared hr hd hl hs
    refine Or.inr ⟨route, ms, hr, hd, stored_le hd, ?_⟩
    rw [all, List.take_length]
  | @broken route ms k e faults hr hd hne hl hk hs he =>
    -- What a cut batch leaves is what its first records would have left alone.
    have before := stored_of_broken hr hd hl hk hs he
    refine Or.inr ⟨route, ms, hr, hd, stored_le hd, ?_⟩
    rw [before, take_snapshots]

end SaveCall

section
variable (hq : Quiet hub) (clock : Clock) (m : Message)
include hq

/-- A chain goes on with what a call stores, if it may be set where it is stored. --/
theorem Chain.saveStates (h : Chain id sets (hub.states.history id))
    (hsets : ∀ k < (⟨clock, hub, m⟩ : SaveCall).stored, ∀ name value,
      SaveCall.Measures ⟨clock, hub, m⟩ k id name value → sets ((hub.states.history id).length + k) name value) :
    Chain id sets ((outcome (Hub.saveStates clock m) hub).2.states.history id) := by
  rw [outcome_saveStates hq, states_announce]
  rcases SaveCall.recordStates ⟨clock, hub, m⟩ with ⟨-, hs⟩ | ⟨route, ms, hr, hd, hle, hs⟩ <;>
    dsimp only at hs ⊢ <;> rw [hs]
  · exact h
  rw [history_snapshots]
  split
  · rename_i hid
    subst hid
    refine h.snapshots clock _ 0 rfl fun k measurement hk => ?_
    rw [List.getElem?_take] at hk
    split at hk
    · rename_i hlt
      exact hsets k hlt _ _ ⟨route, ms, measurement, hr, rfl, rfl, hd, hk, rfl⟩
    · cases hk
  · exact h

theorem length_saveStates (id : String) :
    ((outcome (saveStates clock m) hub).2.states.history id).length =
      (hub.states.history id).length + (storedRecords id [⟨clock, hub, m⟩]).length := by
  rw [outcome_saveStates hq, states_announce, storedRecords_singleton]
  rcases SaveCall.recordStates ⟨clock, hub, m⟩ with ⟨h0, hs⟩ | ⟨route, ms, hr, hd, hle, hs⟩ <;>
    dsimp only at hs ⊢ <;> rw [hs]
  · rw [h0]
    split <;> rfl
  · rw [history_snapshots]
    unfold SaveCall.isRoutedTo
    dsimp only at hr ⊢
    rw [hr]
    by_cases hid : route.twinId = id
    · simp [hid, hle]
    · simp [hid]

end

/-! ### Runs of calls -/

section
variable {P : List SaveCall → Hub → Prop}
  (call : ∀ calls hub clock m, Quiet hub → P calls hub →
    P (calls ++ [⟨clock, hub, m⟩]) (outcome (saveStates clock m) hub).2)
  (still : ∀ calls hub hub', hub'.states = hub.states → P calls hub → P calls hub')
include call

theorem saveAll_calls (calls : List SaveCall) (clock : Clock) (ms : List Message) (hq : Quiet hub) (h : P calls hub) :
    P (calls ++ saveCallsOf clock ms hub) (saveAll clock ms hub).2 := by
  induction ms generalizing calls hub with
  | nil =>
    rw [saveCallsOf, List.append_nil]
    exact h
  | cons m rest ih =>
    -- The later calls find the hub as the first one leaves it, with the first among the calls made.
    have others := ih _ (hq.saveStates clock m) (call calls hub clock m hq h)
    rw [List.append_assoc, List.singleton_append] at others
    exact others

include still

/-- What every call that saves states keeps, with the calls made so far, and all that leaves the states alone, an
    operation keeps that puts no state into the store directly. --/
theorem perform_calls (calls : List SaveCall) (hq : Quiet hub) (clock : Clock) {op : Operation}
    (hseed : ∀ state, op ≠ .seedState state) (h : P calls hub) :
    P (calls ++ saveCalls clock op hub) (perform clock op hub).2 := by
  have silent : op.messages = [] → P (calls ++ []) (perform clock op hub).2 := fun hm => by
    rw [List.append_nil]
    exact still calls hub _ ((Effects.perform hq clock op).states_eq hseed hm) h
  cases op with
  | save m => exact call calls hub clock m hq h
  | saveAll ms => exact saveAll_calls call calls clock ms hq h
  | receive m =>
    unfold saveCalls
    show P _ (receive clock m hub)
    rw [receive_eq hq]
    dsimp only
    split
    · exact call calls hub clock m hq h
    · rw [List.append_nil]
      exact h
  | seedState state => exact absurd rfl (hseed state)
  | add | update | view | list | remove | states | restore | restart | seedTwin | plan => exact silent rfl

/-- And so does a run of such operations. --/
theorem follow_calls (calls : List SaveCall) (turns : List Turn) (hq : Quiet hub)
    (hseed : ∀ t ∈ turns, ∀ state, t.op ≠ .seedState state) (h : P calls hub) :
    P (calls ++ saveCallsIn turns hub) (hub.follow turns) := by
  induction turns generalizing calls hub with
  | nil =>
    rw [saveCallsIn, List.append_nil]
    exact h
  | cons t rest ih =>
    have first := perform_calls call still calls (hq.due t.faults) t.clock (hseed t List.mem_cons_self)
      (still calls hub { hub with faults := t.faults } rfl h)
    have others := ih _ (hq.turn t) (fun t' ht' => hseed t' (List.mem_cons_of_mem _ ht')) first
    rw [List.append_assoc] at others
    exact others

end

/-- The calls of an operation are those whose results it replies. --/
theorem perform_save_result (clock : Clock) (m : Message) (hub : Hub) :
    (saveCalls clock (.save m) hub).map (·.result.map Reply.count) = [(perform clock (.save m) hub).1] := rfl

theorem perform_saveAll_results (clock : Clock) (ms : List Message) (hub : Hub) :
    (perform clock (.saveAll ms) hub).1 = .ok (.counts ((saveCalls clock (.saveAll ms) hub).map (·.result))) := by
  have results : ∀ hub, (saveAll clock ms hub).1 = (saveCallsOf clock ms hub).map (·.result) := by
    induction ms with
    | nil => exact fun _ => rfl
    | cons m rest ih => exact fun hub => congrArg (List.cons _) (ih _)
  exact congrArg (fun results => Except.ok (Reply.counts results)) (results hub)

/-! ### The record behind each state -/

/-- The states of a twin are those of some records, one of each, in order: the value of its record is what a state
    has and the one before it had not. -/
structure Traced (id : String) (records : List (SaveCall × Nat)) (states : List State) : Prop where
  length : states.length = records.length
  chain : Chain id (fun place name value => ∃ c k, records[place]? = some (c, k) ∧ c.Measures k id name value) states

/-- A call adds the states of the records that it stores. --/
theorem Traced.saveStates {records : List (SaveCall × Nat)} (hq : Quiet hub)
    (h : Traced id records (hub.states.history id)) (clock : Clock) (m : Message) :
    Traced id (records ++ storedRecords id [⟨clock, hub, m⟩])
      ((outcome (Hub.saveStates clock m) hub).2.states.history id) := by
  refine ⟨by rw [length_saveStates hq, h.length, List.length_append], ?_⟩
  refine Chain.saveStates hq clock m (h.chain.mono fun place name value hset => ?_) fun k hk name value measures => ?_
  -- Places before the call keep their records; the k-th record that it stores is at the k-th place behind them.
  · obtain ⟨c, k, hc, measures⟩ := hset
    refine ⟨c, k, ?_, measures⟩
    rw [List.getElem?_append_left (List.getElem?_eq_some_iff.mp hc).1, hc]
  · refine ⟨_, k, ?_, measures⟩
    rw [h.length, List.getElem?_append_right (Nat.le_add_right _ _), Nat.add_sub_cancel_left, storedRecords_singleton,
      if_pos measures.isRoutedTo, List.getElem?_map, List.getElem?_range hk]
    rfl

theorem follow_traced (hq : Quiet hub) (hempty : hub.states.history id = []) (turns : List Turn)
    (hseed : ∀ t ∈ turns, ∀ state, t.op ≠ .seedState state) :
    Traced id (storedRecords id (saveCallsIn turns hub)) ((hub.follow turns).states.history id) := by
  refine follow_calls (P := fun calls hub => Traced id (storedRecords id calls) (hub.states.history id)) ?_ ?_ []
    turns hq hseed ⟨by rw [hempty]; rfl, hempty ▸ Chain.nil⟩
  · intro calls hub clock m hq h
    rw [storedRecords_append]
    exact h.saveStates hq clock m
  · intro calls hub hub' hs h
    rw [hs]
    exact h

/-! ### Counting -/

/-- If no save of a state fails, a call stores as many states as it returns. --/
theorem stored_eq_count (hq : Quiet hub) (clock : Clock) (m : Message) (hf : ¬ SaveCall.SaveFails ⟨clock, hub, m⟩) :
    (⟨clock, hub, m⟩ : SaveCall).stored = (⟨clock, hub, m⟩ : SaveCall).count := by
  have hrec := recordStates_recording clock m hub
  unfold SaveCall.count SaveCall.result
  dsimp only
  rw [outcome_saveStates hq]
  dsimp only
  generalize outcome (recordStates clock m) hub = after at hrec ⊢
  obtain ⟨r, hub'⟩ := after
  dsimp only at hrec ⊢
  cases hrec with
  | unrouted hr => simp [SaveCall.stored, hr]
  | malformed hr hd => simp [SaveCall.stored, hr, hd]
  | blank hr hd => exact Nat.le_zero.mp (SaveCall.stored_le (c := ⟨clock, hub, m⟩) hd)
  | unread hr hd hne hl => simp [SaveCall.stored, hr, hd, hl]
  | saved hr hd hne hl hs => exact SaveCall.stored_of_spared hr hd hl hs
  | broken hr hd hne hl hi hs he => exact absurd ⟨_, _, _, hr, hd, hl, hi, by simp [he]⟩ hf

theorem length_storedRecords (hq : Quiet hub) (turns : List Turn) (id : String)
    (hseed : ∀ t ∈ turns, ∀ state, t.op ≠ .seedState state) (hf : ∀ c ∈ saveCallsIn turns hub, ¬ c.SaveFails) :
    (storedRecords id (saveCallsIn turns hub)).length = savedCount id (saveCallsIn turns hub) := by
  have counted : ∀ c ∈ saveCallsIn turns hub, ¬ c.SaveFails → c.stored = c.count := by
    refine follow_calls (P := fun calls _ => ∀ c ∈ calls, ¬ c.SaveFails → c.stored = c.count) ?_ ?_ [] turns hq hseed
      (fun c hc => (nomatch hc))
    · intro calls hub clock m hq h c hc
      rcases List.mem_append.mp hc with hc | hc
      · exact h c hc
      · rw [List.mem_singleton.mp hc]
        exact stored_eq_count hq clock m
    · exact fun _ _ _ _ h => h
  unfold storedRecords savedCount
  rw [List.length_flatMap]
  congr 1
  refine List.map_congr_left fun c hc => ?_
  have hmem := (List.mem_filter.mp hc).1
  rw [List.length_map, List.length_range, counted c hmem (hf c hmem)]

/-! ### Histories of runs -/

/-- In every run from empty stores, whatever fails in it: the states of a twin are numbered in the order in
    which they are stored, and there is one for each record that a call could store for the twin, in the order
    of the calls and of the records in each. The payload of a state is that of the state before it with one key
    set, the name of the attribute on which the call finds its key routed, to the value of the record; and what is
    stored is the beginning of all that is ever stored. If no save of a state fails, there are as many states
    as the calls that saved them returned. --/
theorem follow_history (identities : IdentityTable) (ids : IdSource) (notifyChannel : Option String)
    (turns : List Turn) (hseed : ∀ t ∈ turns, ∀ state, t.op ≠ .seedState state) (id : String) :
    let hub := Hub.new identities ids notifyChannel
    let states := (hub.follow turns).states.history id
    let records := storedRecords id (saveCallsIn turns hub)
    (∀ i state, states[i]? = some state → state.id = i % (maxWord + 1) ∧ state.twinId = id) ∧
    (states.length ≤ maxWord + 1 → states.map (·.id) = List.range states.length) ∧
    states.length = records.length ∧
    (∀ state, states[0]? = some state → ∃ c k name value,
      records[0]? = some (c, k) ∧ c.Measures k id name value ∧ state.payload = [(name, value)]) ∧
    (∀ i before after, states[i]? = some before → states[i + 1]? = some after → ∃ c k name value,
      records[i + 1]? = some (c, k) ∧ c.Measures k id name value ∧
        after.payload = Json.insertField name value before.payload ∧
        Json.field? name after.payload = some value ∧
        ∀ other, other ≠ name → Json.field? other after.payload = Json.field? other before.payload) ∧
    (∀ more, states <+: (hub.follow (turns ++ more)).states.history id) ∧
    ((∀ c ∈ saveCallsIn turns hub, ¬ c.SaveFails) → states.length = savedCount id (saveCallsIn turns hub)) := by
  intro hub states records
  have hq : Quiet hub := Quiet.new identities ids notifyChannel
  obtain ⟨length, chain⟩ : Traced id records states := follow_traced hq rfl turns hseed
  refine ⟨fun i state hs => ⟨chain.number i state hs, chain.twinId state (List.mem_of_getElem? hs)⟩, fun hlen => ?_,
    length, fun state hs => ?_, fun i before after hb ha => ?_, fun more => ?_, fun hf => ?_⟩
  · refine List.ext_getElem (by simp) fun i hi hi' => ?_
    rw [List.length_map] at hi
    rw [List.getElem_map, List.getElem_range, chain.number i _ (List.getElem?_eq_getElem hi)]
    exact Nat.mod_eq_of_lt (by omega)
  · obtain ⟨name, value, ⟨c, k, hc, measures⟩, hp⟩ := chain.first state hs
    exact ⟨c, k, name, value, hc, measures, hp⟩
  · obtain ⟨name, value, ⟨c, k, hc, measures⟩, hp⟩ := chain.next i before after hb ha
    refine ⟨c, k, name, value, hc, measures, hp, ?_, fun other hne => ?_⟩
    · rw [hp, Json.field?_insertField, if_pos rfl]
    · rw [hp, Json.field?_insertField, if_neg hne]
  · rw [follow_append]
    exact follow_history_prefix (hq.follow turns) more id
  · exact length.trans (length_storedRecords hq turns id hseed hf)

set_option maxRecDepth 4000 in
/-- Two records arrive, and of the next two the second is lost: three states, numbered without a gap, stay
    behind when the twin is gone. --/
theorem follow_history_cut_batch :
    let given : Twin := ⟨"t", "", "pump", [], ⟨0, 0⟩, ⟨0, 0⟩, 0, []⟩
    let flow : Attribute := ⟨"flow", "plant", "a", true⟩
    let m : Message := ⟨"plant", "a", "pump", [91, 123, 125, 44, 123, 125, 93], ⟨2, 0⟩⟩
    let turns : List Turn :=
      [⟨.empty, .at ⟨1, 0⟩, .add "token" given ⟨0, ⟨0, 0⟩, [flow]⟩⟩,
        ⟨.empty, .at ⟨2, 0⟩, .save m⟩,
        ⟨⟨[(.saveState, [⟨1, none⟩, ⟨1, some (.storage "full")⟩])]⟩, .at ⟨3, 0⟩, .save m⟩,
        ⟨.empty, .at ⟨4, 0⟩, .remove "token" "t"⟩]
    let states := ((Hub.new ⟨[("token", "ann")]⟩ ⟨fun _ => "t", 0⟩ none).follow turns).states.history "t"
    let records := storedRecords "t" (saveCallsIn turns (Hub.new ⟨[("token", "ann")]⟩ ⟨fun _ => "t", 0⟩ none))
    records.map (·.2) = [0, 1, 0] ∧ states.length = 3 ∧ states.map (·.id) = [0, 1, 2] := by
  intro given flow m turns states records
  have places : records.map (·.2) = [0, 1, 0] := by decide +kernel
  have hseed : ∀ t ∈ turns, ∀ state, t.op ≠ .seedState state := by simp [turns]
  obtain ⟨-, numbers, counted, -⟩ := follow_history ⟨[("token", "ann")]⟩ ⟨fun _ => "t", 0⟩ none turns hseed "t"
  have length : states.length = 3 := counted.trans ((List.length_map _).symm.trans (congrArg List.length places))
  exact ⟨places, length, (numbers (by rw [length]; decide)).trans (by rw [length]; rfl)⟩

end Hub
end DigitalTwin
