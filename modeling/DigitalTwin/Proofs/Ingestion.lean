import DigitalTwin.Hub.Ingestion
import DigitalTwin.Proofs.Action

/-! What a message leaves in the state store. Each measurement makes one state of the one before it, and
    when a save fails, the states before it stay. -/

namespace DigitalTwin

/-! ### Histories -/

namespace StateStore

variable {s : StateStore} {state : State} {id : String}

theorem history_append :
    (s.append state).history id = if state.twinId = id then s.history id ++ [state] else s.history id := by
  unfold append history
  dsimp only
  by_cases h : state.twinId = id
  · subst h
    simp
  · rw [if_neg h, Table.get?_insert_of_ne (Ne.symm h)]

theorem last?_append : (s.append state).last? state.twinId = some state := by
  unfold last?
  rw [history_append, if_pos rfl, List.getLast?_concat]

/-- The store with states added one after another. -/
def appendAll (s : StateStore) (states : List State) : StateStore := states.foldl append s

@[simp] theorem appendAll_nil : s.appendAll [] = s := rfl

@[simp] theorem appendAll_cons (states : List State) :
    s.appendAll (state :: states) = (s.append state).appendAll states := rfl

theorem history_appendAll (states : List State) :
    (s.appendAll states).history id = s.history id ++ states.filter (·.twinId = id) := by
  induction states generalizing s with
  | nil => simp
  | cons state rest ih =>
    rw [appendAll_cons, ih, history_append]
    by_cases h : state.twinId = id <;> simp [h]

/-- States of one twin are added to its history and to no other. --/
theorem history_appendAll_of_twinId {states : List State} {twinId : String}
    (h : ∀ state ∈ states, state.twinId = twinId) (id : String) :
    (s.appendAll states).history id = if twinId = id then s.history id ++ states else s.history id := by
  rw [history_appendAll]
  split
  · rename_i hid
    rw [List.filter_eq_self.mpr fun state hs => decide_eq_true ((h state hs).trans hid)]
  · rename_i hid
    rw [List.filter_eq_nil_iff.mpr fun state hs => ?_, List.append_nil]
    simpa [h state hs] using hid

end StateStore

namespace Hub

variable {route : Route} {clock : Clock} {hub : Hub} {m : Message}

/-- The states that measurements make of the one before them, the n-th and those behind it. -/
def snapshots (route : Route) (clock : Clock) : Nat → Option State → List Senml.Measurement → List State
  | _, _, [] => []
  | n, last, m :: rest =>
    let state := snapshot route (clock.record n) last m
    state :: snapshots route clock (n + 1) (some state) rest

@[simp] theorem length_snapshots : ∀ (n : Nat) (last : Option State) (ms : List Senml.Measurement),
    (snapshots route clock n last ms).length = ms.length
  | _, _, [] => rfl
  | n, last, m :: rest => by
    rw [snapshots, List.length_cons, length_snapshots (n + 1), List.length_cons]

theorem take_snapshots : ∀ (k n : Nat) (last : Option State) (ms : List Senml.Measurement),
    (snapshots route clock n last ms).take k = snapshots route clock n last (ms.take k)
  | 0, _, _, _ => rfl
  | _ + 1, _, _, [] => rfl
  | k + 1, n, last, m :: rest => by
    rw [snapshots, List.take_succ_cons, take_snapshots k (n + 1), List.take_succ_cons, snapshots]

theorem twinId_of_mem_snapshots : ∀ {n : Nat} {last : Option State} {ms : List Senml.Measurement},
    ∀ state ∈ snapshots route clock n last ms, state.twinId = route.twinId
  | _, _, [], _, h => by cases h
  | n, last, m :: rest, state, h => by
    rcases List.mem_cons.mp h with rfl | h
    · rfl
    · exact twinId_of_mem_snapshots state h

/-- The states of a message are added to the history of the routed twin and to no other. --/
theorem history_snapshots (s : StateStore) (n : Nat) (last : Option State) (ms : List Senml.Measurement) (id : String) :
    (s.appendAll (snapshots route clock n last ms)).history id =
      if route.twinId = id then s.history id ++ snapshots route clock n last ms else s.history id :=
  StateStore.history_appendAll_of_twinId twinId_of_mem_snapshots id

/-! ### Saving the states of a message -/

theorem saveState_cases (state : State) (hub : Hub) :
    (∃ e, hub.faults.outcome? .saveState 0 = some e ∧
        saveState state hub = .error e { hub with faults := (hub.faults.next .saveState).2 }) ∨
      hub.faults.outcome? .saveState 0 = none ∧
        saveState state hub =
          .ok () { hub with faults := (hub.faults.next .saveState).2, states := hub.states.append state } := by
  unfold saveState
  rcases pass_outcome .saveState hub with ⟨hn, h⟩ | ⟨e, he, h⟩
  · exact Or.inr ⟨hn, by rw [bind_ok h, modify_apply]⟩
  · exact Or.inl ⟨e, he, bind_error h⟩

/-- All states of a message are saved, or those before the first save that fails. --/
theorem saveSnapshots_cases (route : Route) (clock : Clock) (ms : List Senml.Measurement) (n : Nat)
    (last : Option State) (hub : Hub) :
    ((∀ i < ms.length, hub.faults.outcome? .saveState i = none) ∧
        ∃ faults, saveSnapshots route clock n last ms hub =
          .ok () { hub with faults, states := hub.states.appendAll (snapshots route clock n last ms) }) ∨
      ∃ i e faults, i < ms.length ∧ (∀ j < i, hub.faults.outcome? .saveState j = none) ∧
        hub.faults.outcome? .saveState i = some e ∧
        saveSnapshots route clock n last ms hub =
          .error e { hub with
            faults, states := hub.states.appendAll ((snapshots route clock n last ms).take i) } := by
  induction ms generalizing n last hub with
  | nil => exact Or.inl ⟨fun _ h => absurd h (Nat.not_lt_zero _), hub.faults, rfl⟩
  | cons m rest ih =>
    unfold saveSnapshots snapshots
    dsimp only
    rcases saveState_cases (snapshot route (clock.record n) last m) hub with ⟨e, hf, h⟩ | ⟨hf, h⟩
    · exact Or.inr ⟨0, e, _, Nat.succ_pos _, fun _ h => absurd h (Nat.not_lt_zero _), hf, bind_error h⟩
    rw [bind_ok h]
    rcases ih (n + 1) (some (snapshot route (clock.record n) last m))
        { hub with
          faults := (hub.faults.next .saveState).2
          states := hub.states.append (snapshot route (clock.record n) last m) } with
      ⟨hok, faults, h⟩ | ⟨i, e, faults, hi, hok, he, h⟩
    · refine Or.inl ⟨fun i hi => ?_, faults, h⟩
      cases i with
      | zero => exact hf
      | succ i =>
        rw [← FaultPlan.outcome?_next]
        exact hok i (Nat.lt_of_succ_lt_succ hi)
    · refine Or.inr ⟨i + 1, e, faults, Nat.succ_lt_succ hi, fun j hj => ?_, ?_, h⟩
      · cases j with
        | zero => exact hf
        | succ j =>
          rw [← FaultPlan.outcome?_next]
          exact hok j (Nat.lt_of_succ_lt_succ hj)
      · rw [← FaultPlan.outcome?_next]
        exact he

/-- What recording a message comes to, and the hub behind it. -/
inductive Recording (clock : Clock) (m : Message) (hub : Hub) : Except ServiceError Nat → Hub → Prop
  /-- No twin has the key of the message. -/
  | unrouted (hr : hub.routes.get? m.key = none) : Recording clock m hub (.error .notFound) hub
  /-- The payload cannot be read. -/
  | malformed {route : Route} {e : ServiceError} (hr : hub.routes.get? m.key = some route)
      (hd : Senml.decode m.payload clock.start = .error e) : Recording clock m hub (.error e) hub
  /-- The payload has no record. -/
  | blank {route : Route} (hr : hub.routes.get? m.key = some route)
      (hd : Senml.decode m.payload clock.start = .ok []) : Recording clock m hub (.ok 0) hub
  /-- The last state of the twin cannot be had. -/
  | unread {route : Route} {ms : List Senml.Measurement} {e : ServiceError} {faults : FaultPlan}
      (hr : hub.routes.get? m.key = some route)
      (hd : Senml.decode m.payload clock.start = .ok ms) (hne : ms ≠ [])
      (hl : hub.faults.outcome? .lastState 0 = some e) : Recording clock m hub (.error e) { hub with faults }
  /-- Every state is saved. -/
  | saved {route : Route} {ms : List Senml.Measurement} {faults : FaultPlan}
      (hr : hub.routes.get? m.key = some route)
      (hd : Senml.decode m.payload clock.start = .ok ms) (hne : ms ≠ [])
      (hl : hub.faults.outcome? .lastState 0 = none)
      (hs : ∀ i < ms.length, hub.faults.outcome? .saveState i = none) :
      Recording clock m hub (.ok ms.length)
        { hub with
          faults
          states := hub.states.appendAll (snapshots route clock 0 (hub.states.last? route.twinId) ms) }
  /-- The states before one that cannot be saved are saved. -/
  | broken {route : Route} {ms : List Senml.Measurement} {i : Nat} {e : ServiceError} {faults : FaultPlan}
      (hr : hub.routes.get? m.key = some route)
      (hd : Senml.decode m.payload clock.start = .ok ms) (hne : ms ≠ [])
      (hl : hub.faults.outcome? .lastState 0 = none) (hi : i < ms.length)
      (hs : ∀ j < i, hub.faults.outcome? .saveState j = none) (he : hub.faults.outcome? .saveState i = some e) :
      Recording clock m hub (.error e)
        { hub with
          faults
          states := hub.states.appendAll
            ((snapshots route clock 0 (hub.states.last? route.twinId) ms).take i) }

theorem lastState_cases (twinId : String) (hub : Hub) :
    (∃ e, hub.faults.outcome? .lastState 0 = some e ∧
        lastState twinId hub = .error e { hub with faults := (hub.faults.next .lastState).2 }) ∨
      hub.faults.outcome? .lastState 0 = none ∧
        lastState twinId hub =
          .ok (hub.states.last? twinId) { hub with faults := (hub.faults.next .lastState).2 } := by
  unfold lastState
  rcases pass_outcome .lastState hub with ⟨hn, h⟩ | ⟨e, he, h⟩
  · exact Or.inr ⟨hn, by rw [bind_ok h, bind_get, pure_apply]⟩
  · exact Or.inl ⟨e, he, bind_error h⟩

theorem recordStates_recording (clock : Clock) (m : Message) (hub : Hub) :
    Recording clock m hub (outcome (recordStates clock m) hub).1 (outcome (recordStates clock m) hub).2 := by
  unfold outcome recordStates
  rw [bind_get]
  cases hr : hub.routes.get? m.key with
  | none => exact .unrouted hr
  | some route =>
    dsimp only
    cases hd : Senml.decode m.payload clock.start with
    | error e =>
      rw [bind_error (ofExcept_apply _)]
      exact .malformed hr hd
    | ok ms =>
      rw [bind_ok (ofExcept_apply _)]
      by_cases hne : ms = []
      · subst hne
        exact .blank hr hd
      rw [if_neg (by simpa using hne)]
      rcases lastState_cases route.twinId hub with ⟨e, hl, h⟩ | ⟨hl, h⟩
      · rw [bind_error h]
        exact .unread hr hd hne hl
      rw [bind_ok h]
      have same : ∀ i, (hub.faults.next .lastState).2.outcome? .saveState i = hub.faults.outcome? .saveState i :=
        FaultPlan.outcome?_next_of_ne (by decide)
      rcases saveSnapshots_cases route clock ms 0 (hub.states.last? route.twinId)
          { hub with faults := (hub.faults.next .lastState).2 } with ⟨hs, faults, h⟩ | ⟨i, e, faults, hi, hs, he, h⟩
      · rw [bind_ok h, pure_apply]
        exact .saved hr hd hne hl fun i hi => same i ▸ hs i hi
      · rw [bind_error h]
        exact .broken hr hd hne hl hi (fun j hj => same j ▸ hs j hj) (same i ▸ he)

/-- Recording a message adds some of the states that it makes, from the first one on, and nothing else. --/
theorem Recording.added {r : Except ServiceError Nat} {hub' : Hub} (h : Recording clock m hub r hub') :
    ∃ faults states, hub' = { hub with faults, states := hub.states.appendAll states } ∧
      (states = [] ∨ ∃ route ms, hub.routes.get? m.key = some route ∧
        Senml.decode m.payload clock.start = .ok ms ∧
        states <+: snapshots route clock 0 (hub.states.last? route.twinId) ms) := by
  cases h with
  | unrouted hr => exact ⟨hub.faults, [], rfl, Or.inl rfl⟩
  | malformed hr hd => exact ⟨hub.faults, [], rfl, Or.inl rfl⟩
  | blank hr hd => exact ⟨hub.faults, [], rfl, Or.inl rfl⟩
  | @unread _ _ _ faults => exact ⟨faults, [], rfl, Or.inl rfl⟩
  | @saved route ms faults hr hd => exact ⟨faults, _, rfl, Or.inr ⟨route, ms, hr, hd, List.prefix_rfl⟩⟩
  | @broken route ms _ _ faults hr hd =>
    exact ⟨faults, _, rfl, Or.inr ⟨route, ms, hr, hd, List.take_prefix _ _⟩⟩

end Hub
end DigitalTwin
