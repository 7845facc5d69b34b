import DigitalTwin.Proofs.Saving

/-! Messages of several twins, one after another. What a message comes to is told by the history of the twin that it is
    routed to, and it adds to no other history. So for one twin all messages but its own may be left out, and the
    messages of different twins may be put in any order. -/

namespace DigitalTwin

/-- A message and the clock that runs while it is saved. -/
structure Sending where
  clock : Clock
  message : Message

/-- The turn in which a message is saved and nothing fails. -/
def Sending.turn (s : Sending) : Turn := ⟨.empty, s.clock, .save s.message⟩

/-- Two lists whose parts of each kind are permuted are permuted. --/
theorem perm_of_filter {α β : Type} [DecidableEq β] (kind : α → β) {l l' : List α}
    (h : ∀ b, (l.filter (kind · = b)).Perm (l'.filter (kind · = b))) : l.Perm l' := by
  classical
  refine List.perm_iff_count.mpr fun a => ?_
  have same := (h (kind a)).count_eq a
  rwa [List.count_filter (by simp), List.count_filter (by simp)] at same

namespace Hub

variable {hub hub' : Hub} {id : String} {s : Sending}

/-- The twin that a message is routed to, if there is one. -/
def target (hub : Hub) (s : Sending) : Option String := (hub.routes.get? s.message.key).map (·.twinId)

/-- What messages come to that are saved one after another. -/
def results (hub : Hub) : List Sending → List (Sending × Except ServiceError Reply)
  | [] => []
  | s :: rest => (s, (hub.turn s.turn).1) :: (hub.turn s.turn).2.results rest

/-- The hub behind messages that are saved one after another. -/
def saveEach (hub : Hub) (sent : List Sending) : Hub := hub.follow (sent.map Sending.turn)

theorem results_cons (hub : Hub) (s : Sending) (rest : List Sending) :
    hub.results (s :: rest) = (s, (hub.turn s.turn).1) :: (hub.turn s.turn).2.results rest := rfl

/-! ### One message -/

theorem target_congr (h : hub'.routes = hub.routes) : hub'.target = hub.target := by
  unfold target
  rw [h]

theorem turn_sends (hq : Quiet hub) (s : Sending) : Saves (hub.statesOf s.clock s.message) hub (hub.turn s.turn) :=
  turn_saves hq FaultPlan.sparesStates_empty s.clock s.message

theorem turn_unrouted (hq : Quiet hub) (h : hub.target s = none) : (hub.turn s.turn).1 = .error .notFound := by
  rw [(turn_sends hq s).result, statesOf_unrouted (Option.map_eq_none_iff.mp h)]
  rfl

/-- The states of a message are those of the twin that it is routed to. --/
theorem twinId_of_mem_statesOf {clock : Clock} {m : Message} {made : List State} (h : hub.statesOf clock m = .ok made) :
    ∃ route, hub.routes.get? m.key = some route ∧ ∀ state ∈ made, state.twinId = route.twinId := by
  cases hr : hub.routes.get? m.key with
  | none =>
    rw [statesOf_unrouted hr] at h
    cases h
  | some route =>
    rw [statesOf_routed hr] at h
    cases hd : Senml.decode m.payload clock.start with
    | error e =>
      rw [hd] at h
      cases h
    | ok ms =>
      rw [hd] at h
      cases h
      exact ⟨route, rfl, twinId_of_mem_snapshots⟩

/-- A message leaves the histories of the twins that it is not routed to. --/
theorem turn_elsewhere (hq : Quiet hub) (h : hub.target s ≠ some id) :
    (hub.turn s.turn).2.states.history id = hub.states.history id := by
  rw [(turn_sends hq s).states, StateStore.history_appendAll]
  cases hm : hub.statesOf s.clock s.message with
  | error e => exact List.append_nil _
  | ok made =>
    obtain ⟨route, hr, hid⟩ := twinId_of_mem_statesOf hm
    have other : route.twinId ≠ id := fun heq => h (by rw [target, hr, Option.map_some, heq])
    have nothing : made.filter (·.twinId = id) = [] :=
      List.filter_eq_nil_iff.mpr fun state hs => by simpa [hid state hs] using other
    exact (congrArg _ nothing).trans (List.append_nil _)

/-- Two hubs have the same routes and the same history of a twin. -/
structure AgreesOn (id : String) (hub hub' : Hub) : Prop where
  routes : hub'.routes = hub.routes
  history : hub'.states.history id = hub.states.history id

namespace AgreesOn

theorem statesOf (h : AgreesOn id hub hub') (ht : hub.target s = some id) :
    hub'.statesOf s.clock s.message = hub.statesOf s.clock s.message := by
  obtain ⟨route, hr, hid⟩ := Option.map_eq_some_iff.mp ht
  have last : hub'.states.last? route.twinId = hub.states.last? route.twinId := by
    unfold StateStore.last?
    rw [hid, h.history]
  rw [statesOf_routed hr, statesOf_routed (h.routes ▸ hr), last]

/-- A message of the twin comes to the same in both hubs, and they agree behind it. --/
theorem turn (h : AgreesOn id hub hub') (hq : Quiet hub) (hq' : Quiet hub') (ht : hub.target s = some id) :
    (hub'.turn s.turn).1 = (hub.turn s.turn).1 ∧ AgreesOn id (hub.turn s.turn).2 (hub'.turn s.turn).2 := by
  have saves := turn_sends hq s
  have saves' := turn_sends hq' s
  rw [h.statesOf ht] at saves'
  refine ⟨saves'.result.trans saves.result.symm, ⟨?_, ?_⟩⟩
  · exact saves'.routes.trans (h.routes.trans saves.routes.symm)
  · rw [saves'.states, saves.states, StateStore.history_appendAll, StateStore.history_appendAll, h.history]

/-- A message of another twin, or of none, is as good as no message. --/
theorem skip (h : AgreesOn id hub hub') (hq : Quiet hub) (ht : hub.target s ≠ some id) :
    AgreesOn id (hub.turn s.turn).2 hub' :=
  ⟨h.routes.trans (turn_sends hq s).routes.symm, h.history.trans (turn_elsewhere hq ht).symm⟩

/-! ### Many messages -/

/-- The messages of a twin come to the same with and without those of others in between. --/
theorem saveEach (sent : List Sending) (h : AgreesOn id hub hub') (hq : Quiet hub) (hq' : Quiet hub') :
    (hub.results sent).filter (hub.target ·.1 = some id) = hub'.results (sent.filter (hub.target · = some id)) ∧
      AgreesOn id (hub.saveEach sent) (hub'.saveEach (sent.filter (hub.target · = some id))) := by
  induction sent generalizing hub hub' with
  | nil => exact ⟨rfl, h⟩
  | cons s rest ih =>
    have same : (hub.turn s.turn).2.target = hub.target := target_congr (turn_sends hq s).routes
    rw [results_cons]
    by_cases ht : hub.target s = some id
    · obtain ⟨result, agrees⟩ := h.turn hq hq' ht
      obtain ⟨told, behind⟩ := ih agrees (hq.turn _) (hq'.turn _)
      rw [same] at told behind
      rw [List.filter_cons_of_pos (by simpa using ht), List.filter_cons_of_pos (by simpa using ht)]
      exact ⟨by rw [told, results_cons, result], behind⟩
    · obtain ⟨told, behind⟩ := ih (h.skip hq ht) (hq.turn _) hq'
      rw [same] at told behind
      rw [List.filter_cons_of_neg (by simpa using ht), List.filter_cons_of_neg (by simpa using ht)]
      exact ⟨told, behind⟩

end AgreesOn

theorem results_unrouted (sent : List Sending) (hq : Quiet hub) :
    (hub.results sent).filter (hub.target ·.1 = none) =
      (sent.filter (hub.target · = none)).map fun s => (s, .error .notFound) := by
  induction sent generalizing hub with
  | nil => rfl
  | cons s rest ih =>
    have later := ih (hq.turn s.turn)
    rw [target_congr (turn_sends hq s).routes] at later
    rw [results_cons]
    by_cases ht : hub.target s = none
    · rw [List.filter_cons_of_pos (by simpa using ht), List.filter_cons_of_pos (by simpa using ht), later,
        turn_unrouted hq ht]
      rfl
    · rw [List.filter_cons_of_neg (by simpa using ht), List.filter_cons_of_neg (by simpa using ht), later]

theorem map_fst_results (sent : List Sending) (hub : Hub) : (hub.results sent).map (·.1) = sent := by
  induction sent generalizing hub with
  | nil => rfl
  | cons s rest ih => exact congrArg (s :: ·) (ih _)

/-- Two rows of messages leave the same histories, and the messages come to the same in both, those of each twin in the
same order. -/
structure Matches (hub : Hub) (sent sent' : List Sending) : Prop where
  histories : ∀ id, (hub.saveEach sent).states.history id = (hub.saveEach sent').states.history id
  ordered : ∀ id, (hub.results sent).filter (hub.target ·.1 = some id) =
    (hub.results sent').filter (hub.target ·.1 = some id)
  results : (hub.results sent).Perm (hub.results sent')
  all : (hub.results sent).map (·.1) = sent

/-- At any time, of messages that are saved one after another while nothing fails, those that are routed to one twin
    come to what they come to without all others, and so does the history of the twin. So two rows of the same
    messages, in which those of each twin come in the same order, leave the same histories, and each message comes to
    the same in both, whatever messages are in between that have no route, cannot be read or are empty. --/
theorem saveEach_interleaved (stored : Hub) (notifyChannel : Option String) (turns : List Turn) :
    let hub := (stored.restart notifyChannel).follow turns
    (∀ sent id,
      let own := sent.filter (hub.target · = some id)
      (hub.saveEach sent).states.history id = (hub.saveEach own).states.history id ∧
      (hub.results sent).filter (hub.target ·.1 = some id) = hub.results own) ∧
    ∀ sent sent', sent.Perm sent' →
      (∀ id, sent.filter (hub.target · = some id) = sent'.filter (hub.target · = some id)) →
      hub.Matches sent sent' := by
  intro hub
  have hq : Quiet hub := (Quiet.restart notifyChannel stored).follow turns
  have project (sent : List Sending) (id : String) := (show AgreesOn id hub hub from ⟨rfl, rfl⟩).saveEach sent hq hq
  refine ⟨fun sent id => ⟨(project sent id).2.history.symm, (project sent id).1⟩, fun sent sent' perm order => ?_⟩
  have ordered (id : String) : (hub.results sent).filter (hub.target ·.1 = some id) =
      (hub.results sent').filter (hub.target ·.1 = some id) := by
    rw [(project sent id).1, (project sent' id).1, order id]
  refine ⟨fun id => ?_, ordered, perm_of_filter (hub.target ·.1) fun target => ?_, map_fst_results sent hub⟩
  · rw [← (project sent id).2.history, ← (project sent' id).2.history, order id]
  · cases target with
    | none =>
      rw [results_unrouted sent hq, results_unrouted sent' hq]
      exact (perm.filter _).map _
    | some id => rw [ordered id]

/-- Two messages of one twin, of which the second cannot be read, with one of another twin before the first and one
    without a route behind the second, or the other way round. --/
theorem saveEach_interleaved_two_twins :
    let given : Twin := ⟨"", "", "pump", [], ⟨0, 0⟩, ⟨0, 0⟩, 0, []⟩
    let define (subtopic : String) : Definition := ⟨0, ⟨0, 0⟩, [⟨"flow", "plant", subtopic, true⟩]⟩
    let stored := Hub.new ⟨[("token", "ann")]⟩ ⟨fun n => if n = 0 then "t" else "u", 0⟩ none
    let hub := (stored.restart none).follow
      [⟨.empty, .at ⟨1, 0⟩, .add "token" given (define "a")⟩, ⟨.empty, .at ⟨2, 0⟩, .add "token" given (define "b")⟩]
    let send (subtopic : String) (payload : List UInt8) : Sending :=
      ⟨.at ⟨3, 0⟩, ⟨"plant", subtopic, "pump", payload, ⟨0, 0⟩⟩⟩
    let own := send "a" [91, 123, 125, 93]
    let broken := send "a" []
    let other := send "b" [91, 123, 125, 93]
    let lost := send "c" [91, 123, 125, 93]
    ((hub.saveEach [own, other, lost, broken]).states.history "t").length = 1 ∧
      hub.Matches [own, other, lost, broken] [other, own, broken, lost] := by
  intro given define stored hub send own broken other lost
  have own_target : hub.target own = some "t" := by decide +kernel
  have broken_target : hub.target broken = some "t" := by decide +kernel
  have other_target : hub.target other = some "u" := by decide +kernel
  have lost_target : hub.target lost = none := by decide +kernel
  have perm : [own, other, lost, broken].Perm [other, own, broken, lost] :=
    (List.Perm.swap other own [lost, broken]).trans (((List.Perm.swap broken lost []).cons own).cons other)
  obtain ⟨-, interleaved⟩ := saveEach_interleaved stored none
    [⟨.empty, .at ⟨1, 0⟩, .add "token" given (define "a")⟩, ⟨.empty, .at ⟨2, 0⟩, .add "token" given (define "b")⟩]
  refine ⟨by decide +kernel, interleaved _ _ perm fun id => ?_⟩
  show [own, other, lost, broken].filter (hub.target · = some id) =
    [other, own, broken, lost].filter (hub.target · = some id)
  by_cases ht : "t" = id
  · subst ht
    simp [own_target, broken_target, other_target, lost_target]
  · by_cases hu : "u" = id <;> simp [own_target, broken_target, other_target, lost_target, ht, hu]

end Hub
end DigitalTwin
