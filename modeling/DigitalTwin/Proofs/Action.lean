import DigitalTwin.Hub.Lifecycle
import DigitalTwin.Proofs.Fault
import DigitalTwin.Proofs.Twin

/-! What the actions of a hub can come to. An action that fails has used up failures that were due and at
    most one id; one that succeeds leaves a hub that is written out here, so that nothing that follows
    opens an action again. -/

namespace DigitalTwin

/-- The ids that are left when the next one is issued. -/
def IdSource.rest (ids : IdSource) : IdSource := ⟨ids.issue, ids.issued + 1⟩

/-- The id that is issued next. -/
def IdSource.next (ids : IdSource) : String := ids.issue ids.issued

/-- The twin that an owner adds under an id. -/
def Twin.enrolled (given : Twin) (d : Definition) (id owner : String) (now : Instant) : Twin :=
  { given with
    id
    owner
    created := now
    updated := now
    revision := 0
    definitions := [{ d with id := 0, created := now }] }

/-- The stored twin with a definition put in force. -/
def Twin.revised (current given : Twin) (d : Definition) (now : Instant) : Twin :=
  { current with
    name := given.name
    metadata := given.metadata
    updated := now
    revision := nextWord current.revision
    definitions := current.definitions ++ [{ d with id := nextWord current.revision, created := now }] }

theorem Twin.enrolled_routable {notifyChannel : Option String} {given : Twin} {d : Definition} {id owner : String}
    {now : Instant} (h : d.requireRoutable notifyChannel = .ok ()) :
    (given.enrolled d id owner now).Routable notifyChannel := fun d' hd => by
  cases hd
  exact h

theorem Twin.current?_revised (current given : Twin) (d : Definition) (now : Instant) :
    (current.revised given d now).current? = some { d with id := nextWord current.revision, created := now } :=
  List.getLast?_concat

theorem Twin.revised_routable {notifyChannel : Option String} {current given : Twin} {d : Definition} {now : Instant}
    (h : d.requireRoutable notifyChannel = .ok ()) : (current.revised given d now).Routable notifyChannel :=
  fun d' hd => by
    rw [Twin.current?_revised] at hd
    cases hd
    exact h

namespace Hub

variable {α β : Type} {hub : Hub}

/-! ### Sequencing -/

theorem bind_apply (x : Action α) (f : α → Action β) :
    (x >>= f) hub = match x hub with
      | .ok a hub => f a hub
      | .error e hub => .error e hub := by
  show EStateM.bind x f hub = _
  unfold EStateM.bind
  cases x hub <;> rfl

theorem bind_ok {x : Action α} {f : α → Action β} {a : α} {hub' : Hub} (h : x hub = .ok a hub') :
    (x >>= f) hub = f a hub' := by
  rw [bind_apply, h]

theorem bind_error {x : Action α} {f : α → Action β} {e : ServiceError} {hub' : Hub} (h : x hub = .error e hub') :
    (x >>= f) hub = .error e hub' := by
  rw [bind_apply, h]

theorem bind_get (f : Hub → Action α) : ((get : Action Hub) >>= f) hub = f hub hub := rfl

theorem bind_modify (g : Hub → Hub) (f : Unit → Action α) : ((modify g : Action Unit) >>= f) hub = f () (g hub) := rfl

theorem modify_apply (g : Hub → Hub) : (modify g : Action Unit) hub = .ok () (g hub) := rfl

theorem pure_apply (a : α) : (pure a : Action α) hub = .ok a hub := rfl

theorem throw_apply (e : ServiceError) : (throw e : Action α) hub = .error e hub := rfl

theorem ofExcept_apply (r : Except ServiceError α) :
    ofExcept r hub = match r with
      | .ok a => .ok a hub
      | .error e => .error e hub := by
  cases r <;> rfl

/-! ### Calls of collaborators -/

/-- A call goes through or fails as the plan has it, and the plan goes on to the call behind it. --/
theorem pass_outcome (point : CallPoint) (hub : Hub) :
    (hub.faults.outcome? point 0 = none ∧ pass point hub = .ok () { hub with faults := (hub.faults.next point).2 }) ∨
      ∃ e, hub.faults.outcome? point 0 = some e ∧
        pass point hub = .error e { hub with faults := (hub.faults.next point).2 } := by
  rw [← FaultPlan.next_fst]
  unfold pass
  dsimp only
  split
  · rename_i hn
    exact Or.inl ⟨hn, rfl⟩
  · rename_i e hn
    exact Or.inr ⟨e, hn, rfl⟩

theorem pass_cases (point : CallPoint) (hub : Hub) :
    (∃ faults, pass point hub = .ok () { hub with faults }) ∨
      ∃ e faults, pass point hub = .error e { hub with faults } := by
  rcases pass_outcome point hub with ⟨-, h⟩ | ⟨e, -, h⟩
  · exact Or.inl ⟨_, h⟩
  · exact Or.inr ⟨e, _, h⟩

theorem identify_cases (token : String) (hub : Hub) :
    (∃ e faults, identify token hub = .error e { hub with faults }) ∨
      ∃ owner faults, hub.identities.identify token = .ok owner ∧
        identify token hub = .ok owner { hub with faults } := by
  unfold identify
  rcases pass_cases .identify hub with ⟨faults, h⟩ | ⟨e, faults, h⟩
  · rw [bind_ok h, bind_get, ofExcept_apply]
    cases hi : hub.identities.identify token with
    | error e => exact Or.inl ⟨e, faults, rfl⟩
    | ok owner => exact Or.inr ⟨owner, faults, rfl, rfl⟩
  · exact Or.inl ⟨e, faults, bind_error h⟩

theorem issueId_cases (hub : Hub) :
    (∃ e faults, issueId hub = .error e { hub with faults }) ∨
      ∃ faults, issueId hub = .ok hub.ids.next { hub with faults, ids := hub.ids.rest } := by
  unfold issueId
  rcases pass_cases .issueId hub with ⟨faults, h⟩ | ⟨e, faults, h⟩
  · exact Or.inr ⟨faults, by rw [bind_ok h]; rfl⟩
  · exact Or.inl ⟨e, faults, bind_error h⟩

theorem get_cases (s : TwinStore) (id : String) :
    (∃ twin, s.get? id = some twin ∧ s.get id = .ok twin) ∨ s.get? id = none ∧ s.get id = .error .notFound := by
  unfold TwinStore.get
  cases s.get? id with
  | none => exact Or.inr ⟨rfl, rfl⟩
  | some twin => exact Or.inl ⟨twin, rfl, rfl⟩

theorem retrieve_cases (id : String) (hub : Hub) :
    (∃ e faults, retrieve id hub = .error e { hub with faults }) ∨
      ∃ twin faults, hub.twins.get? id = some twin ∧ retrieve id hub = .ok twin { hub with faults } := by
  unfold retrieve
  rcases pass_cases .retrieveTwin hub with ⟨faults, h⟩ | ⟨e, faults, h⟩
  · rw [bind_ok h, bind_get, ofExcept_apply]
    dsimp only
    rcases get_cases hub.twins id with ⟨twin, hg, he⟩ | ⟨-, he⟩
    · exact Or.inr ⟨twin, faults, hg, by rw [he]⟩
    · exact Or.inl ⟨.notFound, faults, by rw [he]⟩
  · exact Or.inl ⟨e, faults, bind_error h⟩

theorem retrieve?_cases (id : String) (hub : Hub) :
    (∃ e faults, retrieve? id hub = .error e { hub with faults }) ∨
      (∃ faults, retrieve? id hub = .ok none { hub with faults }) ∨
      ∃ twin faults, hub.twins.get? id = some twin ∧ retrieve? id hub = .ok (some twin) { hub with faults } := by
  unfold retrieve?
  rcases retrieve_cases id hub with ⟨e, faults, h⟩ | ⟨twin, faults, hg, h⟩
  · rw [h]
    cases e
    case notFound => exact Or.inr (Or.inl ⟨faults, rfl⟩)
    all_goals exact Or.inl ⟨_, faults, rfl⟩
  · rw [h]
    exact Or.inr (Or.inr ⟨twin, faults, hg, rfl⟩)

/-! ### Changes of twins -/

theorem checkDefinition_cases (d : Definition) (hub : Hub) :
    (∃ e, checkDefinition d hub = .error e hub) ∨
      d.requireRoutable hub.notifyChannel = .ok () ∧ checkDefinition d hub = .ok () hub := by
  unfold checkDefinition
  rw [bind_get, ofExcept_apply]
  cases h : d.requireRoutable hub.notifyChannel with
  | error e => exact Or.inl ⟨e, rfl⟩
  | ok u => exact Or.inr ⟨rfl, rfl⟩

/-- A twin is stored and routed together, and only if its keys are free. --/
theorem storeAndRoute_cases (point : CallPoint) (store : TwinStore → Twin → Except ServiceError TwinStore)
    (twin : Twin) (hub : Hub) :
    (∃ e faults, storeAndRoute point store twin hub = .error e { hub with faults }) ∨
      ∃ faults twins, hub.routes.requireFree twin = .ok () ∧ store hub.twins twin = .ok twins ∧
        storeAndRoute point store twin hub =
          .ok () { hub with faults, twins, routes := (hub.routes.insert twin).2 } := by
  unfold storeAndRoute
  rw [bind_get]
  cases hf : hub.routes.requireFree twin with
  | error e => exact Or.inl ⟨e, hub.faults, bind_error (ofExcept_apply _)⟩
  | ok u =>
    rw [bind_ok (ofExcept_apply _)]
    rcases pass_cases point hub with ⟨faults, h⟩ | ⟨e, faults, h⟩
    · rw [bind_ok h, bind_get]
      dsimp only
      cases hs : store hub.twins twin with
      | error e => exact Or.inl ⟨e, faults, bind_error (ofExcept_apply _)⟩
      | ok twins => exact Or.inr ⟨faults, twins, rfl, rfl, by rw [bind_ok (ofExcept_apply _), modify_apply]⟩
    · exact Or.inl ⟨e, faults, bind_error h⟩

/-- A twin is added under the next id, or nothing but that id is lost. --/
theorem register_cases (token : String) (given : Twin) (d : Definition) (now : Instant) (hub : Hub) :
    (∃ e faults ids, (ids = hub.ids ∨ ids = hub.ids.rest) ∧
        register token given d now hub = .error e { hub with faults, ids }) ∨
      ∃ owner faults twins, hub.identities.identify token = .ok owner ∧
        d.requireRoutable hub.notifyChannel = .ok () ∧
        hub.routes.requireFree (given.enrolled d hub.ids.next owner now) = .ok () ∧
        hub.twins.insert (given.enrolled d hub.ids.next owner now) = .ok twins ∧
        register token given d now hub =
          .ok (given.enrolled d hub.ids.next owner now)
            (alignSubscriptions
              { hub with
                faults, twins, ids := hub.ids.rest
                routes := (hub.routes.insert (given.enrolled d hub.ids.next owner now)).2 }) := by
  unfold register
  rcases identify_cases token hub with ⟨e, faults, h⟩ | ⟨owner, faults, hi, h⟩
  · exact Or.inl ⟨e, faults, hub.ids, Or.inl rfl, bind_error h⟩
  rw [bind_ok h]
  rcases checkDefinition_cases d { hub with faults } with ⟨e, h⟩ | ⟨hd, h⟩
  · exact Or.inl ⟨e, faults, hub.ids, Or.inl rfl, bind_error h⟩
  rw [bind_ok h]
  rcases issueId_cases { hub with faults } with ⟨e, faults, h⟩ | ⟨faults, h⟩
  · exact Or.inl ⟨e, faults, hub.ids, Or.inl rfl, bind_error h⟩
  rw [bind_ok h]
  rcases storeAndRoute_cases .saveTwin TwinStore.insert (given.enrolled d hub.ids.next owner now)
    { hub with faults, ids := hub.ids.rest } with ⟨e, faults, h⟩ | ⟨faults, twins, hf, hs, h⟩
  · exact Or.inl ⟨e, faults, hub.ids.rest, Or.inr rfl, bind_error h⟩
  · refine Or.inr ⟨owner, faults, twins, hi, hd, hf, hs, ?_⟩
    refine (bind_ok h).trans ?_
    rw [bind_modify, pure_apply]
    rfl

/-- A twin of the caller gets its next revision, or nothing changes. --/
theorem revise_cases (token : String) (given : Twin) (d : Definition) (now : Instant) (hub : Hub) :
    (∃ e faults, revise token given d now hub = .error e { hub with faults }) ∨
      ∃ owner current faults twins, hub.identities.identify token = .ok owner ∧
        hub.twins.get? given.id = some current ∧ current.owner = owner ∧
        d.requireRoutable hub.notifyChannel = .ok () ∧
        hub.routes.requireFree (current.revised given d now) = .ok () ∧
        hub.twins.replace (current.revised given d now) = .ok twins ∧
        revise token given d now hub =
          .ok () (alignSubscriptions
            { hub with faults, twins, routes := (hub.routes.insert (current.revised given d now)).2 }) := by
  unfold revise
  rcases identify_cases token hub with ⟨e, faults, h⟩ | ⟨owner, faults, hi, h⟩
  · exact Or.inl ⟨e, faults, bind_error h⟩
  rw [bind_ok h]
  rcases retrieve_cases given.id { hub with faults } with ⟨e, faults, h⟩ | ⟨current, faults, hg, h⟩
  · exact Or.inl ⟨e, faults, bind_error h⟩
  rw [bind_ok h]
  by_cases ho : current.owner ≠ owner
  · exact Or.inl ⟨.unauthorized, faults, by rw [if_pos ho]; rfl⟩
  rw [if_neg ho]
  rcases checkDefinition_cases d { hub with faults } with ⟨e, h⟩ | ⟨hd, h⟩
  · exact Or.inl ⟨e, faults, bind_error h⟩
  rw [bind_ok h]
  rcases storeAndRoute_cases .updateTwin TwinStore.replace (current.revised given d now) { hub with faults } with
    ⟨e, faults, h⟩ | ⟨faults, twins, hf, hs, h⟩
  · exact Or.inl ⟨e, faults, bind_error h⟩
  · exact Or.inr ⟨owner, current, faults, twins, hi, hg, Decidable.not_not.mp ho, hd, hf, hs, bind_ok h⟩

/-- A twin of the caller is taken out of store and routes, or nothing changes. --/
theorem unregister_cases (token id : String) (hub : Hub) :
    (∃ e faults, unregister token id hub = .error e { hub with faults }) ∨
      (∃ faults, unregister token id hub = .ok () { hub with faults }) ∨
      ∃ owner twin faults, hub.identities.identify token = .ok owner ∧ hub.twins.get? id = some twin ∧
        twin.owner = owner ∧
        unregister token id hub =
          .ok () (alignSubscriptions
            { hub with faults, twins := hub.twins.erase id, routes := (hub.routes.erase id).2 }) := by
  unfold unregister
  rcases identify_cases token hub with ⟨e, faults, h⟩ | ⟨owner, faults, hi, h⟩
  · exact Or.inl ⟨e, faults, bind_error h⟩
  rw [bind_ok h]
  rcases retrieve?_cases id { hub with faults } with ⟨e, faults, h⟩ | ⟨faults, h⟩ | ⟨twin, faults, hg, h⟩
  · exact Or.inl ⟨e, faults, bind_error h⟩
  · exact Or.inr (Or.inl ⟨faults, bind_ok h⟩)
  rw [bind_ok h]
  dsimp only
  by_cases ho : twin.owner ≠ owner
  · exact Or.inr (Or.inl ⟨faults, by rw [if_pos ho]; rfl⟩)
  rw [if_neg ho]
  unfold discard
  rcases pass_cases .removeTwin { hub with faults } with ⟨faults, h⟩ | ⟨e, faults, h⟩
  · exact Or.inr (Or.inr ⟨owner, twin, faults, hi, hg, Decidable.not_not.mp ho, by rw [bind_ok h]; rfl⟩)
  · exact Or.inl ⟨e, faults, bind_error h⟩

/-- The routes are made anew if the stored twins can be had; otherwise nothing changes. --/
theorem restore_cases (hub : Hub) :
    (∃ e, hub.faults.outcome? .everyTwin 0 = some e ∧
        restore hub = .error e { hub with faults := (hub.faults.next .everyTwin).2 }) ∨
      hub.faults.outcome? .everyTwin 0 = none ∧
        restore hub =
          .ok (RouteTable.ofTwins hub.notifyChannel hub.twins.toList).size
            (alignSubscriptions
              { hub with
                faults := (hub.faults.next .everyTwin).2
                routes := .ofTwins hub.notifyChannel hub.twins.toList }) := by
  unfold restore
  rcases pass_outcome .everyTwin hub with ⟨hn, h⟩ | ⟨e, he, h⟩
  · exact Or.inr ⟨hn, by rw [bind_ok h]; rfl⟩
  · exact Or.inl ⟨e, he, bind_error h⟩

/-! ### Views -/

/-- A view changes nothing. --/
theorem viewTwin_frame (token id : String) (hub : Hub) :
    ∃ faults, (outcome (viewTwin token id) hub).2 = { hub with faults } := by
  unfold outcome viewTwin
  rcases identify_cases token hub with ⟨e, faults, h⟩ | ⟨owner, faults, -, h⟩
  · exact ⟨faults, by rw [bind_error h]⟩
  rw [bind_ok h]
  rcases retrieve_cases id { hub with faults } with ⟨e, faults, h⟩ | ⟨twin, faults, -, h⟩
  · exact ⟨faults, by rw [bind_error h]⟩
  · refine ⟨faults, ?_⟩
    rw [bind_ok h]
    by_cases ho : twin.owner ≠ owner
    · rw [if_pos ho, throw_apply]
    · rw [if_neg ho, pure_apply]

theorem listTwins_frame (token : String) (offset limit : Nat) (name : Option String) (metadata : Option JsonFields)
    (hub : Hub) : ∃ faults, (outcome (listTwins token offset limit name metadata) hub).2 = { hub with faults } := by
  unfold outcome listTwins
  rcases identify_cases token hub with ⟨e, faults, h⟩ | ⟨owner, faults, -, h⟩
  · exact ⟨faults, by rw [bind_error h]⟩
  rw [bind_ok h]
  rcases pass_cases .listTwins { hub with faults } with ⟨faults, h⟩ | ⟨e, faults, h⟩
  · exact ⟨faults, by rw [bind_ok h, bind_get, pure_apply]⟩
  · exact ⟨faults, by rw [bind_error h]⟩

theorem listStates_frame (token twinId : String) (offset limit : Nat) (hub : Hub) :
    ∃ faults, (outcome (listStates token twinId offset limit) hub).2 = { hub with faults } := by
  unfold outcome listStates
  rcases identify_cases token hub with ⟨e, faults, h⟩ | ⟨owner, faults, -, h⟩
  · exact ⟨faults, by rw [bind_error h]⟩
  rw [bind_ok h]
  rcases retrieve?_cases twinId { hub with faults } with ⟨e, faults, h⟩ | ⟨faults, h⟩ | ⟨twin, faults, -, h⟩
  · exact ⟨faults, by rw [bind_error h]⟩
  · exact ⟨faults, by rw [bind_ok h]; rfl⟩
  rw [bind_ok h]
  dsimp only
  by_cases ho : twin.owner = owner
  · rw [if_pos ho]
    rcases pass_cases .listStates { hub with faults } with ⟨faults, h⟩ | ⟨e, faults, h⟩
    · exact ⟨faults, by rw [bind_ok h, bind_get, pure_apply]⟩
    · exact ⟨faults, by rw [bind_error h]⟩
  · exact ⟨faults, by rw [if_neg ho, pure_apply]⟩

end Hub
end DigitalTwin
