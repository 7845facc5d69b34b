import DigitalTwin.Proofs.Subscriptions

/-! Actions while no failure is due. Nothing is left open then: what an action comes to is told by the
    stores and routes alone, and after aligning the active subscriptions are the routed keys. -/

namespace DigitalTwin

namespace Hub

variable {hub : Hub}

/-! ### Subscriptions -/

theorem faults_of_empty (h : hub.faults = .empty) : { hub with faults := .empty } = hub := by
  cases hub
  cases h
  rfl

theorem attempt_of_empty (h : hub.faults = .empty) (call : SubscriptionCall) :
    attempt call hub =
      (true, { hub with broker := hub.broker.settle call, calls := hub.calls ++ [.subscription call true] }) := by
  cases hub
  cases h
  cases call <;> rfl

theorem perform_of_empty (calls : List SubscriptionCall) (active : List RouteKey) {hub : Hub}
    (h : hub.faults = .empty) : ∃ broker made, SubscriptionCall.perform attempt calls active hub =
      (calls.foldl SubscriptionCall.settle active, { hub with broker, calls := made }) := by
  induction calls generalizing active hub with
  | nil => exact ⟨hub.broker, hub.calls, rfl⟩
  | cons call rest ih =>
    unfold SubscriptionCall.perform
    rw [attempt_of_empty h]
    dsimp only
    have due : ({ hub with
        broker := hub.broker.settle call, calls := hub.calls ++ [.subscription call true] } : Hub).faults = .empty := h
    exact ih (call.settle active) due

/-- Aligned without failures, the active subscriptions are the routed keys. --/
theorem alignSubscriptions_of_empty (h : hub.faults = .empty) (hn : hub.active.Nodup) :
    ∃ active broker calls, alignSubscriptions hub = { hub with active, broker, calls } ∧ active.Nodup ∧
      ∀ key, key ∈ active ↔ key ∈ hub.routes.keys := by
  obtain ⟨broker, calls, hp⟩ := perform_of_empty (SubscriptionCall.pending hub.active hub.routes.keys) hub.active h
  obtain ⟨hn', hm⟩ := SubscriptionCall.settle_pending hn hub.routes.keys
  refine ⟨_, broker, calls, ?_, hn', hm⟩
  unfold alignSubscriptions
  rw [hp]

theorem announce_of_empty (h : hub.faults = .empty) (operation : String) (now : Instant)
    (outcome : Except ServiceError Json) : ∃ calls, announce operation now outcome hub = { hub with calls } := by
  unfold announce notify publish
  split
  · exact ⟨hub.calls, rfl⟩
  · rw [h, FaultPlan.next_empty]
    dsimp only
    exact ⟨_, by rw [← h]⟩

/-! ### Calls of collaborators -/

theorem pass_of_empty (h : hub.faults = .empty) (point : CallPoint) : pass point hub = .ok () hub := by
  unfold pass
  rw [h, FaultPlan.next_empty]
  dsimp only
  rw [faults_of_empty h]

theorem identify_of_empty (h : hub.faults = .empty) (token : String) :
    identify token hub = match hub.identities.identify token with
      | .ok owner => .ok owner hub
      | .error e => .error e hub := by
  unfold identify
  rw [bind_ok (pass_of_empty h _), bind_get, ofExcept_apply]
  cases hub.identities.identify token <;> rfl

theorem issueId_of_empty (h : hub.faults = .empty) :
    issueId hub = .ok hub.ids.next { hub with ids := hub.ids.rest } := by
  unfold issueId
  rw [bind_ok (pass_of_empty h _)]
  rfl

theorem retrieve_of_empty (h : hub.faults = .empty) (id : String) :
    retrieve id hub = match hub.twins.get? id with
      | some twin => .ok twin hub
      | none => .error .notFound hub := by
  unfold retrieve
  rw [bind_ok (pass_of_empty h _), bind_get, ofExcept_apply]
  unfold TwinStore.get
  cases hub.twins.get? id <;> rfl

theorem retrieve?_of_empty (h : hub.faults = .empty) (id : String) :
    retrieve? id hub = .ok (hub.twins.get? id) hub := by
  unfold retrieve?
  rw [retrieve_of_empty h]
  cases hub.twins.get? id <;> rfl

theorem checkDefinition_apply (d : Definition) :
    checkDefinition d hub = match d.requireRoutable hub.notifyChannel with
      | .ok () => .ok () hub
      | .error e => .error e hub := by
  unfold checkDefinition
  rw [bind_get, ofExcept_apply]
  cases d.requireRoutable hub.notifyChannel <;> rfl

/-! ### Changes of twins -/

theorem storeAndRoute_of_empty (h : hub.faults = .empty) (point : CallPoint)
    (store : TwinStore → Twin → Except ServiceError TwinStore) (twin : Twin) :
    storeAndRoute point store twin hub = match hub.routes.requireFree twin with
      | .error e => .error e hub
      | .ok () => match store hub.twins twin with
        | .error e => .error e hub
        | .ok twins => .ok () { hub with twins, routes := (hub.routes.insert twin).2 } := by
  unfold storeAndRoute
  rw [bind_get, bind_apply, ofExcept_apply]
  cases hub.routes.requireFree twin with
  | error e => rfl
  | ok u =>
    dsimp only
    rw [bind_ok (pass_of_empty h _), bind_get, bind_apply, ofExcept_apply]
    cases store hub.twins twin <;> rfl

theorem register_of_empty (h : hub.faults = .empty) (token : String) (given : Twin) (d : Definition) (now : Instant) :
    register token given d now hub = match hub.identities.identify token with
      | .error e => .error e hub
      | .ok owner => match d.requireRoutable hub.notifyChannel with
        | .error e => .error e hub
        | .ok () =>
          match storeAndRoute .saveTwin TwinStore.insert (given.enrolled d hub.ids.next owner now)
            { hub with ids := hub.ids.rest } with
          | .error e hub => .error e hub
          | .ok () after => .ok (given.enrolled d hub.ids.next owner now) (alignSubscriptions after) := by
  unfold register
  rw [bind_apply, identify_of_empty h]
  cases hub.identities.identify token with
  | error e => rfl
  | ok owner =>
    dsimp only
    rw [bind_apply, checkDefinition_apply]
    cases d.requireRoutable hub.notifyChannel with
    | error e => rfl
    | ok u =>
      dsimp only
      rw [bind_ok (issueId_of_empty h), bind_apply]
      unfold Twin.enrolled
      split
      · rename_i hs
        rw [hs]
        rfl
      · rename_i hs
        rw [hs]

theorem revise_of_empty (h : hub.faults = .empty) (token : String) (given : Twin) (d : Definition) (now : Instant) :
    revise token given d now hub = match hub.identities.identify token with
      | .error e => .error e hub
      | .ok owner => match hub.twins.get? given.id with
        | none => .error .notFound hub
        | some current =>
          if current.owner ≠ owner then .error .unauthorized hub
          else match d.requireRoutable hub.notifyChannel with
            | .error e => .error e hub
            | .ok () =>
              match storeAndRoute .updateTwin TwinStore.replace (current.revised given d now) hub with
              | .error e hub => .error e hub
              | .ok () after => .ok () (alignSubscriptions after) := by
  unfold revise
  rw [bind_apply, identify_of_empty h]
  cases hub.identities.identify token with
  | error e => rfl
  | ok owner =>
    dsimp only
    rw [bind_apply, retrieve_of_empty h]
    cases hub.twins.get? given.id with
    | none => rfl
    | some current =>
      dsimp only
      by_cases ho : current.owner ≠ owner
      · rw [if_pos ho, if_pos ho]
        rfl
      · rw [if_neg ho, if_neg ho, bind_apply, checkDefinition_apply]
        cases d.requireRoutable hub.notifyChannel with
        | error e => rfl
        | ok u =>
          dsimp only
          rw [bind_apply]
          unfold Twin.revised
          split
          · rename_i hs
            rw [hs]
            rfl
          · rename_i hs
            rw [hs]

theorem unregister_of_empty (h : hub.faults = .empty) (token id : String) :
    unregister token id hub = match hub.identities.identify token with
      | .error e => .error e hub
      | .ok owner => match hub.twins.get? id with
        | none => .ok () hub
        | some twin =>
          if twin.owner ≠ owner then .ok () hub
          else
            .ok () (alignSubscriptions { hub with
              twins := hub.twins.erase id, routes := (hub.routes.erase id).2 }) := by
  unfold unregister
  rw [bind_apply, identify_of_empty h]
  cases hub.identities.identify token with
  | error e => rfl
  | ok owner =>
    dsimp only
    rw [bind_ok (retrieve?_of_empty h id)]
    cases hub.twins.get? id with
    | none => rfl
    | some twin =>
      dsimp only
      by_cases ho : twin.owner ≠ owner
      · rw [if_pos ho, if_pos ho]
        rfl
      · rw [if_neg ho, if_neg ho]
        unfold discard
        rw [bind_ok (pass_of_empty h _)]
        rfl

/-! ### Views -/

theorem viewTwin_of_empty (h : hub.faults = .empty) (token id : String) :
    viewTwin token id hub = match hub.identities.identify token with
      | .error e => .error e hub
      | .ok owner => match hub.twins.get? id with
        | none => .error .notFound hub
        | some twin => if twin.owner ≠ owner then .error .notFound hub else .ok twin hub := by
  unfold viewTwin
  rw [bind_apply, identify_of_empty h]
  cases hub.identities.identify token with
  | error e => rfl
  | ok owner =>
    dsimp only
    rw [bind_apply, retrieve_of_empty h]
    cases hub.twins.get? id with
    | none => rfl
    | some twin =>
      dsimp only
      split <;> rfl

theorem listTwins_of_empty (h : hub.faults = .empty) (token : String) (offset limit : Nat) (name : Option String)
    (metadata : Option JsonFields) :
    listTwins token offset limit name metadata hub = match hub.identities.identify token with
      | .error e => .error e hub
      | .ok owner => .ok (hub.twins.page ⟨owner, name, metadata⟩ offset limit) hub := by
  unfold listTwins
  rw [bind_apply, identify_of_empty h]
  cases hub.identities.identify token with
  | error e => rfl
  | ok owner =>
    dsimp only
    rw [bind_ok (pass_of_empty h _)]
    rfl

theorem listStates_of_empty (h : hub.faults = .empty) (token id : String) (offset limit : Nat) :
    listStates token id offset limit hub = match hub.identities.identify token with
      | .error e => .error e hub
      | .ok owner => match hub.twins.get? id with
        | none => .ok (.empty offset limit) hub
        | some twin =>
          if twin.owner = owner then .ok (hub.states.page id offset limit) hub else .ok (.empty offset limit) hub := by
  unfold listStates
  rw [bind_apply, identify_of_empty h]
  cases hub.identities.identify token with
  | error e => rfl
  | ok owner =>
    dsimp only
    rw [bind_ok (retrieve?_of_empty h id)]
    cases hub.twins.get? id with
    | none => rfl
    | some twin =>
      dsimp only
      split
      · rw [bind_ok (pass_of_empty h _)]
        rfl
      · rfl

/-! ### Saving states -/

theorem saveSnapshots_of_empty (route : Route) (clock : Clock) (ms : List Senml.Measurement) (n : Nat)
    (last : Option State) {hub : Hub} (h : hub.faults = .empty) :
    saveSnapshots route clock n last ms hub =
      .ok () { hub with states := hub.states.appendAll (snapshots route clock n last ms) } := by
  induction ms generalizing n last hub with
  | nil => rfl
  | cons m rest ih =>
    have saved : saveState (snapshot route (clock.record n) last m) hub =
        .ok () { hub with states := hub.states.append (snapshot route (clock.record n) last m) } := by
      unfold saveState
      rw [bind_ok (pass_of_empty h _), modify_apply]
    unfold saveSnapshots
    dsimp only
    rw [bind_ok saved]
    have due : ({ hub with
        states := hub.states.append (snapshot route (clock.record n) last m) } : Hub).faults = .empty := h
    exact ih (n + 1) _ due

theorem recordStates_of_empty (h : hub.faults = .empty) (clock : Clock) (m : Message) :
    recordStates clock m hub = match hub.routes.get? m.key with
      | none => .error .notFound hub
      | some route => match Senml.decode m.payload clock.start with
        | .error e => .error e hub
        | .ok ms =>
          .ok ms.length { hub with
            states := hub.states.appendAll (snapshots route clock 0 (hub.states.last? route.twinId) ms) } := by
  unfold recordStates
  rw [bind_get]
  cases hub.routes.get? m.key with
  | none => rfl
  | some route =>
    dsimp only
    rw [bind_apply, ofExcept_apply]
    cases Senml.decode m.payload clock.start with
    | error e => rfl
    | ok ms =>
      dsimp only
      have last : lastState route.twinId hub = .ok (hub.states.last? route.twinId) hub := by
        unfold lastState
        rw [bind_ok (pass_of_empty h _), bind_get, pure_apply]
      split
      · rename_i hempty
        rw [List.isEmpty_iff.mp hempty]
        rfl
      · rw [bind_ok last, bind_ok (saveSnapshots_of_empty route clock ms 0 _ h), pure_apply]

end Hub
end DigitalTwin
