import DigitalTwin.Proofs.Run

/-! Two runs side by side. A relation of hubs is in accord with the service if related hubs show the same wherever
    an action looks at them, and stay related where an action changes both. Every action then comes to the same on
    related hubs and leaves them related, and so does every call of the service. What a relation has to have for
    this is asked of it in one place. -/

namespace DigitalTwin

/-- The calls that go to the transport. -/
def CallPoint.isTransport : CallPoint → Bool
  | .subscribe | .unsubscribe | .publish => true
  | _ => false

/-- The calls that callers make of the service, past its broker. -/
def Operation.isDirect : Operation → Bool
  | .add .. | .update .. | .view .. | .list .. | .remove .. | .save _ | .saveAll _ | .states .. | .restore => true
  | _ => false

namespace Hub

variable {R : Hub → Hub → Prop} {hub hub' : Hub} {α β : Type}

/-! ### Actions that come to the same -/

/-- Something has come to the same on two hubs and left them related. -/
structure Concur (R : Hub → Hub → Prop) (p p' : α × Hub) : Prop where
  same : p.1 = p'.1
  related : R p.2 p'.2

theorem Concur.map {p p' : α × Hub} (h : Concur R p p') (f : α → β) : Concur R (f p.1, p.2) (f p'.1, p'.2) :=
  ⟨congrArg f h.same, h.related⟩

/-- On related hubs, an action comes to the same and leaves them related. -/
def Respects (R : Hub → Hub → Prop) (action : Action α) : Prop :=
  ∀ hub hub', R hub hub' → Concur R (outcome action hub) (outcome action hub')

theorem outcome_bind (x : Action α) (f : α → Action β) (hub : Hub) :
    outcome (x >>= f) hub = match outcome x hub with
      | (.ok a, hub) => outcome (f a) hub
      | (.error e, hub) => (.error e, hub) := by
  unfold outcome
  rw [bind_apply]
  cases x hub <;> rfl

theorem outcome_retrieve? (id : String) (hub : Hub) :
    outcome (retrieve? id) hub = match outcome (retrieve id) hub with
      | (.ok twin, hub) => (.ok (some twin), hub)
      | (.error .notFound, hub) => (.ok none, hub)
      | (.error e, hub) => (.error e, hub) := by
  unfold outcome retrieve?
  cases retrieve id hub with
  | ok twin hub => rfl
  | error e hub => cases e <;> rfl

namespace Respects

theorem bind {x : Action α} {f : α → Action β} (hx : Respects R x) (hf : ∀ a, Respects R (f a)) :
    Respects R (x >>= f) := by
  intro hub hub' h
  have first := hx hub hub' h
  rw [outcome_bind, outcome_bind]
  generalize outcome x hub = p, outcome x hub' = p' at first ⊢
  obtain ⟨⟨r, s⟩, ⟨r', s'⟩⟩ := p, p'
  obtain ⟨same, related⟩ := first
  obtain rfl : r = r' := same
  -- Both go on or both stop, since they have come to the same.
  cases r with
  | ok a => exact hf a s s' related
  | error e => exact ⟨rfl, related⟩

theorem of_pure (a : α) : Respects R (pure a : Action α) := fun _ _ h => ⟨rfl, h⟩

theorem of_throw (e : ServiceError) : Respects R (throw e : Action α) := fun _ _ h => ⟨rfl, h⟩

/-- What follows a result that can fail need be considered for a success only. --/
theorem ofExcept_bind {r : Except ServiceError α} {f : α → Action β} (hf : ∀ a, r = .ok a → Respects R (f a)) :
    Respects R (ofExcept r >>= f) := by
  cases r with
  | ok a => exact hf a rfl
  | error e => exact fun _ _ h => ⟨rfl, h⟩

theorem of_ofExcept (r : Except ServiceError α) : Respects R (ofExcept r) := by
  cases r with
  | ok a => exact of_pure a
  | error e => exact of_throw e

/-- To look at a hub is allowed as long as what differs is not seen. --/
theorem of_get {f : Hub → Action α} (same : ∀ hub hub', R hub hub' → f hub = f hub')
    (hf : ∀ hub hub', R hub hub' → Respects R (f hub)) : Respects R ((get : Action Hub) >>= f) := by
  intro hub hub' h
  have read : outcome ((get : Action Hub) >>= f) hub' = outcome (f hub) hub' := by
    rw [same hub hub' h]
    rfl
  rw [read]
  exact hf hub hub' h hub hub' h

theorem of_modify {g : Hub → Hub} (hg : ∀ hub hub', R hub hub' → R (g hub) (g hub')) :
    Respects R (modify g : Action Unit) := fun hub hub' h => ⟨rfl, hg hub hub' h⟩

theorem retrieve? {id : String} (h : Respects R (retrieve id)) : Respects R (retrieve? id) := by
  intro hub hub' related
  have first := h hub hub' related
  rw [outcome_retrieve?, outcome_retrieve?]
  generalize outcome (retrieve id) hub = p, outcome (retrieve id) hub' = p' at first ⊢
  obtain ⟨⟨r, s⟩, ⟨r', s'⟩⟩ := p, p'
  obtain ⟨same, related⟩ := first
  obtain rfl : r = r' := same
  cases r with
  | ok twin => exact ⟨rfl, related⟩
  | error e => cases e <;> exact ⟨rfl, related⟩

end Respects

/-! ### Relations in accord with the service -/

/-- Related hubs show the same of their records, the failures of all but the transport are the same on both, and
    they stay related through each of the changes that do not depend on a definition. -/
structure Accord (R : Hub → Hub → Prop) : Prop where
  identities {hub hub' : Hub} : R hub hub' → hub.identities = hub'.identities
  get {hub hub' : Hub} : R hub hub' → ∀ id, hub.twins.get id = hub'.twins.get id
  page {hub hub' : Hub} : R hub hub' → ∀ filter offset limit,
    hub.twins.page filter offset limit = hub'.twins.page filter offset limit
  states {hub hub' : Hub} : R hub hub' → hub.states = hub'.states
  routes {hub hub' : Hub} : R hub hub' → hub.routes = hub'.routes
  pass : ∀ point, point.isTransport = false → Respects R (pass point)
  append {hub hub' : Hub} : R hub hub' → ∀ state,
    R { hub with states := hub.states.append state } { hub' with states := hub'.states.append state }
  erase {hub hub' : Hub} : R hub hub' → ∀ id,
    R { hub with twins := hub.twins.erase id, routes := (hub.routes.erase id).2 }
      { hub' with twins := hub'.twins.erase id, routes := (hub'.routes.erase id).2 }
  restored {hub hub' : Hub} : R hub hub' →
    R { hub with routes := .ofTwins hub.notifyChannel hub.twins.toList }
      { hub' with routes := .ofTwins hub'.notifyChannel hub'.twins.toList }
  align {hub hub' : Hub} : R hub hub' → R (alignSubscriptions hub) (alignSubscriptions hub')
  announce {hub hub' : Hub} : R hub hub' → ∀ operation now result,
    R (announce operation now result hub) (announce operation now result hub')

/-- Stores a twin whose keys are free, and routes it. -/
def storing (store : TwinStore → Twin → Except ServiceError TwinStore) (twin : Twin) : Action Unit := do
  let twins ← ofExcept (store (← get).twins twin)
  modify fun hub => { hub with twins, routes := (hub.routes.insert twin).2 }

/-- A definition is checked alike on related hubs, and a twin with it in force can be stored on both. -/
structure Admits (R : Hub → Hub → Prop) (d : Definition) : Prop where
  check : Respects R (checkDefinition d)
  enrolled : ∀ (given : Twin) id owner now, Respects R (storing TwinStore.insert (given.enrolled d id owner now))
  revised : ∀ (current given : Twin) now, Respects R (storing TwinStore.replace (current.revised given d now))

/-- What a relation has to have besides for an operation: ids are issued alike if it uses one up, and its definition is
    admitted. -/
def Suits (R : Hub → Hub → Prop) : Operation → Prop
  | .add _ _ d => Respects R issueId ∧ Admits R d
  | .update _ _ d => Admits R d
  | _ => True

namespace Accord

variable (A : Accord R)
include A

theorem identify (token : String) : Respects R (identify token) :=
  (A.pass _ rfl).bind fun _ => .of_get (fun _ _ h => by rw [A.identities h]) fun _ _ _ => .of_ofExcept _

theorem retrieve (id : String) : Respects R (retrieve id) :=
  (A.pass _ rfl).bind fun _ => .of_get (fun _ _ h => by rw [A.get h]) fun _ _ _ => .of_ofExcept _

theorem aligning : Respects R (modify alignSubscriptions : Action Unit) := .of_modify fun _ _ h => A.align h

/-! ### Changes of twins -/

theorem storeAndRoute {point : CallPoint} (hp : point.isTransport = false)
    {store : TwinStore → Twin → Except ServiceError TwinStore} {twin : Twin} (hs : Respects R (storing store twin)) :
    Respects R (storeAndRoute point store twin) :=
  .of_get (fun _ _ h => by rw [A.routes h]) fun _ _ _ => (Respects.of_ofExcept _).bind fun _ =>
    (A.pass point hp).bind fun _ => hs

theorem register {d : Definition} (issue : Respects R issueId) (hd : Admits R d) (token : String) (given : Twin)
    (now : Instant) : Respects R (register token given d now) := by
  refine (A.identify token).bind fun owner => hd.check.bind fun _ => issue.bind fun id => ?_
  exact (A.storeAndRoute rfl (hd.enrolled given id owner now)).bind fun _ => A.aligning.bind fun _ => .of_pure _

theorem revise {d : Definition} (hd : Admits R d) (token : String) (given : Twin) (now : Instant) :
    Respects R (revise token given d now) := by
  refine (A.identify token).bind fun owner => (A.retrieve given.id).bind fun current => ?_
  by_cases ho : current.owner ≠ owner
  · rw [if_pos ho]
    exact .of_throw _
  · rw [if_neg ho]
    refine hd.check.bind fun _ => ?_
    exact (A.storeAndRoute rfl (hd.revised current given now)).bind fun _ => A.aligning

theorem discard (id : String) : Respects R (discard id) :=
  (A.pass _ rfl).bind fun _ => (Respects.of_modify fun _ _ h => A.erase h id).bind fun _ => A.aligning

theorem unregister (token id : String) : Respects R (unregister token id) := by
  refine (A.identify token).bind fun owner => (A.retrieve id).retrieve?.bind fun found => ?_
  cases found with
  | none => exact .of_pure ()
  | some twin =>
    dsimp only
    split
    · exact .of_pure ()
    · exact A.discard id

theorem restore : Respects R restore := by
  refine (A.pass _ rfl).bind fun _ => (Respects.of_modify fun _ _ h => A.restored h).bind fun _ => ?_
  exact .of_get (fun _ _ h => by rw [A.routes h]) fun _ _ _ => A.aligning.bind fun _ => .of_pure _

/-! ### Views -/

theorem viewTwin (token id : String) : Respects R (viewTwin token id) := by
  refine (A.identify token).bind fun owner => (A.retrieve id).bind fun twin => ?_
  split
  · exact .of_throw _
  · exact .of_pure _

theorem listTwins (token : String) (offset limit : Nat) (name : Option String) (metadata : Option JsonFields) :
    Respects R (listTwins token offset limit name metadata) := by
  refine (A.identify token).bind fun owner => (A.pass _ rfl).bind fun _ => ?_
  exact .of_get (fun _ _ h => by rw [A.page h]) fun _ _ _ => .of_pure _

theorem listStates (token id : String) (offset limit : Nat) : Respects R (listStates token id offset limit) := by
  refine (A.identify token).bind fun owner => (A.retrieve id).retrieve?.bind fun found => ?_
  cases found with
  | none => exact .of_pure _
  | some twin =>
    dsimp only
    split
    · exact (A.pass _ rfl).bind fun _ => .of_get (fun _ _ h => by rw [A.states h]) fun _ _ _ => .of_pure _
    · exact .of_pure _

/-! ### Saving states -/

theorem saveState (state : State) : Respects R (saveState state) :=
  (A.pass _ rfl).bind fun _ => .of_modify fun _ _ h => A.append h state

theorem saveSnapshots (route : Route) (clock : Clock) (ms : List Senml.Measurement) (n : Nat) (last : Option State) :
    Respects R (saveSnapshots route clock n last ms) := by
  induction ms generalizing n last with
  | nil => exact .of_pure ()
  | cons m rest ih => exact (A.saveState _).bind fun _ => ih (n + 1) _

theorem lastState (twinId : String) : Respects R (lastState twinId) :=
  (A.pass _ rfl).bind fun _ => .of_get (fun _ _ h => by rw [A.states h]) fun _ _ _ => .of_pure _

theorem recordStates (clock : Clock) (m : Message) : Respects R (recordStates clock m) := by
  refine .of_get (fun _ _ h => by rw [A.routes h]) fun hub _ _ => ?_
  cases hub.routes.get? m.key with
  | none => exact .of_throw _
  | some route =>
    refine (Respects.of_ofExcept _).bind fun measurements => ?_
    split
    · exact .of_pure 0
    · refine (A.lastState route.twinId).bind fun before => ?_
      exact (A.saveSnapshots route clock measurements 0 before).bind fun _ => .of_pure _

/-! ### Calls of the service -/

theorem saveStates (h : R hub hub') (hq : Quiet hub) (hq' : Quiet hub') (clock : Clock) (m : Message) :
    Concur R (outcome (saveStates clock m) hub) (outcome (saveStates clock m) hub') := by
  obtain ⟨same, related⟩ := A.recordStates clock m hub hub' h
  rw [outcome_saveStates hq, outcome_saveStates hq', ← same]
  exact ⟨rfl, A.announce related ..⟩

theorem saveAll (clock : Clock) (ms : List Message) (h : R hub hub') (hq : Quiet hub) (hq' : Quiet hub') :
    Concur R (saveAll clock ms hub) (saveAll clock ms hub') := by
  induction ms generalizing hub hub' with
  | nil => exact ⟨rfl, h⟩
  | cons m rest ih =>
    obtain ⟨same, related⟩ := A.saveStates h hq hq' clock m
    obtain ⟨sames, related⟩ := ih related (hq.saveStates clock m) (hq'.saveStates clock m)
    exact ⟨congrArg₂ List.cons same sames, related⟩

/-- Each call of the service comes to the same on related hubs and leaves them related. --/
theorem perform (h : R hub hub') (hq : Quiet hub) (hq' : Quiet hub') (clock : Clock) {op : Operation}
    (direct : op.isDirect = true) (suits : Suits R op) : Concur R (perform clock op hub) (perform clock op hub') := by
  cases op with
  | add token given d =>
    obtain ⟨same, related⟩ := A.register suits.1 suits.2 token given clock.start hub hub' h
    rw [perform_add hq, perform_add hq', ← same]
    exact ⟨rfl, A.announce related ..⟩
  | update token given d =>
    obtain ⟨same, related⟩ := A.revise suits token given clock.start hub hub' h
    rw [perform_update hq, perform_update hq', ← same]
    exact ⟨rfl, A.announce related ..⟩
  | remove token id =>
    obtain ⟨same, related⟩ := A.unregister token id hub hub' h
    rw [perform_remove hq, perform_remove hq', ← same]
    exact ⟨rfl, A.announce related ..⟩
  | view token id => exact (A.viewTwin token id hub hub' h).map (Except.map _)
  | list token offset limit name metadata =>
    exact (A.listTwins token offset limit name metadata hub hub' h).map (Except.map _)
  | states token id offset limit => exact (A.listStates token id offset limit hub hub' h).map (Except.map _)
  | save m => exact (A.saveStates h hq hq' clock m).map (Except.map _)
  | saveAll ms => exact (A.saveAll clock ms h hq hq').map fun results => Except.ok (Reply.counts results)
  | restore => exact (A.restore hub hub' h).map (Except.map _)
  | receive | restart | seedTwin | seedState | plan => cases direct

end Accord
end Hub
end DigitalTwin
