import DigitalTwin.Broker
import DigitalTwin.Hub.Fault
import DigitalTwin.Identity
import DigitalTwin.RouteTable
import DigitalTwin.Store.States
import DigitalTwin.Store.Twins
import DigitalTwin.Subscription

/-!
The hub: the state behind the service, with its stores, its transport and everything that its
collaborators remember. An action changes the hub and may fail; what it changed before it failed stays
changed.
-/

namespace DigitalTwin

/-- Ids in the order in which they are issued. -/
structure IdSource where
  issue : Nat → String
  issued : Nat

/-- What the hub had its transport do, and whether that succeeded. -/
inductive TransportCall where
  | subscription (call : SubscriptionCall) (succeeded : Bool)
  | publish (message : Message) (succeeded : Bool)
deriving DecidableEq

/-- The clock during one operation: its reading when the operation starts, which relative record times
are counted from, and its reading when the state of the n-th record is made. -/
structure Clock where
  start : Instant
  record : Nat → Instant

/-- A clock that stands still. -/
def Clock.at (now : Instant) : Clock := ⟨now, fun _ => now⟩

/-- The state of a hub. -/
structure Hub where
  identities : IdentityTable
  ids : IdSource
  notifyChannel : Option String
  twins : TwinStore
  states : StateStore
  routes : RouteTable
  /-- The keys that the hub knows to be subscribed. -/
  active : List RouteKey
  /-- The transport; the only handler that subscribes is the hub. -/
  broker : Broker Unit
  faults : FaultPlan
  /-- Every call of the transport so far. -/
  calls : List TransportCall

/-- A change of the hub that may fail. -/
abbrev Action := EStateM ServiceError Hub

namespace Hub

/-- A hub without twins and states. -/
def new (identities : IdentityTable) (ids : IdSource) (notifyChannel : Option String) : Hub :=
  { identities, ids, notifyChannel
    twins := .empty
    states := .empty
    routes := .empty
    active := []
    broker := .empty
    faults := .empty
    calls := [] }

/-- The hub started again over the same stores, on a new broker and with nothing routed. -/
def restart (notifyChannel : Option String) (hub : Hub) : Hub :=
  { hub with
    notifyChannel
    routes := .empty
    active := []
    broker := .empty }

/-- The outcome of an action and the hub behind it. -/
def outcome {α : Type} (action : Action α) (hub : Hub) : Except ServiceError α × Hub :=
  match action hub with
  | .ok a hub => (.ok a, hub)
  | .error e hub => (.error e, hub)

/-- Goes past a point where a collaborator may fail. -/
def pass (point : CallPoint) : Action Unit := fun hub =>
  let (failure, faults) := hub.faults.next point
  let hub := { hub with faults }
  match failure with
  | none => .ok () hub
  | some e => .error e hub

/-- The outcome of something that leaves the hub as it is. -/
def ofExcept {α : Type} : Except ServiceError α → Action α
  | .ok a => fun hub => .ok a hub
  | .error e => fun hub => .error e hub

/-- The identity that a token stands for. -/
def identify (token : String) : Action String := do
  pass .identify
  ofExcept ((← get).identities.identify token)

/-- The next id. -/
def issueId : Action String := do
  pass .issueId
  modifyGet fun hub =>
    (hub.ids.issue hub.ids.issued, { hub with ids := ⟨hub.ids.issue, hub.ids.issued + 1⟩ })

/-- The stored twin with an id. -/
def retrieve (id : String) : Action Twin := do
  pass .retrieveTwin
  ofExcept ((← get).twins.get id)

/-- The stored twin with an id, if the store does not miss it. -/
def retrieve? (id : String) : Action (Option Twin) := fun hub =>
  match retrieve id hub with
  | .ok twin hub => .ok (some twin) hub
  | .error .notFound hub => .ok none hub
  | .error e hub => .error e hub

/-- Stores a state. -/
def saveState (state : State) : Action Unit := do
  pass .saveState
  modify fun hub => { hub with states := hub.states.append state }

end Hub

end DigitalTwin
