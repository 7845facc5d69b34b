import DigitalTwin.Hub.Run
import DigitalTwin.Proofs.Action
import DigitalTwin.Proofs.Listing

/-! The service without an index. A ledger is the list of the live twins, the states of each twin and the
    ids still to be issued; routes, conflicts and subscriptions are found by looking through the persisted
    attributes of the definitions in force. What is wrong with a definition and what a page has are said
    of the lists themselves. A ledger and a hub are asked the same requests. -/

namespace DigitalTwin

/-- The live twins in the order in which they were added, the states of each twin, and the ids to come. -/
structure Ledger where
  twins : List Twin
  histories : String → List State
  ids : Nat → String

/-- What callers ask of the service. -/
inductive Request where
  | add (token : String) (given : Twin) (definition : Definition)
  | update (token : String) (given : Twin) (definition : Definition)
  | remove (token id : String)
  | view (token id : String)
  | list (token : String) (offset limit : Nat) (name : Option String) (metadata : Option JsonFields)
  | save (message : Message)
  | states (token id : String) (offset limit : Nat)
  | resolve (channel subtopic : String)
  | subscriptions

/-- What they are answered. -/
inductive Answer where
  | reply (value : Reply)
  | route (value : Option Route)
  | keys (value : List RouteKey)

namespace Ledger

/-- A ledger without twins and states. -/
def new (ids : IdSource) : Ledger := ⟨[], fun _ => [], fun n => ids.issue (ids.issued + n)⟩

/-! ### Looking things up -/

/-- The live twin with an id. -/
def find? (l : Ledger) (id : String) : Option Twin := l.twins.find? (·.id = id)

/-- The twin and the attribute whose key it is. -/
def route? (l : Ledger) (key : RouteKey) : Option Route :=
  l.twins.findSome? fun twin => (twin.persisted.find? (·.key = key)).map fun a => ⟨twin.id, a, twin.revision⟩

/-- Whether two twins persist one key. -/
def shareKey (twin u : Twin) : Bool := twin.persisted.any fun a => u.persisted.any fun b => b.key = a.key

/-- Whether a live twin other than the given one persists a key of it. -/
def conflicts (l : Ledger) (twin : Twin) : Bool := l.twins.any fun u => u.id ≠ twin.id && shareKey twin u

/-- Every key that a live twin persists, in order. -/
def subscriptions (l : Ledger) : List RouteKey :=
  RouteKey.sorted (RouteKey.setOf (l.twins.flatMap fun twin => twin.persisted.map (·.key)))

/-! ### Objections to definitions -/

/-- The first attribute whose key one before it has. -/
def reuse? (d : Definition) : Option Attribute :=
  (d.attributes.zipIdx.find? fun (a, place) => (d.attributes.take place).any (·.key = a.key)).map (·.1)

/-- The first persisted attribute whose messages would come from the notification channel. -/
def reserved? (notifyChannel : Option String) (d : Definition) : Option Attribute :=
  d.attributes.find? fun a => a.persisted && notifyChannel = some a.channel

/-- What is wrong with a definition. A key that is used again is said before anything else. -/
def objection? (notifyChannel : Option String) (d : Definition) : Option Malformation :=
  match reuse? d with
  | some a => some (.reusedKey a.name a.key)
  | none => (reserved? notifyChannel d).map fun a => .reservedChannel a.name a.channel

/-! ### Entries -/

/-- The state that a measurement adds to a history; its number is its place there. -/
def entry (route : Route) (now : Instant) (history : List State) (m : Senml.Measurement) : State :=
  { twinId := route.twinId
    id := history.length % (maxWord + 1)
    definition := route.revision
    created := m.time.getD now
    payload := Json.insertField route.routed.name m.value ((history.getLast?.map (·.payload)).getD []) }

/-- A history with entries for measurements, the n-th and those behind it. -/
def extend (route : Route) (clock : Clock) : Nat → List State → List Senml.Measurement → List State
  | _, history, [] => history
  | n, history, m :: rest => extend route clock (n + 1) (history ++ [entry route (clock.record n) history m]) rest

/-! ### Requests -/

section
variable (identities : IdentityTable) (notifyChannel : Option String)

/-- Adds a twin of the caller under the next id, unless the caller is unknown, something is wrong with the
    definition, or a key or the id is taken. The id is used up in the last case too. -/
def add (token : String) (given : Twin) (d : Definition) (now : Instant) (l : Ledger) :
    Except ServiceError Twin × Ledger :=
  match identities.identify token with
  | .error e => (.error e, l)
  | .ok owner =>
    match objection? notifyChannel d with
    | some what => (.error (.malformed what), l)
    | none =>
      let twin := given.enrolled d (l.ids 0) owner now
      let used := { l with ids := fun n => l.ids (n + 1) }
      if l.conflicts twin || (l.find? twin.id).isSome then (.error .conflict, used)
      else (.ok twin, { used with twins := l.twins ++ [twin] })

/-- Gives a twin of the caller its next revision, in its place. -/
def update (token : String) (given : Twin) (d : Definition) (now : Instant) (l : Ledger) :
    Except ServiceError Unit × Ledger :=
  match identities.identify token with
  | .error e => (.error e, l)
  | .ok owner =>
    match l.find? given.id with
    | none => (.error .notFound, l)
    | some current =>
      if current.owner ≠ owner then (.error .unauthorized, l)
      else
        match objection? notifyChannel d with
        | some what => (.error (.malformed what), l)
        | none =>
          let twin := current.revised given d now
          if l.conflicts twin then (.error .conflict, l)
          else (.ok (), { l with twins := l.twins.map fun u => if u.id = twin.id then twin else u })

/-- Drops a twin of the caller; any other is left alone. -/
def remove (token id : String) (l : Ledger) : Except ServiceError Unit × Ledger :=
  match identities.identify token with
  | .error e => (.error e, l)
  | .ok owner =>
    match l.find? id with
    | none => (.ok (), l)
    | some twin => if twin.owner ≠ owner then (.ok (), l) else (.ok (), { l with twins := l.twins.filter (·.id ≠ id) })

/-- A twin of the caller; any other is said to be missing. -/
def view (token id : String) (l : Ledger) : Except ServiceError Twin :=
  match identities.identify token with
  | .error e => .error e
  | .ok owner =>
    match l.find? id with
    | none => .error .notFound
    | some twin => if twin.owner ≠ owner then .error .notFound else .ok twin

/-- A page of the caller's twins, in the order in which they were added. -/
def list (token : String) (offset limit : Nat) (name : Option String) (metadata : Option JsonFields) (l : Ledger) :
    Except ServiceError (Page Twin) :=
  match identities.identify token with
  | .error e => .error e
  | .ok owner => .ok (.cutWords (l.twins.filter fun twin => twin.Matches owner name metadata) offset limit)

/-- Adds an entry for each record of a message to the history of the twin that has its key. -/
def save (clock : Clock) (m : Message) (l : Ledger) : Except ServiceError Nat × Ledger :=
  match l.route? m.key with
  | none => (.error .notFound, l)
  | some route =>
    match Senml.decode m.payload clock.start with
    | .error e => (.error e, l)
    | .ok ms =>
      (.ok ms.length,
        { l with
          histories := fun id =>
            if route.twinId = id then extend route clock 0 (l.histories id) ms else l.histories id })

/-- A page of the states of a twin of the caller; of any other there are none. -/
def states (token id : String) (offset limit : Nat) (l : Ledger) : Except ServiceError (Page State) :=
  match identities.identify token with
  | .error e => .error e
  | .ok owner =>
    match l.find? id with
    | none => .ok (.cutWords [] offset limit)
    | some twin => .ok (.cutWords (if twin.owner = owner then l.histories id else []) offset limit)

/-- Answers a request. -/
def serve (clock : Clock) (request : Request) (l : Ledger) : Except ServiceError Answer × Ledger :=
  let reply {α : Type} (make : α → Reply) (r : Except ServiceError α) : Except ServiceError Answer :=
    r.map fun a => .reply (make a)
  match request with
  | .add token given d =>
    let (result, l) := l.add identities notifyChannel token given d clock.start
    (reply .twin result, l)
  | .update token given d =>
    let (result, l) := l.update identities notifyChannel token given d clock.start
    (reply (fun () => .done) result, l)
  | .remove token id =>
    let (result, l) := l.remove identities token id
    (reply (fun () => .done) result, l)
  | .view token id => (reply .twin (l.view identities token id), l)
  | .list token offset limit name metadata => (reply .twins (l.list identities token offset limit name metadata), l)
  | .save m =>
    let (result, l) := l.save clock m
    (reply .count result, l)
  | .states token id offset limit => (reply .states (l.states identities token id offset limit), l)
  | .resolve channel subtopic => (.ok (.route (l.route? ⟨channel, subtopic⟩)), l)
  | .subscriptions => (.ok (.keys l.subscriptions), l)

/-- The answers to requests, one after another. -/
def answers : List (Clock × Request) → Ledger → List (Except ServiceError Answer)
  | [], _ => []
  | (clock, request) :: rest, l =>
    let (answer, l) := l.serve identities notifyChannel clock request
    answer :: answers rest l

end

end Ledger

namespace Hub

/-- Answers a request. -/
def serve (clock : Clock) (request : Request) (hub : Hub) : Except ServiceError Answer × Hub :=
  let call (op : Operation) : Except ServiceError Answer × Hub :=
    let (result, hub) := perform clock op hub
    (result.map .reply, hub)
  match request with
  | .add token given d => call (.add token given d)
  | .update token given d => call (.update token given d)
  | .remove token id => call (.remove token id)
  | .view token id => call (.view token id)
  | .list token offset limit name metadata => call (.list token offset limit name metadata)
  | .save m => call (.save m)
  | .states token id offset limit => call (.states token id offset limit)
  | .resolve channel subtopic => (.ok (.route (hub.routes.get? ⟨channel, subtopic⟩)), hub)
  | .subscriptions => (.ok (.keys (RouteKey.sorted hub.active)), hub)

/-- The answers to requests, one after another. -/
def answers : List (Clock × Request) → Hub → List (Except ServiceError Answer)
  | [], _ => []
  | (clock, request) :: rest, hub =>
    let (answer, hub) := hub.serve clock request
    answer :: answers rest hub

end Hub
end DigitalTwin
