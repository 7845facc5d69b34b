import DigitalTwin.Hub.Lifecycle

/-!
Operations on a hub as data, so that runs of them can be listed: the calls of the service, messages that
arrive through the broker, restarts, and what is done behind the back of the service, such as putting
twins straight into the store and planning failures.
-/

namespace DigitalTwin

/-- Something that happens to a hub. -/
inductive Operation where
  | add (token : String) (given : Twin) (definition : Definition)
  | update (token : String) (given : Twin) (definition : Definition)
  | view (token id : String)
  | list (token : String) (offset limit : Nat) (name : Option String) (metadata : Option JsonFields)
  | remove (token id : String)
  | save (message : Message)
  /-- Messages that are given to the service at once; they take effect in order. -/
  | saveAll (messages : List Message)
  /-- A message that a device publishes. -/
  | receive (message : Message)
  | states (token id : String) (offset limit : Nat)
  | restore
  | restart (notifyChannel : Option String)
  /-- A twin put straight into the store. -/
  | seedTwin (twin : Twin)
  /-- A state put straight into the store. -/
  | seedState (state : State)
  /-- A new script of failures for a point. -/
  | plan (point : CallPoint) (failure : ServiceError) (skip times : Nat)

/-- What an operation that succeeds gives. -/
inductive Reply where
  | done
  | id (value : String)
  | count (value : Nat)
  | twin (value : Twin)
  | twins (value : Page Twin)
  | states (value : Page State)
  | counts (values : List (Except ServiceError Nat))

namespace Hub

/-- Saves the states of messages one after another, whatever each of them comes to. -/
def saveAll (clock : Clock) : List Message → Hub → List (Except ServiceError Nat) × Hub
  | [], hub => ([], hub)
  | m :: rest, hub =>
    let (result, hub) := outcome (saveStates clock m) hub
    let (results, hub) := saveAll clock rest hub
    (result :: results, hub)

/-- Performs an operation by the clock that runs meanwhile. -/
def perform (clock : Clock) (op : Operation) (hub : Hub) : Except ServiceError Reply × Hub :=
  let reply {α : Type} (make : α → Reply) (action : Action α) : Except ServiceError Reply × Hub :=
    let (result, hub) := outcome action hub
    (result.map make, hub)
  match op with
  | .add token given d => reply .twin (addTwin token given d clock.start)
  | .update token given d => reply (fun () => .done) (updateTwin token given d clock.start)
  | .view token id => reply .twin (viewTwin token id)
  | .list token offset limit name metadata => reply .twins (listTwins token offset limit name metadata)
  | .remove token id => reply (fun () => .done) (removeTwin token id clock.start)
  | .save m => reply .count (saveStates clock m)
  | .saveAll ms =>
    let (results, hub) := saveAll clock ms hub
    (.ok (.counts results), hub)
  | .receive m => (.ok .done, receive clock m hub)
  | .states token id offset limit => reply .states (listStates token id offset limit)
  | .restore => reply .count restore
  | .restart notifyChannel => (.ok .done, hub.restart notifyChannel)
  | .seedTwin twin =>
    match hub.twins.insert twin with
    | .ok twins => (.ok (.id twin.id), { hub with twins })
    | .error e => (.error e, hub)
  | .seedState state => (.ok .done, { hub with states := hub.states.append state })
  | .plan point failure skip times =>
    (.ok .done, { hub with faults := hub.faults.schedule point failure skip times })

/-- The hub after a run of operations, each by its own clock. -/
def run (hub : Hub) (ops : List (Clock × Operation)) : Hub :=
  ops.foldl (fun hub (clock, op) => (perform clock op hub).2) hub

end Hub

end DigitalTwin
