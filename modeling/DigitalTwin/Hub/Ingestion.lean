import DigitalTwin.Hub.Transport
import DigitalTwin.Senml.Pack
import DigitalTwin.Word

/-!
From messages to states. The key of a message is resolved to a twin and an attribute, its payload is
read as a SenML pack, and every record becomes one state: the state before it with the attribute set to
the value of the record.
-/

namespace DigitalTwin

namespace Hub

/-- The state that a measurement makes of the one before it. -/
def snapshot (route : Route) (now : Instant) (last : Option State) (m : Senml.Measurement) : State :=
  { twinId := route.twinId
    id := match last with
      | some before => nextWord before.id
      | none => 0
    definition := route.revision
    created := m.time.getD now
    payload := Json.insertField route.routed.name m.value ((last.map (·.payload)).getD []) }

/-- Stores a state for each measurement, the n-th and those behind it. -/
def saveSnapshots (route : Route) (clock : Clock) (n : Nat) (last : Option State) :
    List Senml.Measurement → Action Unit
  | [] => return ()
  | m :: rest => do
    let state := snapshot route (clock.record n) last m
    saveState state
    saveSnapshots route clock (n + 1) (some state) rest

/-- The last state of a twin. -/
def lastState (twinId : String) : Action (Option State) := do
  pass .lastState
  return (← get).states.last? twinId

/-- Stores the states that a message makes, and counts them. -/
def recordStates (clock : Clock) (m : Message) : Action Nat := do
  match (← get).routes.get? m.key with
  | none => throw .notFound
  | some route =>
    let measurements ← ofExcept (Senml.decode m.payload clock.start)
    if measurements.isEmpty then
      return 0
    else
      saveSnapshots route clock 0 (← lastState route.twinId) measurements
      return measurements.length

/-- What is announced of a message that was ingested. -/
def report (m : Message) (states : Nat) : Json :=
  .ofFields [("channel", .text m.channel), ("subtopic", .text m.subtopic), ("states", .integer states)]

/-- What the broker does with a message: the hub ingests it if it has subscribed to its key. The
notification of that may be delivered in turn, down to `depth` messages. -/
def deliver (clock : Clock) : Nat → Message → Hub → Hub
  | 0, _, hub => hub
  | depth + 1, m, hub =>
    let work : Broker.Work Unit Hub := fun () m hub =>
      let save := announced (deliver clock depth) "saveStates" clock.start (report m) (recordStates clock m)
      let (result, hub) := outcome save hub
      (result.map fun _ => (), hub)
    hub.broker.publish work m hub

/-- A message and the notification of it: no notification is ever on a key that is subscribed. -/
def deliveryDepth : Nat := 2

/-- Ingests a message and announces the outcome. -/
def saveStates (clock : Clock) (m : Message) : Action Nat :=
  announced (deliver clock deliveryDepth) "saveStates" clock.start (report m) (recordStates clock m)

/-- Publishes a message of a device through the broker. -/
def receive (clock : Clock) (m : Message) (hub : Hub) : Hub := deliver clock deliveryDepth m hub

end Hub

end DigitalTwin
