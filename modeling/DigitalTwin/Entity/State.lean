import DigitalTwin.Json.Value
import DigitalTwin.Entity.RouteKey
import DigitalTwin.Time.Instant

/-!
States, the snapshots that telemetry leaves of a twin, and the messages that carry telemetry.
-/

namespace DigitalTwin

/-- A snapshot of a twin: the last value of each attribute that was ever measured. -/
structure State where
  twinId : String
  /-- The place in the history of the twin. -/
  id : Nat
  /-- The revision whose definition routed the measurement. -/
  definition : Nat
  created : Instant
  payload : JsonFields
deriving Inhabited

/-- A message of the transport. -/
structure Message where
  channel : String
  subtopic : String
  publisher : String
  payload : List UInt8
  created : Instant
deriving DecidableEq, Inhabited

def Message.key (m : Message) : RouteKey := ⟨m.channel, m.subtopic⟩

end DigitalTwin
