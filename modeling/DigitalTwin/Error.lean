import DigitalTwin.Binary64.Decimal
import DigitalTwin.Entity.RouteKey

/-!
Why an operation fails, and the texts that say so.
-/

namespace DigitalTwin

/-- What is wrong with an entity that is refused. -/
inductive Malformation where
  /-- The payload is not a SenML pack in JSON. -/
  | payload
  /-- An attribute takes a key that an earlier one has. -/
  | reusedKey (name : String) (key : RouteKey)
  /-- An attribute persists the channel that is kept for notifications. -/
  | reservedChannel (name channel : String)
  /-- A record is timed outside the years that instants can have. -/
  | recordTime (seconds : Binary64)
  /-- A collaborator refuses the entity, for a reason of its own. -/
  | refused (reason : String)
deriving DecidableEq, Repr

def Malformation.message : Malformation → String
  | .payload => "<json error>"
  | .reusedKey name key =>
    "attribute '" ++ name ++ "' reuses channel '" ++ key.channel ++ "' subtopic '" ++ key.subtopic ++ "'"
  | .reservedChannel name channel =>
    "attribute '" ++ name ++ "' persists the notification channel '" ++ channel ++ "'"
  | .recordTime seconds => "record time " ++ seconds.plainText ++ " out of range"
  | .refused reason => reason

/-- Why an operation fails. -/
inductive ServiceError where
  | unauthorized
  | notFound
  | conflict
  | malformed (what : Malformation)
  | storage (reason : String)
  | transport (reason : String)
deriving DecidableEq, Repr

def ServiceError.message : ServiceError → String
  | .unauthorized => "missing or invalid credentials provided"
  | .notFound => "non-existent entity"
  | .conflict => "entity already exists"
  | .malformed what => "malformed entity specification: " ++ what.message
  | .storage reason => "storage failure: " ++ reason
  | .transport reason => "transport failure: " ++ reason

end DigitalTwin
