import DigitalTwin.Error
import DigitalTwin.Table

/-!
Access tokens and the identities that they stand for. A token that is added again gets the new identity.
-/

namespace DigitalTwin

/-- Identities by token. -/
abbrev IdentityTable := Table String String

namespace IdentityTable

/-- The identity that a token stands for. -/
def identify (t : IdentityTable) (token : String) : Except ServiceError String :=
  match t.get? token with
  | some identity => .ok identity
  | none => .error .unauthorized

end IdentityTable

end DigitalTwin
