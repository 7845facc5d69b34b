import DigitalTwin.Identity
import DigitalTwin.Text.Blank

/-!
Access tokens on the command line: pairs `token=identity` between commas. White space around the pairs
and around their parts does not count, nor do pairs that are nothing else. The identity may contain `=`.
-/

namespace DigitalTwin

/-- Why a pair is refused. -/
inductive TokenError where
  /-- It has no `=`. -/
  | unassigned (pair : String)
  /-- Its token or its identity is blank. -/
  | blankPart (pair : String)
deriving DecidableEq, Repr

def TokenError.message : TokenError → String
  | .unassigned pair => "invalid token pair '" ++ pair ++ "', expected token=identity"
  | .blankPart pair => "invalid token pair '" ++ pair ++ "', empty token or identity"

namespace IdentityTable

/-- The parts of a text between the commas. -/
def segments (s : List Char) : List (List Char) := s.splitOn ','

/-- The pairs of a text: its segments without the white space around them, except the blank ones. -/
def pairs (s : List Char) : List (List Char) := ((segments s).map Text.trim).filter (!·.isEmpty)

/-- A pair cut at its first `=`. -/
def cut? (pair : List Char) : Option (List Char × List Char) :=
  match pair.dropWhile (· ≠ '=') with
  | [] => none
  | _ :: identity => some (pair.takeWhile (· ≠ '='), identity)

/-- The token and the identity of a pair. -/
def readPair (pair : List Char) : Except TokenError (String × String) :=
  match cut? pair with
  | none => .error (.unassigned (String.ofList pair))
  | some (token, identity) =>
    let token := Text.trim token
    let identity := Text.trim identity
    if token.isEmpty || identity.isEmpty then .error (.blankPart (String.ofList pair))
    else .ok (String.ofList token, String.ofList identity)

/-- The table with the tokens of some pairs added in order; the first pair that is refused decides. -/
def addPairs (t : IdentityTable) : List (List Char) → Except TokenError IdentityTable
  | [] => .ok t
  | pair :: rest =>
    match readPair pair with
    | .error e => .error e
    | .ok (token, identity) => addPairs (t.insert token identity) rest

/-- The table that a text lists. -/
def ofText (text : String) : Except TokenError IdentityTable := addPairs .empty (pairs text.toList)

end IdentityTable

end DigitalTwin
