/-!
The severity of log records, and filters that let records through by it.
-/

namespace DigitalTwin.Log

/-- How much a record matters, the gravest first. -/
inductive Level where
  | error
  | warn
  | info
  | debug
  | trace
deriving DecidableEq, Repr

namespace Level

def name : Level → String
  | .error => "ERROR"
  | .warn => "WARN"
  | .info => "INFO"
  | .debug => "DEBUG"
  | .trace => "TRACE"

/-- The number of levels that are graver. -/
def rank : Level → Nat
  | .error => 0
  | .warn => 1
  | .info => 2
  | .debug => 3
  | .trace => 4

end Level

/-- A filter: nothing, or the records of a level and of all graver ones. -/
inductive Filter where
  | off
  | upTo (level : Level)
deriving DecidableEq, Repr

namespace Filter

def name : Filter → String
  | .off => "OFF"
  | .upTo level => level.name

/-- Whether a filter lets the records of a level through. -/
def accepts (f : Filter) (level : Level) : Bool :=
  match f with
  | .off => false
  | .upTo last => decide (level.rank ≤ last.rank)

/-- The filter with a name, in capitals or not; any name that is not known stands for `info`. No other
letter than those of ASCII becomes a letter of these names when it is made small. -/
def ofName (name : String) : Filter :=
  match String.ofList (name.toList.map Char.toLower) with
  | "trace" => .upTo .trace
  | "debug" => .upTo .debug
  | "warn" => .upTo .warn
  | "error" => .upTo .error
  | "off" => .off
  | _ => .upTo .info

end Filter

end DigitalTwin.Log
