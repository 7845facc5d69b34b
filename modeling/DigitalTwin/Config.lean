import DigitalTwin.Json.Fields
import DigitalTwin.Json.Reader

/-!
Configuration in layers. A layer sets what it sets and leaves the rest to the layers below it.
-/

namespace DigitalTwin

/-- A layer of configuration. -/
structure Config where
  /-- The channel that notifications are published on. -/
  notifyChannel : Option String
  /-- The directory of the log files. -/
  logDir : Option String
  logLevel : Option String
deriving DecidableEq, Repr, Inhabited

namespace Config

/-- The layer that sets nothing. -/
def empty : Config := ⟨none, none, none⟩

/-- The layer below all others. -/
def defaults : Config := ⟨none, some "./logs", some "info"⟩

/-- A layer over another: what the upper one sets counts. -/
def above (upper lower : Config) : Config :=
  { notifyChannel := upper.notifyChannel.or lower.notifyChannel
    logDir := upper.logDir.or lower.logDir
    logLevel := upper.logLevel.or lower.logLevel }

def ofDocument? (d : Document) : Option Config := do
  let f ← d.fields? ["notifyChannel", "logDir", "logLevel"]
  return { notifyChannel := ← f.placed? "notifyChannel" Document.text?
           logDir := ← f.placed? "logDir" Document.text?
           logLevel := ← f.placed? "logLevel" Document.text? }

def toJson (c : Config) : Json :=
  .ofFields [("notifyChannel", text c.notifyChannel), ("logDir", text c.logDir), ("logLevel", text c.logLevel)]
where
  text (s : Option String) : Json := (s.map Json.text).getD .null

/-- What stands at the path of a configuration file. -/
inductive Source where
  | missing
  | directory
  | file (bytes : List UInt8)
deriving DecidableEq, Repr

/-- Why a configuration file gives no layer. -/
inductive FileError where
  | unreadable
  | notConfiguration
deriving DecidableEq, Repr

/-- The layer of a file. A missing file sets nothing; one that is not text cannot be read. -/
def ofSource : Source → Except FileError Config
  | .missing => .ok empty
  | .directory => .error .unreadable
  | .file bytes =>
    match Text.Utf8.decode? bytes with
    | none => .error .unreadable
    | some _ =>
      match (Document.read? bytes).bind ofDocument? with
      | none => .error .notConfiguration
      | some c => .ok c

/-- Variables by name. -/
abbrev Environment := List (String × String)

/-- The layer of the environment. -/
def ofEnvironment (env : Environment) : Config :=
  { notifyChannel := env.lookup "TWINS_NOTIFY_CHANNEL"
    logDir := env.lookup "TWINS_LOG_DIR"
    logLevel := env.lookup "TWINS_LOG_LEVEL" }

/-- The environment over the file over the defaults. -/
def load (source : Source) (env : Environment) : Except FileError Config :=
  (ofSource source).map fun file => (ofEnvironment env).above (file.above defaults)

end Config

end DigitalTwin
