import DigitalTwin.FileTree
import DigitalTwin.Startup.CommandLine
import DigitalTwin.Startup.DotEnv
import DigitalTwin.Startup.Tokens

/-!
What a process starts with. The file `.env` adds to the environment, and the configuration is laid up
from the defaults, the configuration file, the environment and the command line, each over those before
it. The first thing that is wrong decides.
-/

namespace DigitalTwin

/-- The configuration file that a path leads to. A path that cannot be walked leads to none. -/
def FileTree.sourceAt (t : FileTree) (here : Place) (path : String) : Config.Source :=
  match t.find here path with
  | .error _ => .missing
  | .ok place =>
    match t.content? place with
    | none => .missing
    | some .directory => .directory
    | some (.file bytes) => .file bytes

/-- The environment with the variables of the file `.env`, if there is one. -/
def DotEnv.extend (dotEnv : Config.Source) (env : Config.Environment) : Config.Environment :=
  match dotEnv with
  | .file bytes =>
    match Text.Utf8.decode? bytes with
    | some text => load text env
    | none => env
  | _ => env

/-- What a process starts with. -/
structure Settings where
  config : Config
  identities : IdentityTable

/-- Why a process does not start. -/
inductive StartupError where
  | commandLine
  | configuration (cause : Config.FileError)
  | tokens (cause : TokenError)
deriving DecidableEq, Repr

def StartupError.message : StartupError → String
  | .commandLine => "the command line is not well-formed"
  | .configuration _ => "loading twins config"
  | .tokens cause => cause.message

namespace CommandLine

/-- The configuration file, unless the command line names another. -/
def defaultPath : String := "config.twins.json"

/-- The path of the configuration file. -/
def configPath (c : CommandLine) : String := (c.get? .configPath).getD defaultPath

/-- The identities behind the tokens of the command line. -/
def identities (c : CommandLine) : Except TokenError IdentityTable :=
  match c.get? .tokens with
  | some text => IdentityTable.ofText text
  | none => .ok .empty

end CommandLine

namespace Settings

/-- The settings that arguments and the environment make over a configuration file, which `sourceAt`
finds by its path. -/
def ofSources (sourceAt : String → Config.Source) (env : Config.Environment) (args : List String) :
    Except StartupError Settings :=
  match CommandLine.ofArguments? args env with
  | none => .error .commandLine
  | some line =>
    match Config.load (sourceAt line.configPath) env with
    | .error cause => .error (.configuration cause)
    | .ok base =>
      match line.identities with
      | .error cause => .error (.tokens cause)
      | .ok identities => .ok ⟨line.layer.above base, identities⟩

/-- The settings of a process that is started in a directory. -/
def load (t : FileTree) (here : Place) (args : List String) (env : Config.Environment) :
    Except StartupError Settings :=
  ofSources (t.sourceAt here) (DotEnv.extend (t.sourceAt here ".env") env) args

end Settings

end DigitalTwin
