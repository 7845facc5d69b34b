import DigitalTwin.Hub.Run
import DigitalTwin.Log.Level
import DigitalTwin.Startup.Settings
import DigitalTwin.Uuid

/-!
The program: it loads its settings from the command line, the environment and the files of its working
directory, restores the routes of the stored twins, and serves until its input ends.
-/

namespace DigitalTwin

/-- What stands at a path. A path that cannot be walked to its end leads to nothing. -/
def readSource (path : String) : IO Config.Source := do
  try
    return .file (← IO.FS.readBinFile path).toList
  catch
    | .noFileOrDirectory .. | .inappropriateType (some _) .. | .invalidArgument (some _) .. => return .missing
    | _ => return .directory

/-- The words of a text, any of which may name a variable. -/
def words (text : String) : List String :=
  (text.toList.splitOnP (fun c => !DotEnv.isNamePart c)).filterMap fun word =>
    if word.isEmpty then none else some (String.ofList word)

/-- The variables of the options, and those that the file `.env` may speak of. -/
def readEnvironment (dotEnv : Config.Source) : IO Config.Environment := do
  let others := match dotEnv with
    | .file bytes => words ((Text.Utf8.decode? bytes).getD "")
    | _ => []
  (CommandOption.all.map CommandOption.variableName ++ others).filterMapM fun name => do
    return (← IO.getEnv name).map (name, ·)

/-- The settings of the process. The configuration file is looked up where the command line says. -/
def readSettings (args : List String) : IO (Except StartupError Settings) := do
  let dotEnv ← readSource ".env"
  let env ← readEnvironment dotEnv
  let env := DotEnv.extend dotEnv env
  let path := ((CommandLine.ofArguments? args env).map (·.configPath)).getD CommandLine.defaultPath
  let source ← readSource path
  return Settings.ofSources (fun _ => source) env args

/-- Ids that follow from a random number, all of them different. -/
def idsFrom (seed : Nat) : IdSource :=
  ⟨fun n => Uuid.ofRandom ((seed + n * 0x9E3779B97F4A7C15F39CC0605CEDC835) % Nat.pow 2 128), 0⟩

/-- Prints a message, unless the filter holds it back. -/
def say (filter : Log.Filter) (level : Log.Level) (message : String) : IO Unit := do
  if filter.accepts level then IO.println ("[" ++ level.name ++ "] " ++ message)

/-- Waits until the input ends. -/
partial def awaitEnd (input : IO.FS.Stream) : IO Unit := do
  if (← input.getLine).isEmpty then return else awaitEnd input

/-- Serves with some settings. -/
def serve (settings : Settings) : IO UInt32 := do
  let filter := Log.Filter.ofName (settings.config.logLevel.getD "info")
  if settings.identities.isEmpty then
    say filter .warn "No access tokens configured, every twins operation will be rejected."
  let ids := idsFrom (← IO.rand 0 (Nat.pow 2 128 - 1))
  match Hub.outcome Hub.restore (Hub.new settings.identities ids settings.config.notifyChannel) with
  | (.error e, _) =>
    IO.eprintln ("Error: " ++ e.message)
    return 1
  | (.ok routes, _) =>
    say filter .info ("Twins service ready with " ++ toString routes ++ " routes")
    awaitEnd (← IO.getStdin)
    say filter .info "Shutdown complete"
    return 0

end DigitalTwin

def main (args : List String) : IO UInt32 := do
  match ← DigitalTwin.readSettings args with
  | .ok settings => DigitalTwin.serve settings
  | .error e =>
    IO.eprintln ("Error: " ++ e.message)
    return if e = .commandLine then 2 else 1
