import DigitalTwin.Config
import DigitalTwin.Table

/-!
The command line. Every option takes a value, behind it or behind `=`, and may be given once; an option
that is not given takes the value of its variable, if that is set.
-/

namespace DigitalTwin

/-- The options of the command line. -/
inductive CommandOption where
  | configPath
  | logDir
  | logLevel
  | notifyChannel
  | tokens
deriving DecidableEq, Repr

namespace CommandOption

def all : List CommandOption := [.configPath, .logDir, .logLevel, .notifyChannel, .tokens]

/-- The name of an option, behind its two hyphens. -/
def name : CommandOption → String
  | .configPath => "config-path"
  | .logDir => "log-dir"
  | .logLevel => "log-level"
  | .notifyChannel => "notify-channel"
  | .tokens => "tokens"

/-- The variable that stands in for an option. -/
def variableName : CommandOption → String
  | .configPath => "TWINS_CONFIG_PATH"
  | .logDir => "TWINS_LOG_DIR"
  | .logLevel => "TWINS_LOG_LEVEL"
  | .notifyChannel => "TWINS_NOTIFY_CHANNEL"
  | .tokens => "TWINS_TOKENS"

/-- Whether an option takes a value. A path may not be empty. -/
def accepts (o : CommandOption) (value : String) : Bool :=
  match o with
  | .configPath | .logDir => !value.isEmpty
  | _ => true

def ofName? (name : List Char) : Option CommandOption := all.find? (·.name.toList = name)

end CommandOption

/-- The values of the options. -/
abbrev CommandLine := Table CommandOption String

namespace CommandLine

/-- Whether an argument can be the value of the option in front of it. -/
def isValue (arg : String) : Bool :=
  match arg.toList with
  | '-' :: _ :: _ => false
  | _ => true

/-- The command line with one more option, unless it is there already or does not take the value. -/
def add? (c : CommandLine) (o : CommandOption) (value : String) : Option CommandLine :=
  if c.contains o || !o.accepts value then none else some (c.insert o value)

/-- The name of a long option, and the value behind `=` if there is one. -/
def splitOption (arg : List Char) : List Char × Option String :=
  match arg.dropWhile (· ≠ '=') with
  | [] => (arg, none)
  | _ :: value => (arg.takeWhile (· ≠ '='), some (String.ofList value))

/-- Reads arguments behind those read before. -/
def readOnto (c : CommandLine) : List String → Option CommandLine
  | [] => some c
  | arg :: rest =>
    match arg.toList with
    | ['-', '-'] => if rest.isEmpty then some c else none
    | '-' :: '-' :: long =>
      let (name, given) := splitOption long
      match CommandOption.ofName? name, given with
      | none, _ => none
      | some o, some value =>
        match c.add? o value with
        | none => none
        | some c => readOnto c rest
      | some o, none =>
        match rest with
        | [] => none
        | value :: rest =>
          if isValue value then
            match c.add? o value with
            | none => none
            | some c => readOnto c rest
          else none
    | _ => none

/-- Takes the variables for the options that are not given. -/
def withEnvironment? (env : Config.Environment) (c : CommandLine) : Option CommandLine :=
  CommandOption.all.foldlM (fun c o =>
    match c.get? o, env.lookup o.variableName with
    | none, some value => c.add? o value
    | _, _ => some c) c

/-- The command line of some arguments, if it is well-formed. -/
def ofArguments? (args : List String) (env : Config.Environment) : Option CommandLine :=
  (readOnto .empty args).bind (withEnvironment? env)

/-- The layer of configuration that the options make. -/
def layer (c : CommandLine) : Config :=
  { notifyChannel := c.get? .notifyChannel
    logDir := c.get? .logDir
    logLevel := c.get? .logLevel }

end CommandLine

end DigitalTwin
