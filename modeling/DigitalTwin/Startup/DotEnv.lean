import DigitalTwin.Config
import DigitalTwin.Text.Alphanumeric
import DigitalTwin.Text.Blank

/-!
Variables in the file `.env`. A line assigns a value to a name; quotes keep blanks, a backslash keeps
the character behind it, `$` takes in the value of another variable, and `#` opens a comment. A quoted
value may run over several lines. Reading stops at the first line that breaks these rules, and a
variable that is set already stays as it is.
-/

namespace DigitalTwin

namespace DotEnv

/-- Where a physical line leaves off. -/
inductive Ending where
  | complete
  | blank
  | escape
  | single
  | singleEscape
  | double
  | doubleEscape
deriving DecidableEq, Repr

/-- Where one more character leaves off; none where a comment starts. -/
def Ending.step (e : Ending) (c : Char) : Option Ending :=
  let opening : Ending :=
    if c = '\\' then .escape else if c = '"' then .double else if c = '\'' then .single else .complete
  match e with
  | .blank => if c = '#' then none else some opening
  | .escape => some .complete
  | .complete => if Text.isBlank c ∧ c ≠ '\n' ∧ c ≠ '\r' then some .blank else some opening
  | .double => some (if c = '\\' then .doubleEscape else if c = '"' then .complete else .double)
  | .doubleEscape => some .double
  | .single => some (if c = '\\' then .singleEscape else if c = '\'' then .complete else .single)
  | .singleEscape => some .single

/-- A logical line, or the end of the file within one. -/
inductive Line where
  | text (content : List Char)
  | unfinished
deriving DecidableEq, Repr

/-- A line without the end that it has. -/
def chomp (line : List Char) : List Char :=
  match line.reverse with
  | '\n' :: '\r' :: rest => rest.reverse
  | '\n' :: rest => rest.reverse
  | _ => line

/-- Physical lines, each with its line end. -/
def physicalLines (current : List Char) : List Char → List (List Char)
  | [] => if current.isEmpty then [] else [current.reverse]
  | c :: rest =>
    if c = '\n' then (c :: current).reverse :: physicalLines [] rest else physicalLines (c :: current) rest

/-- Where the characters of a line leave off, or how many stand in front of its comment. -/
def scan (e : Ending) (before : Nat) : List Char → Ending ⊕ Nat
  | [] => .inl e
  | c :: rest =>
    match e.step c with
    | none => .inr before
    | some e => scan e (before + 1) rest

/-- Joins physical lines into logical ones. `open?` holds the line so far and where it leaves off. -/
def logicalLines (before : List Char) (e : Ending) : List (List Char) → List Line
  | [] => if e = .complete then [] else [.unfinished]
  | line :: rest =>
    let whole := before ++ line
    if (Text.trimStart whole).head? = some '#' then logicalLines [] .complete rest
    else
      match scan e 0 line with
      | .inr kept => .text (before ++ line.take kept) :: logicalLines [] .complete rest
      | .inl .complete => .text (chomp whole) :: logicalLines [] .complete rest
      | .inl e => logicalLines whole e rest

/-- How a `$` is read on: a name of letters and digits, or anything between braces. -/
inductive Reference where
  | plain
  | braced
deriving DecidableEq, Repr

/-- The reading of a value. -/
structure Reading where
  output : List Char
  single : Bool
  double : Bool
  escaped : Bool
  /-- Only blanks and a comment may follow. -/
  ended : Bool
  reference : Option Reference
  name : List Char

def Reading.start : Reading := ⟨[], false, false, false, false, none, []⟩

/-- The value of the name that was read, behind the output. -/
def Reading.substitute (lookup : String → String) (r : Reading) : Reading :=
  { r with output := r.output ++ (lookup (String.ofList r.name)).toList, reference := none, name := [] }

/-- What one more character of a value does; an error is none. -/
def Reading.step (lookup : String → String) (r : Reading) (c : Char) : Option Reading :=
  if r.escaped then
    if c = '\\' ∨ c = '\'' ∨ c = '"' ∨ c = '$' ∨ c = ' ' then
      some { r with output := r.output ++ [c], escaped := false }
    else if c = 'n' then some { r with output := r.output ++ ['\n'], escaped := false }
    else none
  else if r.single then
    if c = '\'' then some { r with single := false } else some { r with output := r.output ++ [c] }
  else
    match r.reference with
    | some .braced =>
      if c = '\x7d' then some (r.substitute lookup) else some { r with name := r.name ++ [c] }
    | some .plain =>
      if Text.isAlphanumeric c then some { r with name := r.name ++ [c] }
      else if c = '\x7b' ∧ r.name.isEmpty then some { r with reference := some .braced }
      else
        let r := r.substitute lookup
        if c = '$' then some { r with reference := some .plain }
        else some { r with output := r.output ++ [c] }
    | none =>
      if c = '$' then some { r with reference := some .plain }
      else if c = '\\' then some { r with escaped := true }
      else if r.double then
        if c = '"' then some { r with double := false } else some { r with output := r.output ++ [c] }
      else if c = '\'' then some { r with single := true }
      else if c = '"' then some { r with double := true }
      else if c = ' ' ∨ c = '\t' then some { r with ended := true }
      else some { r with output := r.output ++ [c] }

/-- Reads a value to its end. Open quotes and braces are an error. -/
def readValue (lookup : String → String) (r : Reading) : List Char → Option String
  | [] =>
    if r.single || r.double || decide (r.reference = some .braced) then none
    else
      match r.reference with
      | some _ => some (String.ofList (r.substitute lookup).output)
      | none => some (String.ofList (r.output ++ (lookup "").toList))
  | c :: rest =>
    if r.ended then
      if c = ' ' ∨ c = '\t' then readValue lookup r rest
      else if c = '#' then readValue lookup r []
      else none
    else
      match r.step lookup c with
      | none => none
      | some r => readValue lookup r rest

def isNameStart (c : Char) : Bool := c.isAlpha || c == '_'

def isNamePart (c : Char) : Bool := c.isAlphanum || c == '_' || c == '.'

/-- The name at the start of a line, and the rest of it behind white space. -/
def name? (line : List Char) : Option (String × List Char) :=
  match line with
  | c :: _ =>
    if isNameStart c then
      some (String.ofList (line.takeWhile isNamePart), Text.trimStart (line.dropWhile isNamePart))
    else none
  | [] => none

/-- What stands behind the `=` of a line, which may follow the word `export`. -/
def assignment? (line : List Char) : Option (String × List Char) :=
  match name? line with
  | none => none
  | some (name, '=' :: rest) => some (name, Text.trimStart rest)
  | some (name, rest) =>
    if name = "export" then
      match name? rest with
      | some (name, '=' :: rest) => some (name, Text.trimStart rest)
      | _ => none
    else none

/-- Variables as a file sets them: the environment, and what the lines so far assigned. -/
structure Variables where
  environment : Config.Environment
  assigned : Config.Environment

/-- The value that `$` takes in: that of the environment, else the one assigned last, else nothing. -/
def Variables.value (v : Variables) (name : String) : String :=
  ((v.environment.lookup name).or (v.assigned.lookup name)).getD ""

/-- The variables after an assignment, which sets only what is not set. -/
def Variables.assign (v : Variables) (name value : String) : Variables :=
  { environment := match v.environment.lookup name with
      | some _ => v.environment
      | none => (name, value) :: v.environment
    assigned := (name, value) :: v.assigned }

/-- The variables after a line; none where a line breaks the rules. -/
def readLine (v : Variables) (line : List Char) : Option Variables :=
  let line := Text.trimStart (Text.trimEnd line)
  match line with
  | [] => some v
  | '#' :: _ => some v
  | _ =>
    match assignment? line with
    | none => none
    | some (name, []) => some (v.assign name "")
    | some (name, '#' :: _) => some (v.assign name "")
    | some (name, value) => (readValue v.value .start value).map (v.assign name)

/-- The variables after the lines in front of the first one that breaks the rules. -/
def readLines (v : Variables) : List Line → Variables
  | [] => v
  | .unfinished :: _ => v
  | .text line :: rest =>
    match readLine v line with
    | none => v
    | some v => readLines v rest

/-- The environment with the variables of a file, which may start with a byte order mark. -/
def load (text : String) (env : Config.Environment) : Config.Environment :=
  let cs := match text.toList with
    | '\uFEFF' :: rest => rest
    | cs => cs
  (readLines ⟨env, []⟩ (logicalLines [] .complete (physicalLines [] cs))).environment

end DotEnv

end DigitalTwin
