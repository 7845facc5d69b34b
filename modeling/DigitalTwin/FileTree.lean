import DigitalTwin.Table

/-!
Files and directories by place, and the paths that lead to them. A path is walked name by name: `.`
stays, `..` goes back, and any other name has to be one of the directory that has been reached.
-/

namespace DigitalTwin

/-- What stands behind an entry of a directory. -/
inductive FileContent where
  | directory
  | file (bytes : List UInt8)
deriving DecidableEq, Repr

/-- An entry of a directory. -/
structure FileEntry where
  name : String
  /-- When it was last written, in seconds since the start of 1970. -/
  modified : Int
  content : FileContent
deriving DecidableEq, Repr

/-- Whether the entry can be removed as a file. -/
def FileEntry.removable (e : FileEntry) : Bool := decide (e.content ≠ .directory)

/-- The entries of a directory, each with a name of its own. -/
abbrev Directory := List FileEntry

/-- The names that lead to a file or a directory from the root. -/
abbrev Place := List String

/-- Why a path cannot be used. -/
inductive PathError where
  | notFound
  | notDirectory
  | isDirectory
  /-- The character zero is in it. -/
  | malformed
  /-- It is too long, or one of its names is. -/
  | tooLong
deriving DecidableEq, Repr

/-- The directories that there are, each with its entries. -/
structure FileTree where
  directories : Table Place Directory

namespace FileTree

/-- The tree of an empty root. -/
def empty : FileTree := ⟨.ofList [([], [])]⟩

/-- The most bytes of a name and of a path. -/
def nameLimit : Nat := 255

def pathLimit : Nat := 4095

/-- Whether a path starts at the root. -/
def isAbsolute (path : String) : Bool := decide (path.toList.head? = some '/')

/-- The names of a path. A separator at either end, or behind another, has an empty name beside it. -/
def names (path : String) : List String := (path.toList.splitOn '/').map String.ofList

/-- A path seen from the directory at another one. -/
def join (directory path : String) : String :=
  if isAbsolute path || directory.isEmpty then path
  else if directory.toList.getLast? = some '/' then directory ++ path
  else directory ++ "/" ++ path

/-- Refuses what cannot be the path of anything. -/
def checkPath (path : String) : Except PathError Unit :=
  if path.toList.contains '\x00' then .error .malformed
  else if path.isEmpty then .error .notFound
  else if pathLimit < path.utf8ByteSize then .error .tooLong
  else .ok ()

/-- Where a name leads from a directory. -/
def step (t : FileTree) (here : Place) (name : String) : Except PathError Place :=
  match t.directories.get? here with
  | none => .error .notDirectory
  | some entries =>
    if name.isEmpty ∨ name = "." then .ok here
    else if name = ".." then .ok here.dropLast
    else if nameLimit < name.utf8ByteSize then .error .tooLong
    else if entries.any (·.name == name) then .ok (here ++ [name])
    else .error .notFound

/-- Where names lead, one after another. -/
def walk (t : FileTree) (here : Place) (names : List String) : Except PathError Place := names.foldlM t.step here

/-- Where the names of a path are walked from. -/
def origin (here : Place) (path : String) : Place := if isAbsolute path then [] else here

/-- The place that a path leads to. -/
def find (t : FileTree) (here : Place) (path : String) : Except PathError Place := do
  checkPath path
  t.walk (origin here path) (names path)

/-- What stands at a place. -/
def content? (t : FileTree) (p : Place) : Option FileContent :=
  if t.directories.contains p then some .directory
  else
    match t.directories.get? p.dropLast, p.getLast? with
    | some entries, some name => (entries.find? (·.name == name)).map (·.content)
    | _, _ => none

/-- The tree with an entry in a directory, in place of the one of its name. -/
def add (t : FileTree) (here : Place) (e : FileEntry) : FileTree :=
  let others := ((t.directories.get? here).getD []).filter (·.name ≠ e.name)
  let directories := t.directories.insert here (others ++ [e])
  let place := here ++ [e.name]
  ⟨if e.content = .directory then directories.insert place [] else directories.erase place⟩

/-- Whether names stay where they are and one of them says so with a dot. -/
def staysByDot (names : List String) : Bool :=
  names.contains "." && names.all fun name => name.isEmpty || name == "."

/-- Walks along names and makes the directories that are missing on the way. None can be made under a
name that a dot stands behind at the end. -/
def makeAll (now : Int) : FileTree → Place → List String → Except PathError (FileTree × Place)
  | t, here, [] => .ok (t, here)
  | t, here, name :: rest =>
    match t.step here name with
    | .ok next => makeAll now t next rest
    | .error .notFound =>
      if staysByDot rest then .error .notFound
      else makeAll now (t.add here ⟨name, now, .directory⟩) (here ++ [name]) rest
    | .error e => .error e

/-- Makes the directories of a path that are missing. -/
def makeDirectories (t : FileTree) (now : Int) (here : Place) (path : String) :
    Except PathError (FileTree × Place) := do
  checkPath path
  makeAll now t (origin here path) (names path)

/-- Opens the file at a path, so that more can be added to it. A missing file is made. -/
def openFile (t : FileTree) (now : Int) (here : Place) (path : String) : Except PathError (FileTree × Place) := do
  checkPath path
  let names := names path
  let name := names.getLast?.getD ""
  let parent ← t.walk (origin here path) names.dropLast
  match t.step parent name with
  | .ok place => if t.directories.contains place then .error .isDirectory else .ok (t, place)
  | .error .notFound => .ok (t.add parent ⟨name, now, .file []⟩, parent ++ [name])
  | .error e => .error e

end FileTree

end DigitalTwin
