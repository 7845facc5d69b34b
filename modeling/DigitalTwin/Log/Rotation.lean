import DigitalTwin.FileTree

/-!
Old log files. Of the files whose extension is `log` the newest stays and the others are removed, as far
as they can be.
-/

namespace DigitalTwin

namespace FileEntry

/-- What follows the last dot of a name, unless the name starts with that dot. -/
def extension? (name : String) : Option (List Char) :=
  let reversed := name.toList.reverse
  match reversed.dropWhile (· ≠ '.') with
  | [] => none
  | [_] => none
  | _ :: _ :: _ => some (reversed.takeWhile (· ≠ '.')).reverse

/-- Whether the entry is a log file by its name. -/
def isLog (e : FileEntry) : Bool := extension? e.name == some ['l', 'o', 'g']

/-- Order from the newest to the oldest; of two that were written at once the one with the greater name
counts as newer. -/
def newerOrSame (a b : FileEntry) : Bool :=
  decide (b.modified < a.modified) || (decide (a.modified = b.modified) && decide (b.name ≤ a.name))

end FileEntry

namespace Directory

/-- The log files behind the newest one, from the newest to the oldest. -/
def superseded (d : Directory) : List FileEntry :=
  ((d.filter FileEntry.isLog).mergeSort FileEntry.newerOrSame).drop 1

/-- Removes files one after another, and counts them; one that cannot be removed stays. -/
def removeAll : List FileEntry → Directory → Nat × Directory
  | [], d => (0, d)
  | e :: rest, d =>
    if e.removable then
      let (removed, d) := removeAll rest (d.erase e)
      (removed + 1, d)
    else removeAll rest d

/-- Removes the old log files: how many went, and what is left. -/
def rotate (d : Directory) : Nat × Directory := removeAll d.superseded d

end Directory

namespace FileTree

/-- Removes the old log files of the directory at a place, and counts them. -/
def rotateLogs (t : FileTree) (p : Place) : Except PathError (Nat × FileTree) :=
  match t.directories.get? p with
  | none => .error .notDirectory
  | some entries =>
    let (removed, kept) := Directory.rotate entries
    .ok (removed, ⟨t.directories.insert p kept⟩)

end FileTree

end DigitalTwin
