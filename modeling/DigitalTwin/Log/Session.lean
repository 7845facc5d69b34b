import DigitalTwin.Log.Level
import DigitalTwin.Log.Rotation
import DigitalTwin.Time.Rfc3339

/-!
A log session: one run of an application, with a file of its own in the log directory. The old files are
removed before the file is opened, so the newest of them and the file of the session are left.
-/

namespace DigitalTwin.Log

/-- The parts of a time of day in two digits each, with a mark between them. -/
def clockText (mark : Char) (t : Instant) : List Char :=
  let s := t.secondOfDay
  Instant.padded 2 (s / 3600) ++ mark :: Instant.padded 2 (s / 60 % 60) ++ mark :: Instant.padded 2 (s % 60)

/-- The day of an instant: year, month and day with hyphens between. -/
def dayText (t : Instant) : List Char :=
  Instant.yearText t.date.year ++ '-' :: Instant.padded 2 t.date.month ++ '-' :: Instant.padded 2 t.date.day

/-- An instant as it stands in the name of a file. -/
def fileTime (t : Instant) : List Char := dayText t ++ '_' :: clockText '-' t

/-- An instant as it stands in front of a record. -/
def recordTime (t : Instant) : List Char := dayText t ++ ' ' :: clockText ':' t

/-- The name of the file of a session that an application starts. -/
def fileName (app : String) (start : Instant) : String :=
  app ++ String.ofList ('_' :: fileTime start) ++ ".log"

/-- A log record. -/
structure Record where
  level : Level
  target : String
  text : String
deriving DecidableEq, Repr

/-- The line that a record makes. -/
def Record.line (r : Record) (time : Instant) : String :=
  "[" ++ String.ofList (recordTime time) ++ "][" ++ r.target ++ "][" ++ r.level.name ++ "] " ++ r.text

/-- A session. -/
structure Session where
  /-- The path of its file. -/
  path : String
  /-- Where the log directory is. -/
  directory : Place
  filter : Filter
deriving DecidableEq, Repr

namespace Session

/-- Starts a session with a log directory: makes the directory if need be, removes its old files and
opens a new one. The name of the application may lead into another directory. -/
def start (t : FileTree) (directory app levelName : String) (now : Instant) :
    Except PathError (Session × FileTree) := do
  let (t, place) ← t.makeDirectories now.seconds [] directory
  let (_, t) ← t.rotateLogs place
  let path := FileTree.join directory (fileName app now)
  let (t, _) ← t.openFile now.seconds [] path
  return (⟨path, place, .ofName levelName⟩, t)

/-- The lines that records of one time make. -/
def lines (s : Session) (time : Instant) (records : List Record) : List String :=
  (records.filter (s.filter.accepts ·.level)).map (·.line time)

end Session

end DigitalTwin.Log
