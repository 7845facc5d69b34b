import DigitalTwin.Error
import DigitalTwin.Json.Reader
import DigitalTwin.Senml.Record

/-!
SenML packs as measurements. The base fields of a record hold for it and for the records behind it,
until a later record sets them anew.
-/

namespace DigitalTwin

namespace Senml

/-- A record with the base fields applied. -/
structure Measurement where
  name : String
  unit : Option String
  /-- When it was measured; absent if the record does not tell. -/
  time : Option Instant
  value : Json
deriving Inhabited

/-- The base fields that hold for a record. -/
structure Base where
  name : String
  time : Binary64
  unit : Option String
  value : Binary64
  sum : Binary64
deriving DecidableEq, Repr, Inhabited

namespace Base

/-- What holds before the first record. -/
def initial : Base := ⟨"", .zero, none, .zero, .zero⟩

/-- What holds from a record on. -/
def update (b : Base) (r : Record) : Base :=
  { name := r.baseName.getD b.name
    time := r.baseTime.getD b.time
    unit := r.baseUnit.or b.unit
    value := r.baseValue.getD b.value
    sum := r.baseSum.getD b.sum }

end Base

/-- Times below this number of seconds, 2 ^ 28, are relative to the time of decoding. -/
def relativeLimit : Binary64 := .ofInt (Nat.pow 2 28)

/-- The seconds of an instant as a number: its whole seconds and its nanoseconds as a fraction, each
rounded before they are added. -/
def secondsOf (t : Instant) : Binary64 := (Binary64.ofInt t.seconds).add (.ofQuotient false t.nanos 1000000000)

/-- The instant at a number of seconds, cut to nanoseconds. -/
def instantAt (seconds : Binary64) : Except ServiceError Instant :=
  if seconds.isFinite then
    let whole := seconds.floor
    let part := (seconds.sub (.ofInt whole)).mul (.ofInt 1000000000)
    let t : Instant := ⟨whole, min part.floor.toNat 999999999⟩
    if t.inRange then .ok t else .error (.malformed (.recordTime seconds))
  else .error (.malformed (.recordTime seconds))

/-- The time that a number of seconds tells: none for zero, one counted from `now` for a small one. -/
def timeOf (now : Instant) (seconds : Binary64) : Except ServiceError (Option Instant) :=
  if seconds.isZero then .ok none
  else if seconds.lt relativeLimit then (instantAt ((secondsOf now).add seconds)).map some
  else (instantAt seconds).map some

/-- The value of a record: the number, else the text, else the data, else the truth value, else the sum. -/
def valueOf (b : Base) (r : Record) : Json :=
  match r.value, r.stringValue, r.dataValue, r.boolValue, r.sum with
  | some v, _, _, _, _ => .finite (b.value.add v)
  | none, some s, _, _, _ => .text s
  | none, none, some d, _, _ => .text d
  | none, none, none, some t, _ => .bool t
  | none, none, none, none, some s => .finite (b.sum.add s)
  | none, none, none, none, none => .null

/-- A record under the base fields that hold for it. -/
def measure (now : Instant) (b : Base) (r : Record) : Except ServiceError Measurement :=
  match timeOf now (b.time.add (r.time.getD .zero)) with
  | .error e => .error e
  | .ok time => .ok ⟨b.name ++ r.name.getD "", r.unit.or b.unit, time, valueOf b r⟩

/-- The measurements of records behind those that set `base`; the first record that fails decides. -/
def measureAll (now : Instant) (base : Base) : List Record → Except ServiceError (List Measurement)
  | [] => .ok []
  | r :: rest =>
    let base := base.update r
    match measure now base r with
    | .error e => .error e
    | .ok m =>
      match measureAll now base rest with
      | .error e => .error e
      | .ok ms => .ok (m :: ms)

/-- The records of a payload. -/
def records? (payload : List UInt8) : Option (List Record) :=
  (Document.read? payload).bind (Document.list? Record.ofDocument?)

/-- The measurements of a payload, with relative times counted from `now`. -/
def decode (payload : List UInt8) (now : Instant) : Except ServiceError (List Measurement) :=
  match records? payload with
  | none => .error (.malformed .payload)
  | some records => measureAll now .initial records

end Senml

end DigitalTwin
