import DigitalTwin.Json.Fields

/-!
SenML records as they are on the wire (RFC 8428). Every field may be absent.
-/

namespace DigitalTwin

namespace Senml

/-- A record of a pack. -/
structure Record where
  baseName : Option String
  baseTime : Option Binary64
  baseUnit : Option String
  baseValue : Option Binary64
  baseSum : Option Binary64
  name : Option String
  unit : Option String
  value : Option Binary64
  stringValue : Option String
  dataValue : Option String
  boolValue : Option Bool
  sum : Option Binary64
  time : Option Binary64
  updateTime : Option Binary64
deriving DecidableEq, Repr, Inhabited

namespace Record

/-- The labels of the fields, in the order in which an array gives them. -/
def labels : List String := ["bn", "bt", "bu", "bv", "bs", "n", "u", "v", "vs", "vd", "vb", "s", "t", "ut"]

def ofDocument? (d : Document) : Option Record := do
  let f ← d.fields? labels
  return {
    baseName := ← f.optional? "bn" Document.text?
    baseTime := ← f.optional? "bt" Document.float?
    baseUnit := ← f.optional? "bu" Document.text?
    baseValue := ← f.optional? "bv" Document.float?
    baseSum := ← f.optional? "bs" Document.float?
    name := ← f.optional? "n" Document.text?
    unit := ← f.optional? "u" Document.text?
    value := ← f.optional? "v" Document.float?
    stringValue := ← f.optional? "vs" Document.text?
    dataValue := ← f.optional? "vd" Document.text?
    boolValue := ← f.optional? "vb" Document.bool?
    sum := ← f.optional? "s" Document.float?
    time := ← f.optional? "t" Document.float?
    updateTime := ← f.optional? "ut" Document.float? }

/-- The present fields under their labels. -/
def toJson (r : Record) : Json :=
  .ofFields <| List.flatten
    [text "bn" r.baseName, float "bt" r.baseTime, text "bu" r.baseUnit, float "bv" r.baseValue,
     float "bs" r.baseSum, text "n" r.name, text "u" r.unit, float "v" r.value, text "vs" r.stringValue,
     text "vd" r.dataValue, (r.boolValue.map fun b => ("vb", Json.bool b)).toList, float "s" r.sum,
     float "t" r.time, float "ut" r.updateTime]
where
  text (label : String) (s : Option String) : List (String × Json) :=
    (s.map fun s => (label, Json.text s)).toList
  float (label : String) (x : Option Binary64) : List (String × Json) :=
    (x.map fun x => (label, Json.float x)).toList

end Record

end Senml

end DigitalTwin
