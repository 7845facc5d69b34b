/-!
Route keys: the channel and subtopic on which telemetry arrives. Sets of keys are lists without
repetitions; what is shown of them is sorted by channel, then by subtopic.
-/

namespace DigitalTwin

/-- Where a stream of telemetry arrives. -/
structure RouteKey where
  channel : String
  subtopic : String
deriving DecidableEq, Repr, Inhabited

namespace RouteKey

/-- Order by channel, then by subtopic, each by code points. -/
def le (a b : RouteKey) : Bool :=
  decide (a.channel < b.channel) || (a.channel == b.channel && decide (a.subtopic ≤ b.subtopic))

/-- Keys in order. -/
def sorted (keys : List RouteKey) : List RouteKey := keys.mergeSort le

/-- The keys of a list, each once. -/
def setOf (keys : List RouteKey) : List RouteKey := keys.foldr List.insert []

/-- The keys of the first set that are not in the second, in order. -/
def difference (keys others : List RouteKey) : List RouteKey :=
  sorted (keys.filter fun k => !others.contains k)

end RouteKey

end DigitalTwin
