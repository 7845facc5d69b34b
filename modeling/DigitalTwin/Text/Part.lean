/-!
Whether a text occurs within another.
-/

namespace DigitalTwin.Text

/-- Whether `part` stands somewhere in a text. The empty text stands everywhere. -/
def occursIn (part : List Char) : List Char → Bool
  | [] => part.isEmpty
  | c :: rest => part.isPrefixOf (c :: rest) || occursIn part rest

end DigitalTwin.Text
