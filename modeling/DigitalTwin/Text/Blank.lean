/-!
White space: the twenty-five characters of the property White_Space, and trimming by them.
-/

namespace DigitalTwin.Text

/-- The ranges of the property White_Space, in order. -/
def blankRanges : List (Nat × Nat) :=
  [(0x9, 0xD), (0x20, 0x20), (0x85, 0x85), (0xA0, 0xA0), (0x1680, 0x1680), (0x2000, 0x200A),
   (0x2028, 0x2029), (0x202F, 0x202F), (0x205F, 0x205F), (0x3000, 0x3000)]

/-- Whether a character is white space. -/
def isBlank (c : Char) : Bool :=
  blankRanges.any fun (first, last) => decide (first ≤ c.toNat ∧ c.toNat ≤ last)

/-- Text without the white space that it starts with. -/
def trimStart (s : List Char) : List Char := s.dropWhile isBlank

/-- Text without the white space that it ends with. -/
def trimEnd (s : List Char) : List Char := (s.reverse.dropWhile isBlank).reverse

/-- Text without the white space around it. -/
def trim (s : List Char) : List Char := trimEnd (trimStart s)

end DigitalTwin.Text
