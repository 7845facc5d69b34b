import DigitalTwin.Word

/-!
Pages of a listing. Offset and limit are words of sixty-four bits, and the range of a page never leaves
the listing.
-/

namespace DigitalTwin

/-- The place of a page in a listing of `total` items. -/
structure PageInfo where
  total : Nat
  offset : Nat
  limit : Nat
deriving DecidableEq, Repr, Inhabited

/-- The range of a page among `length` items: where it starts and where it ends. -/
def PageInfo.range (p : PageInfo) (length : Nat) : Nat × Nat :=
  let start := min p.offset length
  (start, min (min (start + p.limit) maxWord) length)

/-- A page of a listing. -/
structure Page (α : Type) where
  info : PageInfo
  items : List α
deriving Inhabited

namespace Page

/-- The page of a listing at an offset. -/
def slice {α : Type} (items : List α) (offset limit : Nat) : Page α :=
  let info : PageInfo := ⟨items.length, offset, limit⟩
  let (start, stop) := info.range items.length
  ⟨info, (items.take stop).drop start⟩

/-- The page of an empty listing. -/
def empty {α : Type} (offset limit : Nat) : Page α := ⟨⟨0, offset, limit⟩, []⟩

end Page

end DigitalTwin
