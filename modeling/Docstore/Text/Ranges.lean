/-!
# Sets of characters given by ranges

Membership of a code point in a table of inclusive ranges.
-/

namespace Docstore.Text

/-- Whether a code point lies in one of the ranges. -/
def inRanges (table : Array (Nat × Nat)) (point : Nat) : Bool :=
  table.any fun (first, last) => first ≤ point && point ≤ last

end Docstore.Text
