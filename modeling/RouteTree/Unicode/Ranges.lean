import RouteTree.Text.Hex

namespace RouteTree.Unicode

/-! Sets of characters as lists of ranges of code points, both ends included. -/

abbrev Ranges := List (Nat × Nat)

namespace Ranges

def contains (ranges : Ranges) (c : Char) : Bool :=
  ranges.any fun range => range.1 ≤ c.toNat && c.toNat ≤ range.2

@[simp] theorem contains_nil (c : Char) : contains [] c = false := rfl

@[simp] theorem contains_cons (range : Nat × Nat) (rest : Ranges) (c : Char) :
    contains (range :: rest) c =
      ((range.1 ≤ c.toNat && c.toNat ≤ range.2) || contains rest c) := rfl

private def rangeOfText (piece : Text) : Nat × Nat :=
  let ends := Text.cut '-' piece
  let low := (Text.hexDigitsValue? ends.1).getD 0
  (low, (ends.2.bind Text.hexDigitsValue?).getD low)

/-- Ranges in hexadecimal, separated by blanks; a single code point is a range of one. -/
def ofLines (table : List String) : Ranges :=
  table.flatMap fun line => (Text.pieces ' ' line.toList).map rangeOfText

end Ranges

end RouteTree.Unicode
