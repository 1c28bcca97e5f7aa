/-
# Ranges of code points

A class of characters beyond ASCII is a list of ranges of code points, in
increasing order and without overlap.
-/

import DocExamples.Text.Basic

namespace DocExamples
namespace Text

/-- The code points from `first` to `last`, both included. -/
structure CodeRange where
  /-- The least code point. -/
  first : Nat
  /-- The greatest code point. -/
  last : Nat
deriving DecidableEq, Repr

namespace CodeRange

/-- Whether a code point lies in the range. -/
def holds (r : CodeRange) (n : Nat) : Bool := r.first ≤ n && n ≤ r.last

end CodeRange

/-- Whether a code point lies in one of the ranges. -/
def inRanges (rs : List CodeRange) (n : Nat) : Bool := rs.any (·.holds n)

end Text
end DocExamples
