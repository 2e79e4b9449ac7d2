/-!
# Sorted ranges of code points

A property of characters is given by the inclusive ranges of code points that have it. Membership is a
Boolean check, `inRanges`; the tables of the other modules of `Text` are lists of this shape.
-/

namespace AuthProxy.Text

/-- Membership of a code point in a list of inclusive ranges. -/
def inRanges (rs : List (Nat × Nat)) (n : Nat) : Bool :=
  rs.any fun r => decide (r.1 ≤ n) && decide (n ≤ r.2)

end AuthProxy.Text
