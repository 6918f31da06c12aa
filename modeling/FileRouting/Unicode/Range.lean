/-!
# Sets of characters as ranges of code points

A character property is kept as an ascending list of closed ranges of code
points.  `CodeRanges.contains` is the set that such a list describes; because
the ranges ascend, a code point below the next range belongs to none of the
later ones and the search stops there.
-/

namespace FileRouting

/-- Closed ranges of code points, in ascending order. -/
abbrev CodeRanges := List (Nat × Nat)

namespace CodeRanges

/-- Whether a code point lies in one of the ranges. -/
def contains : CodeRanges → Nat → Bool
  | [], _ => false
  | (low, high) :: later, code =>
      if code < low then false else code ≤ high || contains later code

def has (ranges : CodeRanges) (c : Char) : Bool :=
  ranges.contains c.toNat

end CodeRanges

end FileRouting
