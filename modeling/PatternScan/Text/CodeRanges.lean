/-!
# Sets of characters as ranges of code points

A set is a list of inclusive ranges in ascending order that do not overlap. Looking a
character up stops at the first range that lies beyond it.
-/

namespace PatternScan.Text

/-- Inclusive ranges of code points, ascending and without overlap. -/
abbrev CodeRanges := List (Nat × Nat)

namespace CodeRanges

/-- The code point lies in one of the ranges. -/
def mem : CodeRanges → Nat → Bool
  | [], _ => false
  | (lo, hi) :: rest, code =>
      if code < lo then false else if code ≤ hi then true else mem rest code

/-- The character lies in one of the ranges. -/
def contains (ranges : CodeRanges) (c : Char) : Bool := mem ranges c.toNat

end CodeRanges

end PatternScan.Text
