import PatternScan.Text.CodeRanges
import PatternScan.Text.CaseFold

/-!
# Sets of characters

A set is kept as ascending ranges of code points that neither overlap nor touch. Sets
are joined, negated and closed under case.
-/

namespace PatternScan.Pattern

open Text (CodeRanges)

/-- A set of characters. -/
structure CharSet where
  ranges : CodeRanges
  deriving DecidableEq, Repr, Inhabited

namespace CharSet

/-- The greatest code point. -/
def maxCode : Nat := 0x10FFFF

/-- Joins sorted ranges that overlap or touch, the range `lo` to `hi` being the one read
last. -/
def mergeFrom (lo hi : Nat) : CodeRanges → CodeRanges
  | [] => [(lo, hi)]
  | (a, b) :: rest =>
      if a ≤ hi + 1 then mergeFrom lo (max hi b) rest else (lo, hi) :: mergeFrom a b rest

/-- The set of the characters in any of the ranges. -/
def ofRanges (ranges : List (Nat × Nat)) : CharSet :=
  match ranges.mergeSort fun a b => a.1 ≤ b.1 with
  | [] => ⟨[]⟩
  | (a, b) :: rest => ⟨mergeFrom a b rest⟩

/-- The set of one character. -/
def single (c : Char) : CharSet := ⟨[(c.toNat, c.toNat)]⟩

/-- The set of the characters from `a` to `b`. -/
def between (a b : Char) : CharSet := ⟨[(a.toNat, b.toNat)]⟩

/-- The set of all characters. -/
def full : CharSet := ⟨[(0, maxCode)]⟩

/-- The character is in the set. -/
def contains (s : CharSet) (c : Char) : Bool := s.ranges.contains c

/-- The characters in either set. -/
def union (s t : CharSet) : CharSet := ofRanges (s.ranges ++ t.ranges)

/-- The characters in any of the sets. -/
def unionAll (sets : List CharSet) : CharSet := ofRanges (sets.flatMap CharSet.ranges)

/-- The code points from `next` on that lie between the ranges. -/
def complementFrom (next : Nat) : CodeRanges → CodeRanges
  | [] => if next ≤ maxCode then [(next, maxCode)] else []
  | (a, b) :: rest =>
      if next < a then (next, a - 1) :: complementFrom (b + 1) rest
      else complementFrom (b + 1) rest

/-- The characters not in the set. -/
def negate (s : CharSet) : CharSet := ⟨complementFrom 0 s.ranges⟩

/-- The characters in both sets. -/
def intersection (s t : CharSet) : CharSet := (s.negate.union t.negate).negate

/-- The characters in the first set and not in the second. -/
def difference (s t : CharSet) : CharSet := s.intersection t.negate

/-- The characters in exactly one of the sets. -/
def symmetricDifference (s t : CharSet) : CharSet :=
  (s.union t).difference (s.intersection t)

/-- The set with every character that differs from one of its characters only in case. -/
def closeUnderCase (s : CharSet) : CharSet :=
  let touched := Text.foldPairs.filter fun p => s.ranges.mem p.source || s.ranges.mem p.target
  let targets := ofRanges (touched.map fun p => (p.target, p.target))
  let sources := Text.foldPairs.filter fun p => targets.ranges.mem p.target
  ofRanges (s.ranges ++ targets.ranges ++ sources.map fun p => (p.source, p.source))

/-- The set with the other case of each of its unaccented letters. -/
def closeUnderAsciiCase (s : CharSet) : CharSet :=
  let upper := (List.range 26).map (· + 65)
  let touched := upper.filter fun c => s.ranges.mem c || s.ranges.mem (c + 32)
  ofRanges (s.ranges ++ touched.flatMap fun c => [(c, c), (c + 32, c + 32)])

/-- The set holds exactly one character. -/
def isSingle (s : CharSet) : Bool :=
  match s.ranges with
  | [(a, b)] => a == b
  | _ => false

/-- Every character of the set is in ASCII. -/
def isAscii (s : CharSet) : Bool := s.ranges.all fun r => r.2 < 128

end CharSet

end PatternScan.Pattern
