/-!
# Splitting a range among workers

A range of record positions is cut into contiguous parts, one for each worker that is
needed. Their sizes differ by at most one, and the first parts take the remainder.
-/

namespace PatternScan.Analysis

/-- The positions from `start` up to `stop`, the latter excluded. -/
structure ScanRange where
  start : Nat
  stop : Nat
  deriving DecidableEq, Repr, Inhabited

namespace ScanRange

/-- The number of positions. -/
def size (r : ScanRange) : Nat := r.stop - r.start

/-- The given number of contiguous parts from `start` on. The first `larger` of them have
one position more than `base`. -/
def partsFrom (base : Nat) : Nat → Nat → Nat → List ScanRange
  | _, _, 0 => []
  | start, larger, parts + 1 =>
      let stop := start + base + (if 0 < larger then 1 else 0)
      ⟨start, stop⟩ :: partsFrom base stop (larger - 1) parts

/-- The parts of `count` positions from `start` on, one for each of at most `workers`
workers. No part is empty, and at least one worker is reckoned with. -/
def split (start count workers : Nat) : List ScanRange :=
  let parts := min (max workers 1) count
  partsFrom (count / parts) start (count % parts) parts

end ScanRange

end PatternScan.Analysis
