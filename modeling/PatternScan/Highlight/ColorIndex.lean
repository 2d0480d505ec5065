import PatternScan.Match.Basic

/-!
# Palette indices of matched groups

The non-empty matches of a record, by first offset, then by length, then by group, take
the palette indices in rotation. A group keeps the index of its first match, so neither
nesting nor the order in which matches were reported has any influence.
-/

namespace PatternScan

/-- The palette index of each group that has one, in the order of assignment. -/
structure ColorIndex where
  entries : List (Nat × Nat)
  deriving DecidableEq, Repr, Inhabited

namespace ColorIndex

/-- `comesFirst m n` says that `m` takes its index no later than `n`: it starts earlier,
or starts together with `n` and is shorter, or has the same span and no greater group. -/
def comesFirst (m n : Match) : Bool :=
  m.span.first < n.span.first ||
    (m.span.first == n.span.first &&
      (m.span.last - m.span.first < n.span.last - n.span.first ||
        (m.span.last - m.span.first == n.span.last - n.span.first && m.group ≤ n.group)))

/-- The matches that take part, in the order in which they take their indices. -/
def claimants (ms : List Match) : List Match :=
  (ms.filter fun m => !m.text.isEmpty).mergeSort comesFirst

/-- Hands out indices from `next` on, wrapping at `count`. Groups in `taken` are passed
over but still use up an index. -/
def assign (count next : Nat) (taken : List Nat) : List Match → List (Nat × Nat)
  | [] => []
  | m :: ms =>
      if taken.contains m.group then
        assign count (next + 1) taken ms
      else
        (m.group, next % count) :: assign count (next + 1) (m.group :: taken) ms

/-- The indices of the matched groups for a palette of `count` colours. Without colours
no group has one. -/
def build (ms : List Match) (count : Nat) : ColorIndex :=
  if count = 0 then ⟨[]⟩ else ⟨assign count 0 [] (claimants ms)⟩

/-- The index of a group. -/
def get? (table : ColorIndex) (group : Nat) : Option Nat := table.entries.lookup group

/-- The number of groups that have an index. -/
def size (table : ColorIndex) : Nat := table.entries.length

end ColorIndex

end PatternScan
