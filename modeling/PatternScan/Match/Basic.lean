import PatternScan.Text.Span

/-!
# Matches

A match is one capture group's hit in one record. Matches are read in scan order: by
first offset, an enclosing match before the matches inside it, and by group where two
matches cover the same span.
-/

namespace PatternScan

/-- The text that one capture group took from a record, and where it took it. -/
structure Match where
  text : String
  span : Span
  group : Nat
  deriving DecidableEq, Repr, Inhabited

namespace Match

/-- `m.precedes n` says that `m` may stand before `n` in scan order: it starts earlier,
or starts together with `n` and ends later, or covers the same span for a group that is
not greater. -/
def precedes (m n : Match) : Bool :=
  m.span.first < n.span.first ||
    (m.span.first == n.span.first &&
      (n.span.last < m.span.last ||
        (m.span.last == n.span.last && m.group ≤ n.group)))

/-- The matches in scan order. Matches of equal span and group keep their order. -/
def scanOrder (ms : List Match) : List Match := ms.mergeSort precedes

theorem precedes_iff {m n : Match} :
    m.precedes n = true ↔
      m.span.first < n.span.first ∨
        (m.span.first = n.span.first ∧
          (n.span.last < m.span.last ∨
            (m.span.last = n.span.last ∧ m.group ≤ n.group))) := by
  simp [precedes]

theorem precedes_total (m n : Match) : (m.precedes n || n.precedes m) = true := by
  rw [Bool.or_eq_true, precedes_iff, precedes_iff]
  omega

theorem precedes_trans {m n o : Match} (hmn : m.precedes n = true) (hno : n.precedes o = true) :
    m.precedes o = true := by
  rw [precedes_iff] at *
  omega

theorem scanOrder_perm (ms : List Match) : (scanOrder ms).Perm ms :=
  List.mergeSort_perm ms precedes

theorem pairwise_scanOrder (ms : List Match) :
    (scanOrder ms).Pairwise fun m n => m.precedes n = true :=
  @List.pairwise_mergeSort _ precedes (fun _ _ _ => precedes_trans) precedes_total ms

end Match

end PatternScan
