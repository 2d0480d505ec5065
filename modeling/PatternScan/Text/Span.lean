/-!
# Inclusive byte spans

A span names the byte offsets from its first to its last, both ends included, so it
always covers at least one offset. Every match, field and highlighted segment is placed
by a span of the record text.
-/

namespace PatternScan

/-- The byte offsets from `first` to `last`, both included. -/
structure Span where
  first : Nat
  last : Nat
  deriving DecidableEq, Repr, Inhabited

namespace Span

/-- The number of offsets covered. A span whose ends are reversed still counts one. -/
def length (s : Span) : Nat := s.last - s.first + 1

/-- `s.contains t` says that `t` lies entirely inside `s`. -/
def contains (s t : Span) : Bool := s.first ≤ t.first && t.last ≤ s.last

/-- Two spans meet when neither ends before the other starts. -/
def meets (s t : Span) : Bool := s.first ≤ t.last && t.first ≤ s.last

/-- The offsets common to both spans, if they meet. -/
def clip (s bounds : Span) : Option Span :=
  if s.meets bounds then
    some ⟨max s.first bounds.first, min s.last bounds.last⟩
  else
    none

/-- The span seen from `origin`, which becomes offset zero. -/
def relativeTo (s : Span) (origin : Nat) : Span := ⟨s.first - origin, s.last - origin⟩

/-- The offset just past the last one, where a half-open slice of the span ends. -/
def stop (s : Span) : Nat := s.last + 1

/-- Spans are ordered by their first offset, then by their last. -/
def order (s t : Span) : Ordering :=
  (compare s.first t.first).then (compare s.last t.last)

/-- The span written as `[first, last]`. -/
def render (s : Span) : String :=
  "[" ++ toString s.first ++ ", " ++ toString s.last ++ "]"

/-- The offset is one of those the span covers. -/
def Covers (s : Span) (offset : Nat) : Prop := s.first ≤ offset ∧ offset ≤ s.last

instance (s : Span) (offset : Nat) : Decidable (s.Covers offset) :=
  inferInstanceAs (Decidable (_ ∧ _))

theorem contains_iff {s t : Span} :
    s.contains t = true ↔ s.first ≤ t.first ∧ t.last ≤ s.last := by
  simp [contains]

theorem meets_iff {s t : Span} :
    s.meets t = true ↔ s.first ≤ t.last ∧ t.first ≤ s.last := by
  simp [meets]

theorem clip_eq_some_iff {s t u : Span} :
    s.clip t = some u ↔
      s.meets t = true ∧ u = ⟨max s.first t.first, min s.last t.last⟩ := by
  unfold clip
  split
  · next h => simp [h, eq_comm]
  · next h => simp [h]

theorem clip_eq_none_iff {s t : Span} : s.clip t = none ↔ s.meets t = false := by
  unfold clip
  split <;> simp_all

/-- Clipping keeps exactly the offsets that both spans cover. -/
theorem covers_clip {s t u : Span} (h : s.clip t = some u) (offset : Nat) :
    u.Covers offset ↔ s.Covers offset ∧ t.Covers offset := by
  obtain ⟨-, rfl⟩ := clip_eq_some_iff.1 h
  simp only [Covers]
  omega

theorem contains_trans {s t u : Span} (hst : s.contains t = true) (htu : t.contains u = true) :
    s.contains u = true := by
  rw [contains_iff] at *
  omega

end Span

end PatternScan
