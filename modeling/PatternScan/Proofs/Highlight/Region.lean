import PatternScan.Proofs.Match.Traversal
import PatternScan.Proofs.Highlight.Gaps

/-!
# The region of a node

A node of the match tree owns the offsets that it covers and none of its children covers.
The parts that it paints of a field are exactly the offsets of the field that it owns.
Whatever the matches, the last node that covers an offset owns it; where no two matches
cross, no other node does.
-/

namespace PatternScan

/-- The offset is one of those the segment covers. -/
def Segment.Covers (s : Segment) (offset : Nat) : Prop := s.first ≤ offset ∧ offset ≤ s.last

namespace MatchTree

/-- The match of the node covers the offset. -/
def covers (t : MatchTree) (p offset : Nat) : Bool :=
  (t.item? p).any fun m => m.span.Covers offset

/-- The node is the root or covers the offset, and none of its children covers it. -/
def Owns (t : MatchTree) (p offset : Nat) : Prop :=
  (p = root ∨ t.covers p offset = true) ∧ ∀ c ∈ t.children p, t.covers c offset = false

/-- The last node whose match covers the offset, or the root where there is none. -/
def innermost (t : MatchTree) (offset : Nat) : Nat :=
  Nat.findGreatest (fun p => t.covers p offset = true) t.matchCount

theorem covers_iff {t : MatchTree} {p offset : Nat} :
    t.covers p offset = true ↔ ∃ m, t.item? p = some m ∧ m.span.Covers offset := by
  simp [covers, Option.any_eq_true]

theorem innermost_le (t : MatchTree) (offset : Nat) : t.innermost offset ≤ t.matchCount :=
  Nat.findGreatest_le _

/-- The last node that covers an offset owns it, for its children come later. -/
theorem owns_innermost (t : MatchTree) (offset : Nat) : t.Owns (t.innermost offset) offset := by
  obtain ⟨-, hcovers, hlast⟩ :=
    Nat.findGreatest_eq_iff.1 (rfl : t.innermost offset = t.innermost offset)
  refine ⟨?_, fun c hc => ?_⟩
  · by_cases h : t.innermost offset = 0
    · exact Or.inl h
    · exact Or.inr (hcovers h)
  · have hchild := mem_children.1 hc
    exact Bool.eq_false_iff.2 (hlast hchild.1 hchild.2.1)

/-- Without crossing matches each offset has one owner. -/
theorem Owns.eq_innermost {ms : List Match} (hplaced : Match.WellPlaced ms)
    (hcross : Match.NonCrossing ms) {p offset : Nat} (hp : p ≤ ms.length)
    (h : (build ms).Owns p offset) : p = (build ms).innermost offset := by
  have hle : p ≤ (build ms).innermost offset := by
    rcases h.1 with rfl | hcovers
    · exact Nat.zero_le _
    · exact Nat.le_findGreatest (by rw [build_matchCount]; exact hp) hcovers
  rcases Nat.eq_or_lt_of_le hle with heq | hlt
  · exact heq
  · -- A later node that covers the offset lies below a child that covers it as well.
    exfalso
    have hinner : (build ms).covers ((build ms).innermost offset) offset = true :=
      (owns_innermost _ offset).1.resolve_left fun h0 =>
        Nat.not_lt_zero p (Nat.lt_of_lt_of_eq hlt h0)
    obtain ⟨n, hn, hno⟩ := covers_iff.1 hinner
    have habove : (build ms).IsAncestor p ((build ms).innermost offset) := by
      rcases h.1 with rfl | hcovers
      · have hbelow := isBelow_root (item?_bounds hn).2
        rcases Relation.reflTransGen_iff_eq_or_transGen.1 hbelow with heq | hbelow
        · exact absurd heq hlt.ne'
        · exact Relation.TransGen.mono (fun _ _ => mem_build_children.1) _ _ hbelow
      · obtain ⟨m, hm, hmo⟩ := covers_iff.1 hcovers
        have hmeets : m.span.meets n.span = true :=
          Span.meets_iff.2 ⟨Nat.le_trans hmo.1 hno.2, Nat.le_trans hno.1 hmo.2⟩
        exact isAncestor_of_encloses hplaced hcross (encloses_of_meets hcross hlt hm hn hmeets)
    obtain ⟨c, hc, hcq⟩ := habove.exists_child
    have hnot := h.2 c hc
    rcases hcq with rfl | hcq
    · rw [hinner] at hnot
      exact Bool.noConfusion hnot
    · have hpos : 0 < c := Nat.lt_of_le_of_lt (Nat.zero_le p) (mem_children.1 hc).1
      obtain ⟨-, m, n', hm, hn', hmn⟩ := encloses_iff.1 (hcq.encloses hpos)
      rw [hn, Option.some.injEq] at hn'
      subst hn'
      rw [Span.contains_iff] at hmn
      have hco : (build ms).covers c offset = true :=
        covers_iff.2 ⟨m, hm, Nat.le_trans hmn.1 hno.1, Nat.le_trans hno.2 hmn.2⟩
      rw [hco] at hnot
      exact Bool.noConfusion hnot

end MatchTree

/-! ## The parts painted by a node -/

namespace Coverage

open MatchTree (root)

/-- The paint of a node: that of its match's group, or none for the root. -/
def nodePaint (t : MatchTree) (paint : Nat → Paint) (p : Nat) : Paint :=
  ((t.item? p).map fun m => paint m.group).getD .unfilled

variable {t : MatchTree} {field : Span} {paint : Nat → Paint} {p : Nat}

theorem mem_childRanges {u : Span} :
    u ∈ childRanges t field p ↔
      ∃ c ∈ t.children p, ∃ m, t.item? c = some m ∧ m.span.clip field = some u := by
  simp [childRanges, Option.bind_eq_some_iff]

/-- The children seen in the field cover what the children cover there. -/
theorem covers_childRanges_iff (t : MatchTree) (field : Span) (p offset : Nat) :
    (∃ u ∈ childRanges t field p, u.Covers offset) ↔
      field.Covers offset ∧ ∃ c ∈ t.children p, t.covers c offset = true := by
  simp only [mem_childRanges, MatchTree.covers_iff]
  constructor
  · rintro ⟨u, ⟨c, hc, m, hm, hclip⟩, hu⟩
    have hboth := (Span.covers_clip hclip offset).1 hu
    exact ⟨hboth.2, c, hc, m, hm, hboth.1⟩
  · rintro ⟨hfield, c, hc, m, hm, hmo⟩
    have hmeets : m.span.meets field = true :=
      Span.meets_iff.2 ⟨Nat.le_trans hmo.1 hfield.2, Nat.le_trans hfield.1 hmo.2⟩
    have hclip := Span.clip_eq_some_iff.2 ⟨hmeets, rfl⟩
    exact ⟨_, ⟨c, hc, m, hm, hclip⟩, (Span.covers_clip hclip offset).2 ⟨hmo, hfield⟩⟩

/-- A node's range in the field covers what the node covers there, in the node's paint. -/
theorem covers_nodeRange {range : Span} {fill : Paint}
    (h : nodeRange t field paint p = some (range, fill)) :
    fill = nodePaint t paint p ∧ ∀ offset, range.Covers offset ↔
      field.Covers offset ∧ (p = root ∨ t.covers p offset = true) := by
  unfold nodeRange at h
  split at h
  · next hroot =>
      rw [Option.some.injEq, Prod.mk.injEq] at h
      obtain ⟨rfl, rfl⟩ := h
      subst hroot
      exact ⟨rfl, fun offset => by simp⟩
  · next hroot =>
      obtain ⟨m, hm, hrange⟩ := Option.bind_eq_some_iff.1 h
      obtain ⟨u, hclip, heq⟩ := Option.map_eq_some_iff.1 hrange
      rw [Prod.mk.injEq] at heq
      obtain ⟨rfl, rfl⟩ := heq
      refine ⟨by simp [nodePaint, hm], fun offset => ?_⟩
      rw [Span.covers_clip hclip, MatchTree.covers_iff]
      constructor
      · rintro ⟨hmo, hfield⟩
        exact ⟨hfield, Or.inr ⟨m, hm, hmo⟩⟩
      · rintro ⟨hfield, h0 | ⟨m', hm', hmo⟩⟩
        · exact absurd h0 hroot
        · rw [hm, Option.some.injEq] at hm'
          subst hm'
          exact ⟨hmo, hfield⟩

/-- A node that covers an offset of the field has a range there. -/
theorem exists_nodeRange (paint : Nat → Paint) {offset : Nat} (hfield : field.Covers offset)
    (h : p = root ∨ t.covers p offset = true) :
    ∃ range, nodeRange t field paint p = some (range, nodePaint t paint p) := by
  by_cases hroot : p = root
  · subst hroot
    exact ⟨field, rfl⟩
  · obtain ⟨m, hm, hmo⟩ := MatchTree.covers_iff.1 (h.resolve_left hroot)
    have hmeets : m.span.meets field = true :=
      Span.meets_iff.2 ⟨Nat.le_trans hmo.1 hfield.2, Nat.le_trans hfield.1 hmo.2⟩
    refine ⟨⟨max m.span.first field.first, min m.span.last field.last⟩, ?_⟩
    rw [nodeRange, if_neg hroot, hm]
    simp [nodePaint, hm, Span.clip, hmeets]

theorem clip_nonempty {s u : Span} (hs : s.first ≤ s.last) (hfield : field.first ≤ field.last)
    (h : s.clip field = some u) :
    field.first ≤ u.first ∧ u.first ≤ u.last ∧ u.last ≤ field.last := by
  obtain ⟨hmeets, rfl⟩ := Span.clip_eq_some_iff.1 h
  rw [Span.meets_iff] at hmeets
  simp only
  omega

section Built

variable {ms : List Match}

/-- The children seen in the field form a staircase, since no child contains another. -/
theorem staircase_childRanges (ms : List Match) (field : Span) (p : Nat) :
    Staircase (childRanges (MatchTree.build ms) field p) := by
  unfold childRanges Staircase
  rw [List.pairwise_filterMap]
  refine (MatchTree.pairwise_children _ p).imp_of_mem fun {c d} hc hd hcd u hu v hv => ?_
  obtain ⟨m, hm, hu⟩ := Option.bind_eq_some_iff.1 hu
  obtain ⟨n, hn, hv⟩ := Option.bind_eq_some_iff.1 hv
  have hincrease := MatchTree.siblings_increase (MatchTree.mem_build_children.1 hc)
    (MatchTree.mem_build_children.1 hd) hcd hm hn
  obtain ⟨-, rfl⟩ := Span.clip_eq_some_iff.1 hu
  obtain ⟨-, rfl⟩ := Span.clip_eq_some_iff.1 hv
  simp only
  omega

/-- The range of a node in the field has room for its children there. -/
theorem fitsInto_nodeRange (hplaced : Match.WellPlaced ms) (hfield : field.first ≤ field.last)
    {range : Span} {fill : Paint}
    (h : nodeRange (MatchTree.build ms) field paint p = some (range, fill)) :
    (field.first ≤ range.first ∧ range.last ≤ field.last) ∧
      FitsInto range (childRanges (MatchTree.build ms) field p) := by
  unfold nodeRange at h
  split at h
  · next hroot =>
      rw [Option.some.injEq, Prod.mk.injEq] at h
      obtain ⟨rfl, -⟩ := h
      refine ⟨⟨Nat.le_refl _, Nat.le_refl _⟩, hfield, staircase_childRanges ms field p, ?_⟩
      intro u hu
      obtain ⟨c, -, m, hm, hclip⟩ := mem_childRanges.1 hu
      exact clip_nonempty (hplaced m (MatchTree.mem_of_item? hm)) hfield hclip
  · next hroot =>
      obtain ⟨m, hm, hrange⟩ := Option.bind_eq_some_iff.1 h
      obtain ⟨u, hclip, heq⟩ := Option.map_eq_some_iff.1 hrange
      rw [Prod.mk.injEq] at heq
      obtain ⟨rfl, -⟩ := heq
      have hbounds := clip_nonempty (hplaced m (MatchTree.mem_of_item? hm)) hfield hclip
      refine ⟨⟨hbounds.1, hbounds.2.2⟩, hbounds.2.1, staircase_childRanges ms field p, ?_⟩
      intro v hv
      obtain ⟨c, hc, n, hn, hv⟩ := mem_childRanges.1 hv
      have hpos : 0 < p := Nat.pos_of_ne_zero hroot
      obtain ⟨-, m', n', hm', hn', hmn⟩ := MatchTree.encloses_iff.1
        (MatchTree.encloses_of_parent hpos (MatchTree.mem_build_children.1 hc))
      rw [hm, Option.some.injEq] at hm'
      rw [hn, Option.some.injEq] at hn'
      subst hm' hn'
      have hchild := clip_nonempty (hplaced n (MatchTree.mem_of_item? hn)) hfield hv
      obtain ⟨-, rfl⟩ := Span.clip_eq_some_iff.1 hclip
      obtain ⟨-, rfl⟩ := Span.clip_eq_some_iff.1 hv
      rw [Span.contains_iff] at hmn
      simp only at hchild ⊢
      omega

end Built

end Coverage

end PatternScan
