import PatternScan.Proofs.Highlight.Region

/-!
# The coverage law

The segments of a field cover all of it and nothing outside of it, whatever the matches.
Where no two matches cross, they follow one another without a gap or an overlap. No
subtraction made on the way would give a negative number.
-/

namespace PatternScan.Coverage

open MatchTree (build)

/-! ## Segments of one node -/

section Node

variable {ms : List Match} {field : Span} {paint : Nat → Paint} {p : Nat}

theorem mem_nodeSegments {t : MatchTree} {s : Segment} :
    s ∈ nodeSegments t field paint p ↔
      ∃ range, nodeRange t field paint p = some (range, s.paint) ∧
        ⟨s.first, s.last⟩ ∈ gaps range (childRanges t field p) := by
  unfold nodeSegments
  cases h : nodeRange t field paint p with
  | none => simp
  | some found =>
      obtain ⟨range, fill⟩ := found
      simp only [List.mem_map, Option.some.injEq, Prod.mk.injEq]
      constructor
      · rintro ⟨g, hg, rfl⟩
        exact ⟨range, ⟨rfl, rfl⟩, hg⟩
      · rintro ⟨range', ⟨rfl, rfl⟩, hg⟩
        exact ⟨_, hg, rfl⟩

theorem nodeSegments_bounds (hplaced : Match.WellPlaced ms) (hfield : field.first ≤ field.last)
    {s : Segment} (hs : s ∈ nodeSegments (build ms) field paint p) :
    field.first ≤ s.first ∧ s.first ≤ s.last ∧ s.last ≤ field.last := by
  obtain ⟨range, hrange, hgap⟩ := mem_nodeSegments.1 hs
  obtain ⟨hwithin, hfits⟩ := fitsInto_nodeRange hplaced hfield hrange
  have hbounds := mem_gaps_bounds hfits hgap
  simp only at hbounds
  omega

theorem paint_nodeSegments {t : MatchTree} {s : Segment}
    (hs : s ∈ nodeSegments t field paint p) : s.paint = nodePaint t paint p := by
  obtain ⟨range, hrange, -⟩ := mem_nodeSegments.1 hs
  exact (covers_nodeRange hrange).1

/-- The segments of a node cover what the node owns of the field. -/
theorem covers_nodeSegments_iff (hplaced : Match.WellPlaced ms)
    (hfield : field.first ≤ field.last) (offset : Nat) :
    (∃ s ∈ nodeSegments (build ms) field paint p, s.Covers offset) ↔
      field.Covers offset ∧ (build ms).Owns p offset := by
  have hchildren := covers_childRanges_iff (build ms) field p offset
  constructor
  · rintro ⟨s, hs, hso⟩
    obtain ⟨range, hrange, hgap⟩ := mem_nodeSegments.1 hs
    have hfits := (fitsInto_nodeRange hplaced hfield hrange).2
    obtain ⟨hin, hnot⟩ := (covers_gaps_iff hfits offset).1 ⟨_, hgap, hso⟩
    obtain ⟨hof, hp⟩ := ((covers_nodeRange hrange).2 offset).1 hin
    refine ⟨hof, hp, fun c hc => Bool.eq_false_iff.2 fun hco => ?_⟩
    obtain ⟨u, hu, huo⟩ := hchildren.2 ⟨hof, c, hc, hco⟩
    exact hnot u hu huo
  · rintro ⟨hof, hp, hnot⟩
    obtain ⟨range, hrange⟩ := exists_nodeRange paint hof hp
    have hfits := (fitsInto_nodeRange hplaced hfield hrange).2
    have hin := ((covers_nodeRange hrange).2 offset).2 ⟨hof, hp⟩
    obtain ⟨g, hg, hgo⟩ := (covers_gaps_iff hfits offset).2 ⟨hin, fun u hu huo => by
      obtain ⟨-, c, hc, hco⟩ := hchildren.1 ⟨u, hu, huo⟩
      rw [hnot c hc] at hco
      exact Bool.noConfusion hco⟩
    exact ⟨⟨g.first, g.last, nodePaint _ paint p⟩, mem_nodeSegments.2 ⟨range, hrange, hg⟩, hgo⟩

/-- Two segments of one node do not even touch. -/
theorem pairwise_nodeSegments (hplaced : Match.WellPlaced ms)
    (hfield : field.first ≤ field.last) :
    (nodeSegments (build ms) field paint p).Pairwise fun a b => a.last + 1 < b.first := by
  unfold nodeSegments
  split
  · exact List.Pairwise.nil
  · next range fill hrange =>
      rw [List.pairwise_map]
      exact pairwise_gaps (fitsInto_nodeRange hplaced hfield hrange).2

end Node

/-! ## Segments of all nodes -/

/-- The segments of all nodes, bottom up, at offsets of the record. -/
def painted (t : MatchTree) (field : Span) (paint : Nat → Paint) : List Segment :=
  t.postOrder.flatMap (nodeSegments t field paint)

section Field

variable {ms : List Match} {field : Span} {paint : Nat → Paint}

theorem mem_painted {s : Segment} :
    s ∈ painted (build ms) field paint ↔
      ∃ p ≤ ms.length, s ∈ nodeSegments (build ms) field paint p := by
  simp only [painted, List.mem_flatMap, MatchTree.mem_build_postOrder]

theorem painted_bounds (hplaced : Match.WellPlaced ms) (hfield : field.first ≤ field.last)
    {s : Segment} (hs : s ∈ painted (build ms) field paint) :
    field.first ≤ s.first ∧ s.first ≤ s.last ∧ s.last ≤ field.last := by
  obtain ⟨p, -, hs⟩ := mem_painted.1 hs
  exact nodeSegments_bounds hplaced hfield hs

/-- The innermost node paints the offset. -/
theorem exists_painted (paint : Nat → Paint) (hplaced : Match.WellPlaced ms)
    (hfield : field.first ≤ field.last) {offset : Nat} (hof : field.Covers offset) :
    ∃ s ∈ nodeSegments (build ms) field paint ((build ms).innermost offset),
      s.Covers offset :=
  (covers_nodeSegments_iff hplaced hfield offset).2 ⟨hof, MatchTree.owns_innermost _ _⟩

/-- Without crossing matches no two segments have an offset in common. -/
theorem pairwise_painted (hplaced : Match.WellPlaced ms) (hcross : Match.NonCrossing ms)
    (hfield : field.first ≤ field.last) :
    (painted (build ms) field paint).Pairwise fun a b =>
      a.last < b.first ∨ b.last < a.first := by
  refine List.pairwise_flatMap.2 ⟨fun p _ => ?_, ?_⟩
  · exact (pairwise_nodeSegments hplaced hfield).imp fun h => Or.inl (by omega)
  · refine (MatchTree.nodup_postOrder _).imp_of_mem fun {p q} hp hq hpq a ha b hb => ?_
    -- An offset in common would be owned by both nodes.
    by_contra hoverlap
    have ha' := nodeSegments_bounds hplaced hfield ha
    have hb' := nodeSegments_bounds hplaced hfield hb
    have hao : a.Covers (max a.first b.first) := by
      simp only [Segment.Covers]
      omega
    have hbo : b.Covers (max a.first b.first) := by
      simp only [Segment.Covers]
      omega
    have hpo := ((covers_nodeSegments_iff hplaced hfield _).1 ⟨a, ha, hao⟩).2
    have hqo := ((covers_nodeSegments_iff hplaced hfield _).1 ⟨b, hb, hbo⟩).2
    apply hpq
    rw [hpo.eq_innermost hplaced hcross (MatchTree.mem_build_postOrder.1 hp),
      hqo.eq_innermost hplaced hcross (MatchTree.mem_build_postOrder.1 hq)]

/-! ## The sorted segments of a field -/

theorem segmentOrder_iff {a b : Segment} :
    segmentOrder a b = true ↔ a.first < b.first ∨ (a.first = b.first ∧ a.last ≤ b.last) := by
  simp [segmentOrder]

theorem pairwise_split (t : MatchTree) (field : Span) (paint : Nat → Paint) :
    (split t field paint).Pairwise fun a b => a.first ≤ b.first := by
  have hsorted := @List.pairwise_mergeSort _ segmentOrder
    (fun a b c hab hbc => by rw [segmentOrder_iff] at *; omega)
    (fun a b => by rw [Bool.or_eq_true, segmentOrder_iff, segmentOrder_iff]; omega)
    ((painted t field paint).map (shift field.first))
  refine hsorted.imp fun h => ?_
  rw [segmentOrder_iff] at h
  omega

theorem split_perm (t : MatchTree) (field : Span) (paint : Nat → Paint) :
    (split t field paint).Perm ((painted t field paint).map (shift field.first)) :=
  List.mergeSort_perm _ _

theorem mem_split {t : MatchTree} {s : Segment} :
    s ∈ split t field paint ↔ ∃ r ∈ painted t field paint, shift field.first r = s := by
  rw [(split_perm t field paint).mem_iff, List.mem_map]

theorem split_bounds (hplaced : Match.WellPlaced ms) (hfield : field.first ≤ field.last)
    {s : Segment} (hs : s ∈ split (build ms) field paint) :
    s.first ≤ s.last ∧ s.last ≤ field.last - field.first := by
  obtain ⟨r, hr, rfl⟩ := mem_split.1 hs
  have hbounds := painted_bounds hplaced hfield hr
  simp only [shift]
  omega

/-- The segments cover the field and nothing else. -/
theorem covers_split_iff (paint : Nat → Paint) (hplaced : Match.WellPlaced ms)
    (hfield : field.first ≤ field.last) (offset : Nat) :
    (∃ s ∈ split (build ms) field paint, s.Covers offset) ↔
      offset ≤ field.last - field.first := by
  constructor
  · rintro ⟨s, hs, hso⟩
    exact Nat.le_trans hso.2 (split_bounds hplaced hfield hs).2
  · intro hoffset
    have hof : field.Covers (field.first + offset) := by
      simp only [Span.Covers]
      omega
    obtain ⟨r, hr, hro⟩ := exists_painted paint hplaced hfield hof
    have hmem : r ∈ painted (build ms) field paint := by
      refine mem_painted.2 ⟨_, ?_, hr⟩
      rw [← MatchTree.build_matchCount]
      exact MatchTree.innermost_le _ _
    have hbounds := painted_bounds hplaced hfield hmem
    refine ⟨shift field.first r, mem_split.2 ⟨r, hmem, rfl⟩, ?_⟩
    simp only [Segment.Covers, shift] at hro ⊢
    omega

theorem pairwise_split_disjoint (paint : Nat → Paint) (hplaced : Match.WellPlaced ms)
    (hcross : Match.NonCrossing ms) (hfield : field.first ≤ field.last) :
    (split (build ms) field paint).Pairwise fun a b => a.last < b.first := by
  have hdisjoint : (split (build ms) field paint).Pairwise fun a b =>
      a.last < b.first ∨ b.last < a.first := by
    refine ((split_perm _ _ _).pairwise_iff fun h => h.symm).2 ?_
    refine List.pairwise_map.2 ((pairwise_painted hplaced hcross hfield).imp_of_mem ?_)
    intro a b ha hb hab
    have ha' := painted_bounds hplaced hfield ha
    have hb' := painted_bounds hplaced hfield hb
    simp only [shift]
    omega
  refine ((pairwise_split _ _ _).and hdisjoint).imp_of_mem fun ha hb hab => ?_
  have hb' := split_bounds hplaced hfield hb
  omega

end Field

/-! ## Contiguous segments -/

/-- The segments follow one another from offset `start` on without a gap or an overlap,
and the last one ends right before `stop`. -/
def Contiguous : Nat → List Segment → Nat → Prop
  | start, [], stop => start = stop
  | start, s :: rest, stop =>
      s.first = start ∧ s.first ≤ s.last ∧ Contiguous (s.last + 1) rest stop

/-- Sorted segments without an overlap that cover all offsets follow one another. -/
theorem contiguous_of_covers {segments : List Segment} {start stop : Nat}
    (hle : start ≤ stop)
    (hbounds : ∀ s ∈ segments, start ≤ s.first ∧ s.first ≤ s.last ∧ s.last < stop)
    (hdisjoint : segments.Pairwise fun a b => a.last < b.first)
    (hcovers : ∀ offset, start ≤ offset → offset < stop → ∃ s ∈ segments, s.Covers offset) :
    Contiguous start segments stop := by
  induction segments generalizing start with
  | nil =>
      rcases Nat.eq_or_lt_of_le hle with heq | hlt
      · exact heq
      · obtain ⟨s, hs, -⟩ := hcovers start (Nat.le_refl start) hlt
        exact absurd hs List.not_mem_nil
  | cons s rest ih =>
      have hs := hbounds s List.mem_cons_self
      have hrest := List.pairwise_cons.1 hdisjoint
      have hfirst : s.first = start := by
        obtain ⟨s', hs', hcover⟩ := hcovers start (Nat.le_refl start) (by omega)
        rcases List.mem_cons.1 hs' with rfl | hlater
        · exact Nat.le_antisymm hcover.1 hs.1
        · have hafter := hrest.1 s' hlater
          have hreach := hcover.1
          omega
      refine ⟨hfirst, hs.2.1, ih (by omega) ?_ hrest.2 ?_⟩
      · intro s' hs'
        have hafter := hrest.1 s' hs'
        have hin := hbounds s' (List.mem_cons_of_mem s hs')
        omega
      · intro offset hoffset hstop
        obtain ⟨s', hs', hcover⟩ := hcovers offset (by omega) hstop
        rcases List.mem_cons.1 hs' with rfl | hlater
        · have hreach := hcover.2
          omega
        · exact ⟨s', hlater, hcover⟩

/-! ## Subtractions -/

/-- The difference, unless it would be negative. -/
def checkedSub (a b : Nat) : Option Nat := if b ≤ a then some (a - b) else none

theorem checkedSub_eq_some {a b : Nat} (h : b ≤ a) : checkedSub a b = some (a - b) :=
  if_pos h

/-- The spans between neighbouring children, with every subtraction checked. -/
def checkedGapsBetween : List Span → Option (List Span)
  | a :: b :: rest => do
      let later ← checkedGapsBetween (b :: rest)
      if a.last + 1 < b.first then
        let last ← checkedSub b.first 1
        return ⟨a.last + 1, last⟩ :: later
      else return later
  | _ => some []

/-- The parts of a range that are left, with every subtraction checked. -/
def checkedGaps (range : Span) (children : List Span) : Option (List Span) :=
  match children.head?, children.getLast? with
  | some first, some last => do
      let before ←
        if range.first < first.first then
          (checkedSub first.first 1).map fun stop => [⟨range.first, stop⟩]
        else some []
      let between ← checkedGapsBetween children
      return before ++ between ++
        (if last.last < range.last then [⟨last.last + 1, range.last⟩] else [])
  | _, _ => some [range]

/-- The painted parts of one node, with every subtraction checked. -/
def checkedNodeSegments (t : MatchTree) (field : Span) (paint : Nat → Paint) (p : Nat) :
    Option (List Segment) :=
  match nodeRange t field paint p with
  | none => some []
  | some (range, fill) =>
      (checkedGaps range (childRanges t field p)).map
        (List.map fun gap => ⟨gap.first, gap.last, fill⟩)

/-- The segment seen from the start of its field, with every subtraction checked. -/
def checkedShift (origin : Nat) (s : Segment) : Option Segment := do
  let first ← checkedSub s.first origin
  let last ← checkedSub s.last origin
  return ⟨first, last, s.paint⟩

/-- The segments of a field, with every subtraction checked. -/
def checkedSplit (t : MatchTree) (field : Span) (paint : Nat → Paint) :
    Option (List Segment) := do
  let found ← t.postOrder.mapM (checkedNodeSegments t field paint)
  let moved ← found.flatten.mapM (checkedShift field.first)
  return moved.mergeSort segmentOrder

theorem checkedGapsBetween_eq (children : List Span) :
    checkedGapsBetween children = some (gapsBetween children) := by
  fun_induction gapsBetween children with
  | case1 a b rest hroom ih =>
      have hpos : 1 ≤ b.first := by omega
      simp [checkedGapsBetween, ih, hroom, checkedSub_eq_some hpos]
  | case2 a b rest hroom ih => simp [checkedGapsBetween, ih, hroom]
  | case3 children hshort =>
      unfold checkedGapsBetween
      split
      · next a b rest => exact absurd rfl (hshort a b rest)
      · rfl

theorem checkedGaps_eq (range : Span) (children : List Span) :
    checkedGaps range children = some (gaps range children) := by
  cases hfirst : children.head? with
  | none => simp [checkedGaps, gaps, hfirst]
  | some first =>
      cases hlast : children.getLast? with
      | none => simp [checkedGaps, gaps, hfirst, hlast]
      | some last =>
          simp only [checkedGaps, gaps, hfirst, hlast, checkedGapsBetween_eq]
          by_cases hroom : range.first < first.first
          · have hpos : 1 ≤ first.first := by omega
            simp [hroom, checkedSub_eq_some hpos]
          · simp [hroom]

theorem checkedNodeSegments_eq (t : MatchTree) (field : Span) (paint : Nat → Paint) (p : Nat) :
    checkedNodeSegments t field paint p = some (nodeSegments t field paint p) := by
  cases hrange : nodeRange t field paint p with
  | none => simp [checkedNodeSegments, nodeSegments, hrange]
  | some found => simp [checkedNodeSegments, nodeSegments, hrange, checkedGaps_eq]

theorem mapM_eq_some_map {α β : Type} {xs : List α} {f : α → Option β} {g : α → β}
    (h : ∀ a ∈ xs, f a = some (g a)) : xs.mapM f = some (xs.map g) := by
  induction xs with
  | nil => rfl
  | cons a rest ih =>
      rw [List.mapM_cons, h a List.mem_cons_self, ih fun b hb => h b (List.mem_cons_of_mem a hb)]
      rfl

/-- No subtraction goes below zero: the checked computation gives the same segments. -/
theorem checkedSplit_eq {ms : List Match} (hplaced : Match.WellPlaced ms) {field : Span}
    (hfield : field.first ≤ field.last) (paint : Nat → Paint) :
    checkedSplit (build ms) field paint = some (split (build ms) field paint) := by
  have hfound : (build ms).postOrder.mapM (checkedNodeSegments (build ms) field paint) =
      some ((build ms).postOrder.map (nodeSegments (build ms) field paint)) :=
    mapM_eq_some_map fun p _ => checkedNodeSegments_eq (build ms) field paint p
  have hmoved : ((build ms).postOrder.map (nodeSegments (build ms) field paint)).flatten.mapM
      (checkedShift field.first) =
        some ((painted (build ms) field paint).map (shift field.first)) := by
    rw [← List.flatMap_def]
    refine mapM_eq_some_map fun s hs => ?_
    have hbounds := painted_bounds hplaced hfield hs
    have hlast : field.first ≤ s.last := by omega
    simp [checkedShift, shift, checkedSub_eq_some hbounds.1, checkedSub_eq_some hlast]
  rw [checkedSplit, hfound]
  simp only [Option.bind_eq_bind, Option.bind_some, hmoved]
  rfl

/-! ## The law -/

/-- Every match list covers its field: the segments lie in the field, are sorted by their
start, leave no offset out, and no subtraction on the way goes below zero. Where no two
matches cross, they follow one another from the first offset to the last. -/
theorem split_covers_field (ms : List Match) (hplaced : Match.WellPlaced ms) (field : Span)
    (hfield : field.first ≤ field.last) (scheme : ColorScheme) :
    (∀ s ∈ split (build ms) field scheme.paint,
      s.first ≤ s.last ∧ s.last ≤ field.last - field.first) ∧
    ((split (build ms) field scheme.paint).Pairwise fun a b => a.first ≤ b.first) ∧
    (∀ offset, (∃ s ∈ split (build ms) field scheme.paint, s.Covers offset) ↔
      offset ≤ field.last - field.first) ∧
    checkedSplit (build ms) field scheme.paint =
      some (split (build ms) field scheme.paint) ∧
    (Match.NonCrossing ms →
      ((split (build ms) field scheme.paint).Pairwise fun a b => a.last < b.first) ∧
      Contiguous 0 (split (build ms) field scheme.paint) (field.last - field.first + 1)) := by
  refine ⟨fun s hs => split_bounds hplaced hfield hs, pairwise_split _ _ _,
    covers_split_iff _ hplaced hfield, checkedSplit_eq hplaced hfield _, fun hcross => ?_⟩
  have hdisjoint := pairwise_split_disjoint scheme.paint hplaced hcross hfield
  refine ⟨hdisjoint, contiguous_of_covers (Nat.zero_le _) ?_ hdisjoint ?_⟩
  · intro s hs
    have hbounds := split_bounds hplaced hfield hs
    exact ⟨Nat.zero_le _, hbounds.1, Nat.lt_succ_of_le hbounds.2⟩
  · intro offset _ hoffset
    exact (covers_split_iff _ hplaced hfield offset).2 (Nat.le_of_lt_succ hoffset)

theorem split_covers_nestedSample :
    Match.WellPlaced MatchTree.nestedSample ∧ Match.NonCrossing MatchTree.nestedSample ∧
      Contiguous 0
        (split (build MatchTree.nestedSample) ⟨1, 4⟩
          (ColorScheme.paint ⟨fun _ => none, .standard, ⟨[(1, 0)]⟩⟩)) 4 := by
  have hplaced : Match.WellPlaced MatchTree.nestedSample := by decide
  have hcross : Match.NonCrossing MatchTree.nestedSample := by decide
  have hlaw := split_covers_field MatchTree.nestedSample hplaced ⟨1, 4⟩ (by decide)
    ⟨fun _ => none, .standard, ⟨[(1, 0)]⟩⟩
  exact ⟨hplaced, hcross, (hlaw.2.2.2.2 hcross).2⟩

end PatternScan.Coverage
