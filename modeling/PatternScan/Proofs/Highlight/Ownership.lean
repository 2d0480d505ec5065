import Mathlib.Data.List.Pairwise
import PatternScan.Proofs.Highlight.ColorIndex
import PatternScan.Proofs.Highlight.Coverage

/-!
# Ownership of offsets

Of the matches that cover an offset the last one in scan order owns it. The segments of a
field are never found by asking for the owner of an offset; still, where no two matches
cross, they are the maximal runs of offsets with the same owner, in the paint of that
owner's group.
-/

namespace PatternScan

/-! ## Maximal runs -/

/-- The offsets from `first` to `last` have one value under `f`, and the run cannot be
extended within the offsets up to `limit`. -/
structure IsMaximalRun {α : Type} (f : Nat → α) (limit first last : Nat) : Prop where
  nonempty : first ≤ last
  inside : last ≤ limit
  constant : ∀ offset, first ≤ offset → offset ≤ last → f offset = f first
  starts : 0 < first → f (first - 1) ≠ f first
  ends : last < limit → f (last + 1) ≠ f last

namespace IsMaximalRun

variable {α : Type} {f : Nat → α} {limit a b c d offset : Nat}

theorem first_le_of_shared (h : IsMaximalRun f limit a b) (h' : IsMaximalRun f limit c d)
    (hb : offset ≤ b) (hc : c ≤ offset) (hd : offset ≤ d) : c ≤ a := by
  by_contra hlt
  have hpos : 0 < c := by omega
  apply h'.starts hpos
  rw [h.constant (c - 1) (by omega) (by omega), ← h.constant offset (by omega) hb,
    h'.constant offset hc hd]

theorem le_last_of_shared (h : IsMaximalRun f limit a b) (h' : IsMaximalRun f limit c d)
    (ha : a ≤ offset) (hc : c ≤ offset) (hd : offset ≤ d) : b ≤ d := by
  by_contra hlt
  have hinside := h.inside
  apply h'.ends (by omega)
  rw [h.constant (d + 1) (by omega) (by omega), h'.constant d (by omega) (Nat.le_refl d),
    ← h'.constant offset hc hd, h.constant offset ha (by omega)]

/-- Maximal runs with an offset in common are the same. -/
theorem unique (h : IsMaximalRun f limit a b) (h' : IsMaximalRun f limit c d)
    (ha : a ≤ offset) (hb : offset ≤ b) (hc : c ≤ offset) (hd : offset ≤ d) :
    a = c ∧ b = d :=
  ⟨Nat.le_antisymm (h'.first_le_of_shared h hd ha hb) (h.first_le_of_shared h' hb hc hd),
    Nat.le_antisymm (h.le_last_of_shared h' ha hc hd) (h'.le_last_of_shared h hc ha hb)⟩

end IsMaximalRun

/-! ## Owners -/

/-- The match that covers the offset and comes last in scan order, if any covers it. -/
def Match.owner (ms : List Match) (offset : Nat) : Option Match :=
  ((scanOrder ms).filter fun m => m.span.Covers offset).getLast?

/-- The paint that an owner gives: the colour its group declares, else the palette's colour
at the index of its group. Without an owner there is none. -/
def ownerPaint (ms : List Match) (declared : Nat → Option Color) (palette : Palette) :
    Option Match → Paint
  | none => ⟨none, false⟩
  | some m =>
      match declared m.group with
      | some color => ⟨some color, true⟩
      | none => ⟨((ColorIndex.build ms palette.size).get? m.group).bind palette.get?, false⟩

/-- The last element that passes a test is the one after which none does. -/
theorem getLast?_filter_of_getElem? {α : Type} {xs : List α} {test : α → Bool} {k : Nat} {x : α}
    (hk : xs[k]? = some x) (hx : test x = true)
    (hlater : ∀ j y, k < j → xs[j]? = some y → test y = false) :
    (xs.filter test).getLast? = some x := by
  induction xs generalizing k with
  | nil => simp at hk
  | cons y rest ih =>
      cases k with
      | zero =>
          rw [List.getElem?_cons_zero, Option.some.injEq] at hk
          subst hk
          have hrest : rest.filter test = [] := by
            refine List.filter_eq_nil_iff.2 fun z hz => ?_
            obtain ⟨j, hj⟩ := List.mem_iff_getElem?.1 hz
            rw [hlater (j + 1) z (Nat.succ_pos j) (by simpa using hj)]
            exact Bool.false_ne_true
          simp [hx, hrest]
      | succ k =>
          have hlast := ih (by simpa using hk) fun j z hj hz =>
            hlater (j + 1) z (Nat.succ_lt_succ hj) (by simpa using hz)
          rw [List.filter_cons]
          split
          · rw [List.getLast?_cons, hlast, Option.getD_some]
          · exact hlast

/-- Neither an empty palette nor a group without an index gives a colour. -/
theorem ownerPaint_eq_unfilled {ms : List Match} {declared : Nat → Option Color}
    {palette : Palette} {m : Match} (hdeclared : declared m.group = none)
    (hnone : palette.size = 0 ∨ (ColorIndex.build ms palette.size).get? m.group = none) :
    ownerPaint ms declared palette (some m) = .unfilled := by
  have hindex : (ColorIndex.build ms palette.size).get? m.group = none := by
    rcases hnone with hempty | hindex
    · rw [hempty]
      rfl
    · exact hindex
  simp [ownerPaint, hdeclared, hindex, Paint.unfilled]

namespace MatchTree

variable {ms : List Match} {a b : Nat}

theorem not_covers_of_innermost_lt {t : MatchTree} {p offset : Nat}
    (h : t.innermost offset < p) : t.covers p offset = false := by
  refine Bool.eq_false_iff.2 fun hcovers => ?_
  obtain ⟨m, hm, -⟩ := covers_iff.1 hcovers
  have hp : p ≤ t.matchCount := by
    cases p with
    | zero => exact absurd h (Nat.not_lt_zero _)
    | succ k => exact (List.getElem?_eq_some_iff.1 hm).1
  exact (Nat.findGreatest_eq_iff.1 (rfl : t.innermost offset = _)).2.2 h hp hcovers

/-- The owner of an offset is the match of the innermost node there. -/
theorem owner_eq_item? (ms : List Match) (offset : Nat) :
    Match.owner ms offset = (build ms).item? ((build ms).innermost offset) := by
  have hlater : ∀ {k : Nat} {m : Match}, (build ms).innermost offset ≤ k →
      (Match.scanOrder ms)[k]? = some m → decide (m.span.Covers offset) = false := by
    intro k m hk hm
    refine decide_eq_false fun hmo => ?_
    have hnot := not_covers_of_innermost_lt (Nat.lt_succ_of_le hk)
    rw [covers_iff.2 ⟨m, (build_item?_succ ms k).trans hm, hmo⟩] at hnot
    exact Bool.noConfusion hnot
  cases hinner : (build ms).innermost offset with
  | zero =>
      rw [Match.owner, List.filter_eq_nil_iff.2]
      · rfl
      · intro m hm hmo
        obtain ⟨k, hk⟩ := List.mem_iff_getElem?.1 hm
        rw [hlater (by omega) hk] at hmo
        exact Bool.noConfusion hmo
  | succ k =>
      have hcovers := (owns_innermost (build ms) offset).1
      rw [hinner] at hcovers
      obtain ⟨m, hm, hmo⟩ := covers_iff.1 (hcovers.resolve_left (Nat.succ_ne_zero k))
      rw [hm]
      exact getLast?_filter_of_getElem? hm (decide_eq_true hmo)
        fun j n hj hn => hlater (by omega) hn

/-- Two offsets have the same owner where they have the same innermost node: matches of
equal span cover the same offsets, and the last of them owns them all. -/
theorem owner_eq_iff :
    Match.owner ms a = Match.owner ms b ↔
      (build ms).innermost a = (build ms).innermost b := by
  constructor
  · have hle : ∀ {a b : Nat}, Match.owner ms a = Match.owner ms b →
        (build ms).innermost a ≤ (build ms).innermost b := by
      intro a b heq
      by_contra hlt
      have hpos : (build ms).innermost a ≠ root := by
        simp only [root]
        omega
      obtain ⟨m, hm, -⟩ := covers_iff.1 ((owns_innermost (build ms) a).1.resolve_left hpos)
      rw [owner_eq_item?, owner_eq_item?, hm] at heq
      have hmb : m.span.Covers b := by
        have hposb : (build ms).innermost b ≠ root := by
          intro h0
          rw [h0] at heq
          exact Option.some_ne_none m heq
        obtain ⟨n, hn, hnb⟩ := covers_iff.1 ((owns_innermost (build ms) b).1.resolve_left hposb)
        rw [hn, Option.some.injEq] at heq
        rw [heq]
        exact hnb
      have hnot := not_covers_of_innermost_lt (Nat.lt_of_not_le hlt)
      rw [covers_iff.2 ⟨m, hm, hmb⟩] at hnot
      exact Bool.noConfusion hnot
    intro heq
    exact Nat.le_antisymm (hle heq) (hle heq.symm)
  · intro heq
    rw [owner_eq_item?, owner_eq_item?, heq]

end MatchTree

/-! ## Segments as runs -/

namespace Coverage

open MatchTree (build)

variable {ms : List Match} {field : Span} {paint : Nat → Paint} {p : Nat} {s : Segment}

/-- The offsets of a segment have the node that paints it as their innermost one. -/
theorem innermost_of_nodeSegments (hplaced : Match.WellPlaced ms)
    (hcross : Match.NonCrossing ms) (hfield : field.first ≤ field.last) (hp : p ≤ ms.length)
    (hs : s ∈ nodeSegments (build ms) field paint p) {offset : Nat} (hso : s.Covers offset) :
    (build ms).innermost offset = p := by
  have howns := ((covers_nodeSegments_iff hplaced hfield offset).1 ⟨s, hs, hso⟩).2
  exact (howns.eq_innermost hplaced hcross hp).symm

/-- Right before and right after a segment the field has another innermost node. -/
theorem innermost_ne_beside (hplaced : Match.WellPlaced ms)
    (hfield : field.first ≤ field.last) (hs : s ∈ nodeSegments (build ms) field paint p)
    {offset : Nat} (hof : field.Covers offset)
    (hbeside : offset + 1 = s.first ∨ offset = s.last + 1) :
    (build ms).innermost offset ≠ p := by
  intro hinner
  -- The node would paint the offset too, but its segments do not touch.
  obtain ⟨r, hr, hro⟩ := exists_painted paint hplaced hfield hof
  rw [hinner] at hr
  have hne : r ≠ s := by
    rintro rfl
    simp only [Segment.Covers] at hro
    omega
  have hapart : (nodeSegments (build ms) field paint p).Pairwise
      fun a b => a.last + 1 < b.first ∨ b.last + 1 < a.first :=
    (pairwise_nodeSegments hplaced hfield).imp Or.inl
  have : Std.Symm fun a b : Segment => a.last + 1 < b.first ∨ b.last + 1 < a.first :=
    ⟨fun _ _ h => h.symm⟩
  have hrs := hapart.forall hr hs hne
  have hbounds := nodeSegments_bounds hplaced hfield hs
  simp only [Segment.Covers] at hro
  omega

/-- Every segment is a maximal run of offsets with one owner, in the owner's paint. -/
theorem isMaximalRun_of_mem_split (hplaced : Match.WellPlaced ms)
    (hcross : Match.NonCrossing ms) (hfield : field.first ≤ field.last)
    (hs : s ∈ split (build ms) field paint) :
    IsMaximalRun (fun offset => Match.owner ms (field.first + offset))
        (field.last - field.first) s.first s.last ∧
      s.paint = nodePaint (build ms) paint ((build ms).innermost (field.first + s.first)) := by
  obtain ⟨r, hr, rfl⟩ := mem_split.1 hs
  obtain ⟨p, hp, hr⟩ := mem_painted.1 hr
  have hbounds := nodeSegments_bounds hplaced hfield hr
  have hinside : ∀ offset, r.first - field.first ≤ offset → offset ≤ r.last - field.first →
      (build ms).innermost (field.first + offset) = p := by
    intro offset hfirst hlast
    refine innermost_of_nodeSegments hplaced hcross hfield hp hr ?_
    simp only [Segment.Covers]
    omega
  have hfirst := hinside (r.first - field.first) (Nat.le_refl _) (by omega)
  have hlast := hinside (r.last - field.first) (by omega) (Nat.le_refl _)
  simp only [shift]
  refine ⟨⟨by omega, by omega, ?_, ?_, ?_⟩, ?_⟩
  · intro offset hge hle
    rw [MatchTree.owner_eq_iff, hinside offset hge hle, hfirst]
  · intro hpos
    rw [Ne, MatchTree.owner_eq_iff, hfirst]
    refine innermost_ne_beside hplaced hfield hr ?_ (Or.inl (by omega))
    simp only [Span.Covers]
    omega
  · intro hlt
    rw [Ne, MatchTree.owner_eq_iff, hlast]
    refine innermost_ne_beside hplaced hfield hr ?_ (Or.inr (by omega))
    simp only [Span.Covers]
    omega
  · rw [hfirst]
    exact paint_nodeSegments hr

/-- The segments are exactly the maximal runs of offsets with one owner. -/
theorem mem_split_iff_isMaximalRun (hplaced : Match.WellPlaced ms)
    (hcross : Match.NonCrossing ms) (hfield : field.first ≤ field.last) :
    s ∈ split (build ms) field paint ↔
      IsMaximalRun (fun offset => Match.owner ms (field.first + offset))
          (field.last - field.first) s.first s.last ∧
        s.paint = nodePaint (build ms) paint ((build ms).innermost (field.first + s.first)) := by
  constructor
  · exact isMaximalRun_of_mem_split hplaced hcross hfield
  · rintro ⟨hrun, hpaint⟩
    obtain ⟨r, hr, hro⟩ := (covers_split_iff paint hplaced hfield s.first).2
      (Nat.le_trans hrun.nonempty hrun.inside)
    obtain ⟨hrun', hpaint'⟩ := isMaximalRun_of_mem_split hplaced hcross hfield hr
    obtain ⟨hfirst, hlast⟩ := hrun.unique hrun' (Nat.le_refl _) hrun.nonempty hro.1 hro.2
    have heq : s = r := by
      cases s
      cases r
      simp only at hfirst hlast hpaint hpaint'
      subst hfirst hlast
      rw [hpaint, hpaint']
    rw [heq]
    exact hr

/-- The paint of the innermost node is the one that the owner gives. -/
theorem nodePaint_innermost (ms : List Match) (declared : Nat → Option Color)
    (palette : Palette) (offset : Nat) :
    nodePaint (build ms) (ColorScheme.paint ⟨declared, palette, ColorIndex.build ms palette.size⟩)
        ((build ms).innermost offset) =
      ownerPaint ms declared palette (Match.owner ms offset) := by
  rw [MatchTree.owner_eq_item?, nodePaint]
  cases (build ms).item? ((build ms).innermost offset) with
  | none => rfl
  | some m => rfl

end Coverage

/-! ## The highlighting of a record -/

section Record

variable {ms : List Match} {fields : List Span} {declared : Nat → Option Color}
  {palette : Palette}

theorem mem_highlightRecord {h : FieldHighlight} :
    h ∈ highlightRecord ms fields declared palette ↔
      ∃ field, fields[h.field]? = some field ∧
        (ms.any fun m => m.span.meets field) = true ∧
        h.segments = Coverage.split (MatchTree.build ms) field
          (ColorScheme.paint ⟨declared, palette, ColorIndex.build ms palette.size⟩) := by
  simp only [highlightRecord, highlightFields, List.mem_filterMap, List.mem_zipIdx_iff_getElem?,
    Prod.exists]
  constructor
  · rintro ⟨field, index, hfield, hif⟩
    obtain ⟨htouched, ⟨⟩⟩ := Option.ite_none_right_eq_some.1 hif
    exact ⟨field, hfield, htouched, rfl⟩
  · rintro ⟨field, hfield, htouched, hsegments⟩
    refine ⟨field, h.field, hfield, ?_⟩
    rw [if_pos htouched, ← hsegments]

/-- The fields are listed in the order of the record. -/
theorem pairwise_highlightRecord (ms : List Match) (fields : List Span)
    (declared : Nat → Option Color) (palette : Palette) :
    (highlightRecord ms fields declared palette).Pairwise fun a b => a.field < b.field := by
  have hindices : fields.zipIdx.Pairwise fun a b => a.2 < b.2 := by
    refine List.pairwise_map.1 ?_
    rw [List.zipIdx_map_snd]
    exact List.pairwise_lt_range'
  refine List.pairwise_filterMap.2 (hindices.imp fun {a b} hab x hx y hy => ?_)
  obtain ⟨-, ⟨⟩⟩ := Option.ite_none_right_eq_some.1 hx
  obtain ⟨-, ⟨⟩⟩ := Option.ite_none_right_eq_some.1 hy
  exact hab

end Record

/-- Without crossing matches, each field that some match meets is highlighted once, in the
order of the fields, and its segments are in order the maximal runs of offsets with the
same owner, in the owner's paint. A group that declares no colour stays unfilled if the
palette is empty or has no index for it. -/
theorem highlightRecord_owner_runs (ms : List Match) (hplaced : Match.WellPlaced ms)
    (hcross : Match.NonCrossing ms) (fields : List Span) (declared : Nat → Option Color)
    (palette : Palette) :
    ((highlightRecord ms fields declared palette).Pairwise fun a b => a.field < b.field) ∧
    (∀ index, (∃ h ∈ highlightRecord ms fields declared palette, h.field = index) ↔
      ∃ field, fields[index]? = some field ∧ ∃ m ∈ ms, m.span.meets field = true) ∧
    (∀ h ∈ highlightRecord ms fields declared palette, ∀ field,
      fields[h.field]? = some field → field.first ≤ field.last →
        (h.segments.Pairwise fun a b => a.last < b.first) ∧
        ∀ s, s ∈ h.segments ↔
          IsMaximalRun (fun offset => Match.owner ms (field.first + offset))
              (field.last - field.first) s.first s.last ∧
            s.paint = ownerPaint ms declared palette
              (Match.owner ms (field.first + s.first))) ∧
    ∀ m, declared m.group = none →
      palette.size = 0 ∨ (ColorIndex.build ms palette.size).get? m.group = none →
        ownerPaint ms declared palette (some m) = .unfilled := by
  refine ⟨pairwise_highlightRecord ms fields declared palette, fun index => ?_, ?_,
    fun m => ownerPaint_eq_unfilled⟩
  · constructor
    · rintro ⟨h, hh, rfl⟩
      obtain ⟨field, hfield, htouched, -⟩ := mem_highlightRecord.1 hh
      exact ⟨field, hfield, List.any_eq_true.1 htouched⟩
    · rintro ⟨field, hfield, htouched⟩
      exact ⟨⟨index, _⟩,
        mem_highlightRecord.2 ⟨field, hfield, List.any_eq_true.2 htouched, rfl⟩, rfl⟩
  · intro h hh field hfield hle
    obtain ⟨field', hfield', -, hsegments⟩ := mem_highlightRecord.1 hh
    rw [hfield, Option.some.injEq] at hfield'
    subst hfield'
    rw [hsegments]
    refine ⟨Coverage.pairwise_split_disjoint _ hplaced hcross hle, fun s => ?_⟩
    rw [Coverage.mem_split_iff_isMaximalRun hplaced hcross hle, Coverage.nodePaint_innermost]

/-- The matches of the nested sample in scan order, in which their groups claim colours too. -/
def orderedSample : List Match :=
  [⟨"abc", ⟨0, 2⟩, 1⟩, ⟨"abc", ⟨0, 2⟩, 2⟩, ⟨"c", ⟨2, 2⟩, 3⟩, ⟨"de", ⟨3, 4⟩, 4⟩]

/-- One run takes its colour from the palette, the next one that which its group declares. -/
theorem highlightRecord_nestedSample :
    Match.WellPlaced MatchTree.nestedSample ∧ Match.NonCrossing MatchTree.nestedSample ∧
      ∃ h ∈ highlightRecord MatchTree.nestedSample [⟨1, 4⟩]
          (fun group => if group = 3 then some ⟨255, 0, 0⟩ else none)
          ⟨[⟨1, 1, 1⟩, ⟨2, 2, 2⟩, ⟨3, 3, 3⟩]⟩,
        ⟨0, 0, ⟨some ⟨2, 2, 2⟩, false⟩⟩ ∈ h.segments ∧
          ⟨1, 1, ⟨some ⟨255, 0, 0⟩, true⟩⟩ ∈ h.segments := by
  have hplaced : Match.WellPlaced MatchTree.nestedSample := by decide
  have hcross : Match.NonCrossing MatchTree.nestedSample := by decide
  have hperm : MatchTree.nestedSample.Perm orderedSample := by decide
  have howner (offset : Nat) : Match.owner MatchTree.nestedSample offset =
      (orderedSample.filter fun m => m.span.Covers offset).getLast? := by
    rw [Match.owner, Match.scanOrder_eq_of_ordered (by decide) hperm (by decide)]
  have hindices : ColorIndex.build MatchTree.nestedSample 3 =
      ⟨[(1, 0), (2, 1), (3, 2), (4, 0)]⟩ := by
    rw [ColorIndex.build_eq_of_perm hperm, ColorIndex.build, ColorIndex.claimants,
      List.mergeSort_of_pairwise (by decide)]
    decide
  obtain ⟨-, htouched, hruns, -⟩ := highlightRecord_owner_runs MatchTree.nestedSample hplaced hcross
    [⟨1, 4⟩] (fun group => if group = 3 then some ⟨255, 0, 0⟩ else none)
    ⟨[⟨1, 1, 1⟩, ⟨2, 2, 2⟩, ⟨3, 3, 3⟩]⟩
  obtain ⟨h, hh, hindex⟩ := (htouched 0).2 ⟨⟨1, 4⟩, rfl, by decide⟩
  have hfield : [(⟨1, 4⟩ : Span)][h.field]? = some ⟨1, 4⟩ := by rw [hindex]; rfl
  have hsegments := (hruns h hh ⟨1, 4⟩ hfield (by decide)).2
  refine ⟨hplaced, hcross, h, hh, (hsegments _).2 ⟨⟨by decide, by decide, ?_, ?_, ?_⟩, ?_⟩,
    (hsegments _).2 ⟨⟨by decide, by decide, ?_, ?_, ?_⟩, ?_⟩⟩
  · intro offset hfirst hlast
    rw [Nat.le_antisymm hlast hfirst]
  · intro hpos
    exact absurd hpos (Nat.lt_irrefl 0)
  · intro _
    rw [howner, howner]
    decide
  · rw [howner]
    change _ = (⟨((ColorIndex.build MatchTree.nestedSample 3).get? 2).bind _, false⟩ : Paint)
    rw [hindices]
    decide
  · intro offset hfirst hlast
    rw [Nat.le_antisymm hlast hfirst]
  · intro _
    rw [howner, howner]
    decide
  · intro _
    rw [howner, howner]
    decide
  · rw [howner]
    decide

end PatternScan
