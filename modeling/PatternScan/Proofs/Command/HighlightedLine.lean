import PatternScan.Command.Paint
import PatternScan.Proofs.Highlight.Ownership
import PatternScan.Proofs.Text.Boundary

/-!
# The text of a highlighted line

The segments of a field start and stop where a match or the field does, so they never cut a
character that these leave whole. Where no two matches cross, they follow one another through
the field. A line goes from field to field, passes over those that start inside what is
already written, and writes the text between them, so it shows every byte of the text once.
-/

namespace PatternScan

open Text (IsBoundary Slices)
open MatchTree (build)

/-! ## Segments of whole characters -/

namespace Coverage

variable {ms : List Match} {field range : Span} {children : List Span} {paint : Nat → Paint}
  {text : String} {start stop : Nat}

/-- The parts that are left start and stop where the children or the whole do. -/
theorem ends_of_mem_gapsFrom {P : Nat → Prop} (hstart : P start) (hstop : P (stop + 1))
    (hchildren : ∀ c ∈ children, P c.first ∧ P c.stop) {g : Span}
    (hg : g ∈ gapsFrom start children stop) : P g.first ∧ P g.stop := by
  induction children generalizing start with
  | nil =>
      obtain ⟨-, hg⟩ := List.mem_ite_nil_right.1 hg
      obtain rfl := List.mem_singleton.1 hg
      exact ⟨hstart, hstop⟩
  | cons c rest ih =>
      obtain ⟨hfirst, hlast⟩ := hchildren c List.mem_cons_self
      rcases List.mem_append.1 hg with hbefore | hafter
      · obtain ⟨hroom, hg⟩ := List.mem_ite_nil_right.1 hbefore
        obtain rfl := List.mem_singleton.1 hg
        refine ⟨hstart, ?_⟩
        rwa [Span.stop, Nat.sub_add_cancel (Nat.one_le_of_lt hroom)]
      · exact ih hlast (fun d hd => hchildren d (List.mem_cons_of_mem c hd)) hafter

theorem wholeIn_of_nodeRange {p : Nat} {fill : Paint} (hms : ∀ m ∈ ms, m.span.WholeIn text)
    (hfield : field.WholeIn text) (h : nodeRange (build ms) field paint p = some (range, fill)) :
    range.WholeIn text := by
  rw [nodeRange] at h
  split at h
  · obtain ⟨rfl, -⟩ := Prod.mk.inj (Option.some.inj h)
    exact hfield
  · obtain ⟨m, hm, hrange⟩ := Option.bind_eq_some_iff.1 h
    obtain ⟨u, hclip, heq⟩ := Option.map_eq_some_iff.1 hrange
    obtain ⟨rfl, -⟩ := Prod.mk.inj heq
    exact (hms m (MatchTree.mem_of_item? hm)).clip hfield hclip

/-- Matches and a field of whole characters have segments of whole characters. -/
theorem wholeIn_of_mem_painted (hms : ∀ m ∈ ms, m.span.WholeIn text) (hfield : field.WholeIn text)
    {s : Segment} (hs : s ∈ painted (build ms) field paint) :
    (⟨s.first, s.last⟩ : Span).WholeIn text := by
  have hplaced : Match.WellPlaced ms := fun m hm => (hms m hm).first_le_last
  obtain ⟨p, -, hs⟩ := mem_painted.1 hs
  have hbounds := nodeSegments_bounds hplaced hfield.first_le_last hs
  obtain ⟨range, hrange, hgap⟩ := mem_nodeSegments.1 hs
  have hfits := (fitsInto_nodeRange hplaced hfield.first_le_last hrange).2
  rw [gaps_eq_gapsFrom hfits.nonempty] at hgap
  have hwhole := wholeIn_of_nodeRange hms hfield hrange
  have hchildren : ∀ c ∈ childRanges (build ms) field p,
      IsBoundary text c.first ∧ IsBoundary text c.stop := by
    intro c hc
    obtain ⟨_, -, m, hm, hclip⟩ := mem_childRanges.1 hc
    have hchild := (hms m (MatchTree.mem_of_item? hm)).clip hfield hclip
    exact ⟨hchild.first, hchild.stop⟩
  obtain ⟨hfirst, hstop⟩ := ends_of_mem_gapsFrom hwhole.first hwhole.stop hchildren hgap
  exact ⟨hbounds.2.1, hfirst, hstop⟩

/-- Without crossing matches the segments follow one another from end to end of the field. -/
theorem contiguous_split (hplaced : Match.WellPlaced ms) (hcross : Match.NonCrossing ms)
    (hfield : field.first ≤ field.last) :
    Contiguous 0 (split (build ms) field paint) (field.last - field.first + 1) := by
  refine contiguous_of_covers (Nat.zero_le _) ?_
    (pairwise_split_disjoint paint hplaced hcross hfield) ?_
  · intro s hs
    have hbounds := split_bounds hplaced hfield hs
    exact ⟨Nat.zero_le _, hbounds.1, Nat.lt_succ_of_le hbounds.2⟩
  · intro offset _ hoffset
    exact (covers_split_iff paint hplaced hfield offset).2 (Nat.le_of_lt_succ hoffset)

end Coverage

/-! ## Pieces that follow one another -/

namespace Command

open Coverage (Contiguous)

variable {text : String} {record : Record} {ms : List Match}

/-- Between boundaries, nothing is lost to a slice that fails. -/
theorem slice_eq_sliceOrEmpty {start stop : Nat} (hle : start ≤ stop)
    (hstart : IsBoundary text start) (hstop : IsBoundary text stop) :
    Text.slice text start stop = some (sliceOrEmpty text start stop) := by
  obtain ⟨part, hpart⟩ :=
    Option.isSome_iff_exists.1 (Text.isSome_slice_iff.2 ⟨hle, hstart, hstop⟩)
  rw [sliceOrEmpty, hpart, Option.getD_some]

theorem slices_fieldPieces {segments : List Segment} {origin start stop : Nat}
    (h : Contiguous start segments stop) (hstart : IsBoundary text (origin + start))
    (hwhole : ∀ s ∈ segments, (⟨origin + s.first, origin + s.last⟩ : Span).WholeIn text) :
    Slices text (origin + start) ((fieldPieces text origin segments).map Piece.text)
      (origin + stop) := by
  induction segments generalizing start with
  | nil =>
      obtain rfl : start = stop := h
      exact ⟨rfl, hstart⟩
  | cons s rest ih =>
      obtain ⟨rfl, -, hrest⟩ := h
      have hs := hwhole s List.mem_cons_self
      have hle : origin + s.first ≤ origin + s.last := hs.first_le_last
      exact ⟨origin + (s.last + 1),
        slice_eq_sliceOrEmpty (Nat.le_succ_of_le hle) hs.first hs.stop,
        ih hrest hs.stop fun s' hs' => hwhole s' (List.mem_cons_of_mem s hs')⟩

/-- The pieces of a highlighted field are the slices of the field. -/
theorem slices_highlighted_field {field : Span} {paint : Nat → Paint}
    (hms : ∀ m ∈ ms, m.span.WholeIn text) (hcross : Match.NonCrossing ms)
    (hfield : field.WholeIn text) :
    Slices text field.first
      ((fieldPieces text field.first (Coverage.split (build ms) field paint)).map Piece.text)
      field.stop := by
  have hplaced : Match.WellPlaced ms := fun m hm => (hms m hm).first_le_last
  have hle := hfield.first_le_last
  have hwhole : ∀ s ∈ Coverage.split (build ms) field paint,
      (⟨field.first + s.first, field.first + s.last⟩ : Span).WholeIn text := by
    intro s hs
    obtain ⟨r, hr, rfl⟩ := Coverage.mem_split.1 hs
    have hbounds := Coverage.painted_bounds hplaced hle hr
    have hfirst : field.first + (r.first - field.first) = r.first := by omega
    have hlast : field.first + (r.last - field.first) = r.last := by omega
    rw [Coverage.shift, hfirst, hlast]
    exact Coverage.wholeIn_of_mem_painted hms hfield hr
  have hstop : field.first + (field.last - field.first + 1) = field.stop := by
    rw [Span.stop]
    omega
  have h := slices_fieldPieces (Coverage.contiguous_split hplaced hcross hle) hfield.first hwhole
  rwa [hstop] at h

/-- From a boundary on, the pieces of a line follow one another to the end of the text. -/
theorem slices_piecesFrom {hs : List FieldHighlight} {cursor : Nat}
    (hfields : ∀ field ∈ record.fields, field.span.WholeIn record.text)
    (hsegments : ∀ h ∈ hs, ∀ field, record.fields[h.field]? = some field →
      Slices record.text field.span.first
        ((fieldPieces record.text field.span.first h.segments).map Piece.text) field.span.stop)
    (hcursor : IsBoundary record.text cursor) :
    Slices record.text cursor ((piecesFrom record cursor hs).map Piece.text)
      record.text.utf8ByteSize := by
  induction hs generalizing cursor with
  | nil =>
      have hend := Text.isBoundary_size record.text
      exact ⟨record.text.utf8ByteSize, slice_eq_sliceOrEmpty hcursor.le_size hcursor hend,
        rfl, hend⟩
  | cons h rest ih =>
      have hrest := fun h' hh' => hsegments h' (List.mem_cons_of_mem h hh')
      cases hfield : record.fields[h.field]? with
      | none =>
          simp only [piecesFrom, hfield]
          exact ih hrest hcursor
      | some field =>
          simp only [piecesFrom, hfield]
          split
          · exact ih hrest hcursor
          · next hahead =>
              have hwhole := hfields field (List.mem_of_getElem? hfield)
              rw [List.cons_append, List.map_cons, List.map_append]
              exact ⟨field.span.first,
                slice_eq_sliceOrEmpty (Nat.not_lt.1 hahead) hcursor hwhole.first,
                (hsegments h List.mem_cons_self field hfield).append (ih hrest hwhole.stop)⟩

/-- The pieces of a highlighted record are the slices of its text. -/
theorem slices_pieces {declared : Nat → Option Color} {palette : Palette}
    (hfields : ∀ field ∈ record.fields, field.span.WholeIn record.text)
    (hms : ∀ m ∈ ms, m.span.WholeIn record.text) (hcross : Match.NonCrossing ms) :
    Slices record.text 0 ((pieces record
      (highlightRecord ms (record.fields.map Field.span) declared palette)).map Piece.text)
      record.text.utf8ByteSize := by
  apply slices_piecesFrom hfields _ (Text.isBoundary_zero _)
  intro h hh field hfield
  obtain ⟨span, hspan, -, hsegments⟩ := mem_highlightRecord.1 hh
  rw [List.getElem?_map, hfield] at hspan
  obtain rfl := Option.some.inj hspan
  rw [hsegments]
  exact slices_highlighted_field hms hcross (hfields field (List.mem_of_getElem? hfield))

/-! ## The line -/

/-- What is written before the text of a piece: nothing, or control sequences only. -/
def Piece.opening (terminal : Terminal) (p : Piece) : String :=
  match p.color with
  | some c =>
      terminal.sequence (Terminal.backgroundCode c) ++ terminal.sequence Terminal.blackLetters
  | none => ""

/-- What is written behind the text of a piece: nothing, or control sequences only. -/
def Piece.closing (terminal : Terminal) (p : Piece) : String :=
  match p.color with
  | some _ =>
      terminal.sequence Terminal.usualBackground ++ terminal.sequence Terminal.usualLetters
  | none => ""

theorem Piece.render_eq (terminal : Terminal) (p : Piece) :
    p.render terminal = p.opening terminal ++ p.text ++ p.closing terminal := by
  rw [render, opening, closing]
  cases p.color with
  | none => simp
  | some c => simp only [Terminal.paint, String.append_assoc]

/-- A line is written piece by piece, each with its control sequences around it, and the pieces
are the slices of the record's text from its first byte to its last. None of them is cut inside
a character, so together they are the text. -/
theorem highlighted_line_shows_text (terminal : Terminal) (record : Record) (ms : List Match)
    (declared : Nat → Option Color) (palette : Palette)
    (hfields : ∀ field ∈ record.fields, field.span.WholeIn record.text)
    (hms : ∀ m ∈ ms, m.span.WholeIn record.text) (hcross : Match.NonCrossing ms) :
    let highlighting := highlightRecord ms (record.fields.map Field.span) declared palette
    let written := pieces record highlighting
    highlighted terminal record highlighting =
        String.join (written.map fun p => p.opening terminal ++ p.text ++ p.closing terminal) ∧
      Slices record.text 0 (written.map Piece.text) record.text.utf8ByteSize ∧
      String.join (written.map Piece.text) = record.text := by
  intro highlighting written
  have hslices : Slices record.text 0 (written.map Piece.text) record.text.utf8ByteSize :=
    slices_pieces hfields hms hcross
  refine ⟨?_, hslices, hslices.join_eq⟩
  rw [highlighted]
  exact congrArg String.join (List.map_congr_left fun p _ => p.render_eq terminal)

/-- A line whose second field reaches back into the first, with letters of two bytes. -/
def overlappingSample : Record :=
  ⟨0, "aé bß", 7, none, [⟨"x", ⟨0, 2⟩⟩, ⟨"y", ⟨1, 3⟩⟩, ⟨"z", ⟨4, 6⟩⟩]⟩

theorem highlighted_overlappingSample :
    let ms : List Match := [⟨"aé b", ⟨0, 4⟩, 1⟩, ⟨"é", ⟨1, 2⟩, 2⟩, ⟨"ß", ⟨5, 6⟩, 2⟩]
    let fields := overlappingSample.fields.map Field.span
    (∀ field ∈ overlappingSample.fields, field.span.WholeIn overlappingSample.text) ∧
      (∀ m ∈ ms, m.span.WholeIn overlappingSample.text) ∧ Match.NonCrossing ms ∧
      (pieces overlappingSample (highlightRecord ms fields (fun _ => none) .standard)).map
          Piece.text = ["", "a", "é", " ", "b", "ß", ""] ∧
      String.join ((pieces overlappingSample
        (highlightRecord ms fields (fun _ => none) .standard)).map Piece.text) = "aé bß" := by
  intro ms fields
  have hfields : ∀ field ∈ overlappingSample.fields,
      field.span.WholeIn overlappingSample.text := by decide +kernel
  have hms : ∀ m ∈ ms, m.span.WholeIn overlappingSample.text := by decide +kernel
  have hcross : Match.NonCrossing ms := by decide
  have hbuild : MatchTree.build ms = ⟨ms, [0, 1, 0]⟩ := by
    rw [MatchTree.build, Match.scanOrder, List.mergeSort_of_pairwise (by decide)]
    decide
  -- The second field starts before the first one ends and is passed over.
  have hfirst (paint : Nat → Paint) : Coverage.split (MatchTree.build ms) ⟨0, 2⟩ paint =
      [⟨0, 0, paint 1⟩, ⟨1, 2, paint 2⟩] := by
    rw [hbuild]
    cbv
  have hlast (paint : Nat → Paint) : Coverage.split (MatchTree.build ms) ⟨4, 6⟩ paint =
      [⟨0, 0, paint 1⟩, ⟨1, 2, paint 2⟩] := by
    rw [hbuild]
    cbv
  have hpieces : (pieces overlappingSample
      (highlightRecord ms fields (fun _ => none) .standard)).map Piece.text =
        ["", "a", "é", " ", "b", "ß", ""] := by
    change (pieces overlappingSample [⟨0, Coverage.split _ ⟨0, 2⟩ _⟩, ⟨1, _⟩,
      ⟨2, Coverage.split _ ⟨4, 6⟩ _⟩]).map Piece.text = _
    rw [hfirst, hlast]
    decide +kernel
  exact ⟨hfields, hms, hcross, hpieces,
    (highlighted_line_shows_text .plain overlappingSample ms (fun _ => none) .standard hfields hms
      hcross).2.2⟩

end Command

end PatternScan
