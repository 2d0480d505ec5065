import PatternScan.Extract.RoleValue
import PatternScan.Proofs.Record.JoinedColumns

/-!
# Values from joined columns

Locating a match cuts it at the ends of the fields, and rendering puts the parts together
again. Where the fields come from joined columns, two neighbouring fields have just the
separator between them, so with that separator the value is the matched text. An empty column
brings a separator without a field, and the match must not run across one.
-/

namespace PatternScan

open Text (slice)

/-! ## Columns that a span touches -/

namespace Column

variable {c : Column} {offset : Nat} {s : Span}

/-- The column at an offset has a field that the span meets. -/
def Touched (s : Span) (p : Nat × Column) : Prop :=
  ∃ field ∈ fieldAt p.1 p.2, s.meets field.span = true

instance (s : Span) (p : Nat × Column) : Decidable (Touched s p) :=
  inferInstanceAs (Decidable (∃ field ∈ fieldAt p.1 p.2, s.meets field.span = true))

/-- No empty column stands between two columns that the span touches. -/
def Unbroken (s : Span) (ps : List (Nat × Column)) : Prop :=
  ∀ p ∈ ps, ∀ e ∈ ps, ∀ q ∈ ps, [p, e, q].Sublist ps → Touched s p → Touched s q →
    e.2.value ≠ ""

instance (s : Span) (ps : List (Nat × Column)) : Decidable (Unbroken s ps) :=
  inferInstanceAs (Decidable (∀ p ∈ ps, ∀ e ∈ ps, ∀ q ∈ ps, [p, e, q].Sublist ps →
    Touched s p → Touched s q → e.2.value ≠ ""))

theorem Touched.first_lt (h : Touched s (offset, c)) :
    s.first < offset + c.value.utf8ByteSize := by
  obtain ⟨field, hfield, hmeets⟩ := h
  exact Nat.lt_of_le_of_lt (Span.meets_iff.1 hmeets).1 (last_lt_of_mem_fieldAt hfield)

theorem Unbroken.tail {p : Nat × Column} {ps : List (Nat × Column)} (h : Unbroken s (p :: ps)) :
    Unbroken s ps := fun a ha e he b hb hsub =>
  h a (List.mem_cons_of_mem p ha) e (List.mem_cons_of_mem p he) b (List.mem_cons_of_mem p hb)
    (hsub.cons p)

end Column

/-! ## Parts of a span -/

namespace Extract

open RoleValue (locate)

variable {text separator part : String} {s : Span} {start next : Nat} {field : Field}
  {fields skipped : List Field} {parts : List String}

/-- The part that the span has in common with a field. -/
def commonPart (s : Span) (field : Field) : Option Span := s.clip field.span

/-- What a field adds to the rendered value of the span. -/
def renderedPart (text : String) (s : Span) (separator : String) (field : Field) :
    Option String :=
  (commonPart s field).map fun u =>
    (slice text u.first u.stop).getD "" ++ if field.span.last < s.last then separator else ""

/-- The slices of the parts that the span has in common with the fields make up the text from
the start to the end of the span, with the separator between them. -/
structure Rejoined (text separator : String) (s : Span) (start : Nat) (fields : List Field)
    (parts : List String) : Prop where
  cut : ((fields.filterMap (commonPart s)).map fun u => slice text u.first u.stop) =
    parts.map some
  ne_nil : parts ≠ []
  joined : slice text start s.stop = some (separator.intercalate parts)
  rendered : ∀ other : String,
    String.join (fields.filterMap (renderedPart text s other)) = other.intercalate parts

theorem commonPart_eq_none (h : s.meets field.span = false) : commonPart s field = none :=
  Span.clip_eq_none_iff.2 h

theorem filterMap_commonPart_of_not_meets (h : ∀ field ∈ skipped, s.meets field.span = false) :
    skipped.filterMap (commonPart s) = [] :=
  List.filterMap_eq_nil_iff.2 fun field hfield => commonPart_eq_none (h field hfield)

theorem filterMap_renderedPart_of_not_meets
    (h : ∀ field ∈ skipped, s.meets field.span = false) (other : String) :
    skipped.filterMap (renderedPart text s other) = [] :=
  List.filterMap_eq_nil_iff.2 fun field hfield => by
    rw [renderedPart, commonPart_eq_none (h field hfield), Option.map_none]

namespace Rejoined

/-- The span ends in the field, and meets none of the fields behind it. -/
theorem last (hs : s.WholeIn text) (hfield : field.span.WholeIn text)
    (hmeets : s.meets field.span = true) (hend : s.last ≤ field.span.last)
    (hskipped : ∀ later ∈ skipped, s.meets later.span = false) :
    ∃ parts, Rejoined text separator s (max s.first field.span.first) (field :: skipped) parts := by
  have hclip : commonPart s field = some ⟨max s.first field.span.first, s.last⟩ :=
    Span.clip_eq_some_iff.2 ⟨hmeets, by rw [Nat.min_eq_left hend]⟩
  obtain ⟨part, hpart⟩ := (hs.clip hfield hclip).exists_slice
  refine ⟨[part], ?_, List.cons_ne_nil part [], ?_, fun other => ?_⟩
  · rw [List.filterMap_cons_some hclip, filterMap_commonPart_of_not_meets hskipped,
      List.map_singleton, hpart, List.map_singleton]
  · rw [String.intercalate_singleton]
    exact hpart
  · have hrendered : renderedPart text s other field = some part := by
      rw [renderedPart, hclip, Option.map_some, hpart, Option.getD_some,
        if_neg (Nat.not_lt.2 hend), String.append_empty]
    rw [List.filterMap_cons_some hrendered, filterMap_renderedPart_of_not_meets hskipped,
      String.intercalate_singleton, String.join_cons, String.join_nil, String.append_empty]

/-- The span runs on past the field, and behind the separator the rest is joined again. -/
theorem cons (hs : s.WholeIn text) (hfield : field.span.WholeIn text)
    (hmeets : s.meets field.span = true) (hend : field.span.last < s.last)
    (hseparator : slice text field.span.stop next = some separator)
    (h : Rejoined text separator s next fields parts) :
    ∃ parts, Rejoined text separator s (max s.first field.span.first) (field :: fields) parts := by
  have hclip : commonPart s field = some ⟨max s.first field.span.first, field.span.last⟩ :=
    Span.clip_eq_some_iff.2 ⟨hmeets, by rw [Nat.min_eq_right (Nat.le_of_lt hend)]⟩
  obtain ⟨part, hpart⟩ := (hs.clip hfield hclip).exists_slice
  refine ⟨part :: parts, ?_, List.cons_ne_nil part parts, ?_, fun other => ?_⟩
  · rw [List.filterMap_cons_some hclip, List.map_cons, hpart, h.cut, List.map_cons]
  · rw [String.intercalate_cons_of_ne_nil h.ne_nil]
    exact Text.slice_append (Text.slice_append hpart hseparator) h.joined
  · have hrendered : renderedPart text s other field = some (part ++ other) := by
      rw [renderedPart, hclip, Option.map_some, hpart, Option.getD_some, if_pos hend]
    rw [List.filterMap_cons_some hrendered, String.join_cons, h.rendered,
      String.intercalate_cons_of_ne_nil h.ne_nil]

theorem skip (h : Rejoined text separator s start fields parts)
    (hskipped : ∀ field ∈ skipped, s.meets field.span = false) :
    Rejoined text separator s start (skipped ++ fields) parts := by
  refine ⟨?_, h.ne_nil, h.joined, fun other => ?_⟩
  · rw [List.filterMap_append, filterMap_commonPart_of_not_meets hskipped, List.nil_append]
    exact h.cut
  · rw [List.filterMap_append, filterMap_renderedPart_of_not_meets hskipped, List.nil_append]
    exact h.rendered other

end Rejoined

/-! ## Fields of joined columns -/

section Columns

open Column

variable {c d : Column} {rest columns : List Column} {offset : Nat}

theorem not_meets_of_mem_joinFields (h : s.last < offset) :
    ∀ field ∈ joinFields separator offset columns, s.meets field.span = false := by
  intro field hfield
  have hle := le_first_of_mem_joinFields hfield
  refine Bool.eq_false_iff.2 fun hmeets => ?_
  have := (Span.meets_iff.1 hmeets).2
  omega

theorem exists_rejoined_of_ends (hs : s.WholeIn text)
    (hlaid : Laid text separator offset (c :: rest)) (htouched : Touched s (offset, c))
    (hend : s.last < offset + c.value.utf8ByteSize) :
    ∃ parts, Rejoined text separator s (max s.first offset)
      (joinFields separator offset (c :: rest)) parts := by
  obtain ⟨field, hfield, hmeets⟩ := htouched
  obtain ⟨hne, rfl⟩ := mem_fieldAt.1 hfield
  rw [joinFields, fieldAt_of_ne hne, List.singleton_append]
  exact Rejoined.last hs (hlaid.wholeIn hne) hmeets (Nat.le_sub_one_of_lt hend)
    (not_meets_of_mem_joinFields (by omega))

/-- The field where the span ends is that of the first column, or one behind it. -/
theorem ends_or_later
    (hend : ∃ field ∈ joinFields separator offset (c :: rest), field.span.Covers s.last) :
    s.last < offset + c.value.utf8ByteSize ∨
      ∃ field ∈ joinFields separator (offset + c.value.utf8ByteSize + separator.utf8ByteSize) rest,
        field.span.Covers s.last := by
  obtain ⟨field, hfield, hcovers⟩ := hend
  rcases List.mem_append.1 hfield with hfirst | hlater
  · exact .inl (Nat.lt_of_le_of_lt hcovers.2 (last_lt_of_mem_fieldAt hfirst))
  · exact .inr ⟨field, hlater, hcovers⟩

/-- If the span ends behind the column that comes next, that one is not empty and the span
touches it. -/
theorem touched_next (hs : s.first ≤ s.last) (htouched : Touched s (offset, c))
    (hend : ∃ field ∈ joinFields separator
      (offset + c.value.utf8ByteSize + separator.utf8ByteSize) (d :: rest),
      field.span.Covers s.last)
    (hunbroken : Unbroken s (placed separator offset (c :: d :: rest))) :
    Touched s (offset + c.value.utf8ByteSize + separator.utf8ByteSize, d) := by
  obtain ⟨field, hfield, hcovers⟩ := hend
  have hmeets : s.meets field.span = true :=
    Span.meets_iff.2 ⟨Nat.le_trans hs hcovers.2, hcovers.1⟩
  obtain ⟨q, hq, hfieldAt⟩ := mem_joinFields.1 hfield
  rcases List.mem_cons.1 hq with rfl | hlater
  · exact ⟨field, hfieldAt, hmeets⟩
  · have hne : d.value ≠ "" := hunbroken (offset, c) List.mem_cons_self _
      (List.mem_cons_of_mem _ List.mem_cons_self) q
      (List.mem_cons_of_mem _ (List.mem_cons_of_mem _ hlater))
      (((List.singleton_sublist.2 hlater).cons_cons _).cons_cons _) htouched
      ⟨field, hfieldAt, hmeets⟩
    refine ⟨_, mem_fieldAt.2 ⟨hne, rfl⟩, Span.meets_iff.2 ⟨?_, ?_⟩⟩
    · have hstart := htouched.first_lt
      have hpos := utf8ByteSize_pos hne
      simp only
      omega
    · exact Nat.le_trans (le_first_of_mem_joinFields hfield) hcovers.1

/-- From a column that the span touches to the one where it ends, the parts follow each other
with just a separator between them. -/
theorem exists_rejoined_of_touched (hs : s.WholeIn text)
    (hlaid : Laid text separator offset (c :: rest)) (htouched : Touched s (offset, c))
    (hend : ∃ field ∈ joinFields separator offset (c :: rest), field.span.Covers s.last)
    (hunbroken : Unbroken s (placed separator offset (c :: rest))) :
    ∃ parts, Rejoined text separator s (max s.first offset)
      (joinFields separator offset (c :: rest)) parts := by
  induction rest generalizing c offset with
  | nil =>
      rcases ends_or_later hend with hhere | ⟨field, hfield, -⟩
      · exact exists_rejoined_of_ends hs hlaid htouched hhere
      · cases hfield
  | cons d rest ih =>
      rcases Nat.lt_or_ge s.last (offset + c.value.utf8ByteSize) with hhere | hpast
      · exact exists_rejoined_of_ends hs hlaid htouched hhere
      · have hlater := (ends_or_later hend).resolve_left (Nat.not_lt.2 hpast)
        have hnext := touched_next hs.first_le_last htouched hlater hunbroken
        obtain ⟨parts, hparts⟩ := ih hlaid.2.2 hnext hlater hunbroken.tail
        have hstart := htouched.first_lt
        obtain ⟨field, hfield, hmeets⟩ := htouched
        have hlast := last_lt_of_mem_fieldAt hfield
        obtain ⟨hne, rfl⟩ := mem_fieldAt.1 hfield
        have hpos := utf8ByteSize_pos hne
        have hstop : offset + c.value.utf8ByteSize - 1 + 1 = offset + c.value.utf8ByteSize := by
          omega
        have hseparator := hlaid.2.1 (List.cons_ne_nil d rest)
        rw [Nat.max_eq_right (Nat.le_trans (Nat.le_of_lt hstart) (Nat.le_add_right _ _))] at hparts
        rw [joinFields, fieldAt_of_ne hne, List.singleton_append]
        exact Rejoined.cons hs (hlaid.wholeIn hne) hmeets (Nat.lt_of_lt_of_le hlast hpast)
          (by rwa [Span.stop, hstop]) hparts

/-- Columns that end before the span starts add nothing. -/
theorem exists_rejoined (hs : s.WholeIn text) (hlaid : Laid text separator offset columns)
    (hbegin : ∃ field ∈ joinFields separator offset columns, field.span.Covers s.first)
    (hend : ∃ field ∈ joinFields separator offset columns, field.span.Covers s.last)
    (hunbroken : Unbroken s (placed separator offset columns)) :
    ∃ parts, Rejoined text separator s s.first (joinFields separator offset columns) parts := by
  induction columns generalizing offset with
  | nil =>
      obtain ⟨field, hfield, -⟩ := hbegin
      cases hfield
  | cons c rest ih =>
      obtain ⟨field, hfield, hcovers⟩ := hbegin
      have hle := hs.first_le_last
      rcases List.mem_append.1 hfield with hhere | hlater
      · have htouched : Touched s (offset, c) :=
          ⟨field, hhere, Span.meets_iff.2 ⟨hcovers.2, Nat.le_trans hcovers.1 hle⟩⟩
        have hparts := exists_rejoined_of_touched hs hlaid htouched hend hunbroken
        rwa [Nat.max_eq_left] at hparts
        exact Nat.le_trans (le_first_of_mem_joinFields hfield) hcovers.1
      · have hstart := Nat.le_trans (le_first_of_mem_joinFields hlater) hcovers.1
        have hbefore : ∀ skipped ∈ fieldAt offset c, s.meets skipped.span = false := by
          intro skipped hskipped
          have hlast := last_lt_of_mem_fieldAt hskipped
          refine Bool.eq_false_iff.2 fun hmeets => ?_
          have := (Span.meets_iff.1 hmeets).1
          omega
        obtain ⟨parts, hparts⟩ := ih hlaid.2.2 ⟨field, hlater, hcovers⟩
          ((ends_or_later hend).resolve_left (by omega)) hunbroken.tail
        exact ⟨parts, hparts.skip hbefore⟩

end Columns

/-! ## Locating and rendering -/

/-- A located part is rendered from where it was cut. -/
theorem renderSlice_located (m : Match) {index : Nat} {u : Span}
    (hindex : fields[index]? = some field) (hfield : field.span.first ≤ field.span.last)
    (hcommon : commonPart m.span field = some u) :
    RoleValue.renderSlice text fields separator
        ⟨index, u.first - field.span.first, u.last - field.span.first,
          field.span.last < m.span.last⟩ =
      (slice text u.first u.stop).getD "" ++
        if field.span.last < m.span.last then separator else "" := by
  obtain ⟨hmeets, rfl⟩ := Span.clip_eq_some_iff.1 hcommon
  have hle := Span.meets_iff.1 hmeets
  have hfirst : field.span.first + (max m.span.first field.span.first - field.span.first) =
      max m.span.first field.span.first := by omega
  have hlast : field.span.first + (min m.span.last field.span.last - field.span.first) =
      min m.span.last field.span.last := by omega
  simp only [RoleValue.renderSlice, hindex, hfirst, hlast, decide_eq_true_eq, Span.stop]

/-- Rendering puts together what each field adds. -/
theorem render_locate (m : Match)
    (hfields : ∀ field ∈ fields, field.span.first ≤ field.span.last) :
    (locate m fields).render text fields separator =
      String.join (fields.filterMap (renderedPart text m.span separator)) := by
  have hunzip : fields.filterMap (renderedPart text m.span separator) =
      fields.zipIdx.filterMap (renderedPart text m.span separator ∘ Prod.fst) := by
    rw [← List.filterMap_map, List.zipIdx_map_fst]
  rw [locate, RoleValue.render, List.map_filterMap, hunzip]
  refine congrArg String.join (List.filterMap_congr fun (field, index) hentry => ?_)
  have hindex := List.mem_zipIdx_iff_getElem?.1 hentry
  rw [Function.comp_apply, renderedPart, Option.map_map]
  refine Option.map_congr fun u hu => ?_
  exact renderSlice_located m hindex (hfields field (List.mem_of_getElem? hindex)) hu

/-- A match in joined columns that starts and ends in fields and runs across no empty column is
located and rendered to just the matched text. With another separator, that one stands between
the same parts of the text. -/
theorem rendered_location_is_matched_text (m : Match) (columns : List Column)
    (separator : String) (hm : m.span.WholeIn (Column.joinText separator columns))
    (hfirst : ∃ field ∈ Column.joinFields separator 0 columns, field.span.Covers m.span.first)
    (hlast : ∃ field ∈ Column.joinFields separator 0 columns, field.span.Covers m.span.last)
    (hunbroken : Column.Unbroken m.span (Column.placed separator 0 columns)) :
    let text := Column.joinText separator columns
    let fields := Column.joinFields separator 0 columns
    let value := locate m fields
    slice text m.span.first m.span.stop = some (value.render text fields separator) ∧
      ∃ parts,
        ((fields.filterMap fun field => m.span.clip field.span).map fun u =>
          slice text u.first u.stop) = parts.map some ∧
        ∀ other, value.render text fields other = other.intercalate parts := by
  intro text fields value
  have hrender : ∀ other, value.render text fields other =
      String.join (fields.filterMap (renderedPart text m.span other)) := by
    intro other
    exact render_locate m fun _ hfield => Column.first_le_last_of_mem_joinFields hfield
  obtain ⟨parts, hcut, -, hjoined, hrendered⟩ :=
    exists_rejoined hm (Column.laid_joinText separator columns) hfirst hlast hunbroken
  have hvalue : ∀ other, value.render text fields other = other.intercalate parts := by
    intro other
    rw [hrender, hrendered]
  refine ⟨?_, parts, hcut, hvalue⟩
  calc slice text m.span.first m.span.stop
      = some (separator.intercalate parts) := hjoined
    _ = some (value.render text fields separator) := by rw [hvalue]

/-- Columns of letters of one and two bytes, with an empty column at either end. -/
def borderedColumns : List Column := [⟨"a", ""⟩, ⟨"b", "aé"⟩, ⟨"c", "b"⟩, ⟨"d", "ßc"⟩, ⟨"e", ""⟩]

theorem rendered_location_borderedColumns :
    let m : Match := ⟨"é→b→ß", ⟨4, 14⟩, 1⟩
    let text := Column.joinText "→" borderedColumns
    let fields := Column.joinFields "→" 0 borderedColumns
    (m.span.WholeIn text ∧ (∃ field ∈ fields, field.span.Covers 4) ∧
        (∃ field ∈ fields, field.span.Covers 14) ∧
        Column.Unbroken m.span (Column.placed "→" 0 borderedColumns)) ∧
      (locate m fields).render text fields "→" = "é→b→ß" ∧
      (locate m fields).render text fields ", " = "é, b, ß" := by
  intro m text fields
  have hm : m.span.WholeIn text := by decide +kernel
  have hfirst : ∃ field ∈ fields, field.span.Covers m.span.first := by decide +kernel
  have hlast : ∃ field ∈ fields, field.span.Covers m.span.last := by decide +kernel
  have hunbroken : Column.Unbroken m.span (Column.placed "→" 0 borderedColumns) := by
    decide +kernel
  obtain ⟨hslice, parts, hcut, hrender⟩ :=
    rendered_location_is_matched_text m borderedColumns "→" hm hfirst hlast hunbroken
  refine ⟨⟨hm, hfirst, hlast, hunbroken⟩, ?_, ?_⟩
  · have htext : slice text m.span.first m.span.stop = some "é→b→ß" := by decide +kernel
    exact (Option.some.inj (htext.symm.trans hslice)).symm
  · have hparts : ["é", "b", "ß"].map some = parts.map some := by
      rw [← hcut]
      decide +kernel
    have hparts := List.map_injective_iff.2 (fun _ _ => Option.some.inj) hparts
    rw [hrender ", ", ← hparts]
    decide +kernel

end Extract

end PatternScan
