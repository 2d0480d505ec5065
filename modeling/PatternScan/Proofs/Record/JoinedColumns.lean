import Mathlib.Data.List.Basic
import PatternScan.Record.Columns
import PatternScan.Proofs.Text.Boundary

/-!
# Records of joined columns

The values of joined columns stand in the text one after the other, with a separator between
neighbours. A column with a value has a field, and that is the slice where its value stands; an
empty one leaves a separator only. So between a field and the next there are as many separators as
there are steps from the one column to the other.
-/

namespace PatternScan

open Text (slice)

namespace Column

variable {separator text : String} {columns rest : List Column} {c d : Column}
  {offset i j n k : Nat} {field f g : Field}

/-! ## Where columns stand in their text -/

/-- The columns from an offset on, each with the offset where its value starts. -/
def placed (separator : String) (offset : Nat) : List Column → List (Nat × Column)
  | [] => []
  | c :: rest =>
      (offset, c) ::
        placed separator (offset + c.value.utf8ByteSize + separator.utf8ByteSize) rest

/-- From the offset on, the text holds the values with the separator between them. -/
def Laid (text separator : String) (offset : Nat) : List Column → Prop
  | [] => True
  | c :: rest =>
      slice text offset (offset + c.value.utf8ByteSize) = some c.value ∧
        (rest ≠ [] → slice text (offset + c.value.utf8ByteSize)
          (offset + c.value.utf8ByteSize + separator.utf8ByteSize) = some separator) ∧
        Laid text separator (offset + c.value.utf8ByteSize + separator.utf8ByteSize) rest

theorem mem_fieldAt : field ∈ fieldAt offset c ↔
    c.value ≠ "" ∧ field = ⟨c.name, ⟨offset, offset + c.value.utf8ByteSize - 1⟩⟩ := by
  rw [fieldAt]
  split
  · next h => simp [String.isEmpty_iff.1 h]
  · next h =>
      have hne : c.value ≠ "" := fun heq => h (String.isEmpty_iff.2 heq)
      simp [hne]

theorem utf8ByteSize_pos (h : c.value ≠ "") : 0 < c.value.utf8ByteSize :=
  Nat.pos_of_ne_zero fun hzero => h (String.utf8ByteSize_eq_zero_iff.1 hzero)

theorem stop_of_ne (h : c.value ≠ "") (offset : Nat) :
    (⟨offset, offset + c.value.utf8ByteSize - 1⟩ : Span).stop = offset + c.value.utf8ByteSize := by
  have hpos := utf8ByteSize_pos h
  simp only [Span.stop]
  omega

theorem last_lt_of_mem_fieldAt (h : field ∈ fieldAt offset c) :
    field.span.last < offset + c.value.utf8ByteSize := by
  obtain ⟨hne, rfl⟩ := mem_fieldAt.1 h
  have hpos := utf8ByteSize_pos hne
  simp only
  omega

theorem fieldAt_of_ne (h : c.value ≠ "") :
    fieldAt offset c = [⟨c.name, ⟨offset, offset + c.value.utf8ByteSize - 1⟩⟩] := by
  rw [fieldAt, if_neg fun hempty => h (String.isEmpty_iff.1 hempty)]

theorem mem_joinFields : field ∈ joinFields separator offset columns ↔
    ∃ p ∈ placed separator offset columns, field ∈ fieldAt p.1 p.2 := by
  induction columns generalizing offset with
  | nil => simp [joinFields, placed]
  | cons c rest ih => simp [joinFields, placed, ih]

theorem le_of_mem_placed {p : Nat × Column} (h : p ∈ placed separator offset columns) :
    offset ≤ p.1 := by
  induction columns generalizing offset with
  | nil => cases h
  | cons c rest ih =>
      rcases List.mem_cons.1 h with rfl | hrest
      · exact Nat.le_refl offset
      · have := ih hrest
        omega

theorem le_first_of_mem_joinFields (h : field ∈ joinFields separator offset columns) :
    offset ≤ field.span.first := by
  obtain ⟨p, hp, hfield⟩ := mem_joinFields.1 h
  obtain ⟨-, rfl⟩ := mem_fieldAt.1 hfield
  exact le_of_mem_placed hp

theorem first_le_last_of_mem_joinFields (h : field ∈ joinFields separator offset columns) :
    field.span.first ≤ field.span.last := by
  obtain ⟨p, -, hfield⟩ := mem_joinFields.1 h
  obtain ⟨hne, rfl⟩ := mem_fieldAt.1 hfield
  have hpos := utf8ByteSize_pos hne
  simp only
  omega

theorem joinText_singleton (c : Column) : joinText separator [c] = c.value := by
  simp [joinText, tailText]

theorem joinText_cons_cons (c d : Column) (rest : List Column) :
    joinText separator (c :: d :: rest) =
      c.value ++ (separator ++ joinText separator (d :: rest)) := by
  simp [joinText, tailText, String.append_assoc]

theorem laid_append_joinText (separator before : String) (columns : List Column) :
    Laid (before ++ joinText separator columns) separator before.utf8ByteSize columns := by
  induction columns generalizing before with
  | nil => trivial
  | cons c rest ih =>
      cases rest with
      | nil =>
          refine ⟨?_, fun h => absurd rfl h, trivial⟩
          have hvalue := Text.slice_middle before c.value ""
          rw [String.append_empty] at hvalue
          rwa [joinText_singleton]
      | cons d rest =>
          rw [joinText_cons_cons]
          refine ⟨?_, fun _ => ?_, ?_⟩
          · rw [← String.append_assoc]
            exact Text.slice_middle before c.value _
          · have hseparator :=
              Text.slice_middle (before ++ c.value) separator (joinText separator (d :: rest))
            rwa [String.utf8ByteSize_append, String.append_assoc, String.append_assoc] at hseparator
          · have hrest := ih (before ++ c.value ++ separator)
            rwa [String.utf8ByteSize_append, String.utf8ByteSize_append, String.append_assoc,
              String.append_assoc] at hrest

theorem laid_joinText (separator : String) (columns : List Column) :
    Laid (joinText separator columns) separator 0 columns := by
  have h := laid_append_joinText separator "" columns
  rwa [String.empty_append] at h

theorem Laid.wholeIn (h : Laid text separator offset (c :: rest)) (hne : c.value ≠ "") :
    (⟨offset, offset + c.value.utf8ByteSize - 1⟩ : Span).WholeIn text := by
  have hpos := utf8ByteSize_pos hne
  refine Span.WholeIn.iff_slice.2 ⟨Nat.le_sub_one_of_lt (Nat.lt_add_of_pos_right hpos), ?_⟩
  rw [stop_of_ne hne, h.1]
  rfl

theorem joinText_eq_intercalate (separator : String) (columns : List Column) :
    joinText separator columns = separator.intercalate (columns.map Column.value) := by
  induction columns with
  | nil => rfl
  | cons c rest ih =>
      cases rest with
      | nil => rw [joinText_singleton, List.map_singleton, String.intercalate_singleton]
      | cons d rest =>
          calc
            joinText separator (c :: d :: rest)
                = c.value ++ (separator ++ joinText separator (d :: rest)) :=
              joinText_cons_cons c d rest
            _ = c.value ++ separator ++ separator.intercalate ((d :: rest).map Column.value) := by
              rw [ih, String.append_assoc]
            _ = separator.intercalate ((c :: d :: rest).map Column.value) :=
              (String.intercalate_cons_of_ne_nil (List.cons_ne_nil _ _)).symm

/-! ## Columns with a value -/

/-- The columns that have a value, each with its number, counted from the given one. -/
def filled (columns : List Column) (first : Nat) : List (Column × Nat) :=
  (columns.zipIdx first).filter fun p => p.1.value ≠ ""

theorem filled_cons_of_empty (h : c.value = "") (rest : List Column) (first : Nat) :
    filled (c :: rest) first = filled rest (first + 1) := by
  simp [filled, h]

theorem filled_cons_of_ne (h : c.value ≠ "") (rest : List Column) (first : Nat) :
    filled (c :: rest) first = (c, first) :: filled rest (first + 1) := by
  simp [filled, h]

theorem joinFields_cons_of_empty (h : c.value = "") (rest : List Column) :
    joinFields separator offset (c :: rest) =
      joinFields separator (offset + c.value.utf8ByteSize + separator.utf8ByteSize) rest := by
  rw [joinFields, fieldAt, if_pos (String.isEmpty_iff.2 h), List.nil_append]

theorem joinFields_cons_of_ne (h : c.value ≠ "") (rest : List Column) :
    joinFields separator offset (c :: rest) =
      ⟨c.name, ⟨offset, offset + c.value.utf8ByteSize - 1⟩⟩ ::
        joinFields separator (offset + c.value.utf8ByteSize + separator.utf8ByteSize) rest := by
  rw [joinFields, fieldAt_of_ne h, List.singleton_append]

/-- Each column with a value has a field, of its name and with its value as text. -/
theorem map_joinFields (h : Laid text separator offset columns) (first : Nat) :
    (joinFields separator offset columns).map
        (fun f => (f.name, slice text f.span.first f.span.stop)) =
      (filled columns first).map fun p => (p.1.name, some p.1.value) := by
  induction columns generalizing offset first with
  | nil => rfl
  | cons c rest ih =>
      obtain ⟨hvalue, -, hrest⟩ := h
      by_cases hempty : c.value = ""
      · rw [joinFields_cons_of_empty hempty, filled_cons_of_empty hempty, ih hrest]
      · rw [joinFields_cons_of_ne hempty, filled_cons_of_ne hempty, List.map_cons, List.map_cons,
          ih hrest, stop_of_ne hempty, hvalue]

theorem wholeIn_of_mem_joinFields (h : Laid text separator offset columns)
    (hf : f ∈ joinFields separator offset columns) : f.span.WholeIn text := by
  induction columns generalizing offset with
  | nil => cases hf
  | cons c rest ih =>
      rcases List.mem_append.1 hf with hhere | hlater
      · obtain ⟨hne, rfl⟩ := mem_fieldAt.1 hhere
        exact h.wholeIn hne
      · exact ih h.2.2 hlater

theorem pairwise_joinFields (separator : String) (offset : Nat) (columns : List Column) :
    (joinFields separator offset columns).Pairwise fun f g => f.span.last < g.span.first := by
  induction columns generalizing offset with
  | nil => exact List.Pairwise.nil
  | cons c rest ih =>
      refine List.pairwise_append.2 ⟨?_, ih _, fun f hf g hg => ?_⟩
      · rw [fieldAt]
        split
        · exact List.Pairwise.nil
        · exact List.pairwise_singleton _ _
      · have hlast := last_lt_of_mem_fieldAt hf
        have hfirst := le_first_of_mem_joinFields hg
        omega

/-! ## What stands between two fields -/

/-- Behind a column that is not the last one stands a separator. -/
theorem Laid.separator_of_field (h : Laid text separator offset (c :: rest))
    (hg : g ∈ joinFields separator (offset + c.value.utf8ByteSize + separator.utf8ByteSize) rest) :
    slice text (offset + c.value.utf8ByteSize)
      (offset + c.value.utf8ByteSize + separator.utf8ByteSize) = some separator := by
  refine h.2.1 ?_
  rintro rfl
  cases hg

/-- Up to the first field there is a separator for each column before its own. -/
theorem slice_to_first (h : Laid text separator offset columns)
    (hg : (joinFields separator offset columns)[0]? = some g)
    (hd : (filled columns n)[0]? = some (d, j)) :
    n ≤ j ∧ slice text offset g.span.first =
      some (String.join (List.replicate (j - n) separator)) := by
  induction columns generalizing offset n with
  | nil => cases hg
  | cons c rest ih =>
      by_cases hempty : c.value = ""
      · rw [joinFields_cons_of_empty hempty] at hg
        rw [filled_cons_of_empty hempty] at hd
        obtain ⟨hle, hslice⟩ := ih h.2.2 hg hd
        have hseparator := h.separator_of_field (List.mem_of_getElem? hg)
        have hcount : j - n = j - (n + 1) + 1 := by omega
        have hsize : c.value.utf8ByteSize = 0 := String.utf8ByteSize_eq_zero_iff.2 hempty
        rw [hsize, Nat.add_zero] at hseparator hslice
        rw [hcount, List.replicate_succ, String.join_cons]
        exact ⟨Nat.le_of_succ_le hle, Text.slice_append hseparator hslice⟩
      · rw [joinFields_cons_of_ne hempty] at hg
        rw [filled_cons_of_ne hempty] at hd
        obtain rfl := Option.some.inj hg
        obtain ⟨rfl, rfl⟩ := Prod.mk.inj (Option.some.inj hd)
        refine ⟨Nat.le_refl n, ?_⟩
        rw [Nat.sub_self, List.replicate_zero, String.join_nil]
        exact Text.slice_self (h.wholeIn hempty).first

/-- Between a field and the next there is a separator for each step from the one column to the
other. -/
theorem slice_between (h : Laid text separator offset columns)
    (hf : (joinFields separator offset columns)[k]? = some f)
    (hg : (joinFields separator offset columns)[k + 1]? = some g)
    (hc : (filled columns n)[k]? = some (c, i)) (hd : (filled columns n)[k + 1]? = some (d, j)) :
    i < j ∧ slice text f.span.stop g.span.first =
      some (String.join (List.replicate (j - i) separator)) := by
  induction columns generalizing offset n k with
  | nil => cases hf
  | cons e rest ih =>
      by_cases hempty : e.value = ""
      · rw [joinFields_cons_of_empty hempty] at hf hg
        rw [filled_cons_of_empty hempty] at hc hd
        exact ih h.2.2 hf hg hc hd
      · rw [joinFields_cons_of_ne hempty] at hf hg
        rw [filled_cons_of_ne hempty] at hc hd
        cases k with
        | zero =>
            obtain rfl := Option.some.inj hf
            obtain ⟨rfl, rfl⟩ := Prod.mk.inj (Option.some.inj hc)
            obtain ⟨hlt, hslice⟩ := slice_to_first h.2.2 hg hd
            have hseparator := h.separator_of_field (List.mem_of_getElem? hg)
            have hcount : j - n = j - (n + 1) + 1 := by omega
            rw [stop_of_ne hempty, hcount, List.replicate_succ, String.join_cons]
            exact ⟨hlt, Text.slice_append hseparator hslice⟩
        | succ k => exact ih h.2.2 hf hg hc hd

/-! ## The law -/

/-- The text of joined columns is their values with the separator between them. Each column with a
value has a field of its name, of which the text is the value, in the order of the columns. The
fields are disjoint slices of the text that follow one another, and between two neighbours there
are as many separators as there are steps from the one column to the other. -/
theorem columns_are_joined (id : RecordId) (separator : String) (columns : List Column) :
    let record := toRecord id separator columns
    record.text = separator.intercalate (columns.map Column.value) ∧
    record.size = record.text.utf8ByteSize ∧
    record.fields.map Field.name = (filled columns 0).map (fun p => p.1.name) ∧
    (∀ k, record.fieldText? k = (filled columns 0)[k]?.map fun p => p.1.value) ∧
    (∀ field ∈ record.fields,
      field.span.WholeIn record.text ∧ field.span.last < record.text.utf8ByteSize) ∧
    (record.fields.Pairwise fun f g => f.span.last < g.span.first) ∧
    ∀ k f g c i d j, record.fields[k]? = some f → record.fields[k + 1]? = some g →
      (filled columns 0)[k]? = some (c, i) → (filled columns 0)[k + 1]? = some (d, j) →
        i < j ∧ slice record.text f.span.stop g.span.first =
          some (String.join (List.replicate (j - i) separator)) := by
  intro record
  have hlaid : Laid record.text separator 0 columns := laid_joinText separator columns
  have hfields := map_joinFields hlaid 0
  refine ⟨joinText_eq_intercalate separator columns, rfl, ?_, fun k => ?_, fun field hfield => ?_,
    pairwise_joinFields separator 0 columns, fun k f g c i d j => slice_between hlaid⟩
  · have hnames := congrArg (List.map Prod.fst) hfields
    rwa [List.map_map, List.map_map] at hnames
  · have htext := congrArg (fun l => l[k]?.bind Prod.snd) hfields
    simp only [List.getElem?_map, Option.bind_map] at htext
    rw [Option.map_eq_bind]
    exact htext
  · have hwhole := wholeIn_of_mem_joinFields hlaid hfield
    exact ⟨hwhole, hwhole.stop.le_size⟩

/-- Columns with empty values at either end and in the middle, and letters of two bytes. -/
def gappedColumns : List Column :=
  [⟨"head", ""⟩, ⟨"ecu", "é1"⟩, ⟨"apid", ""⟩, ⟨"payload", "ß"⟩, ⟨"tail", ""⟩]

theorem columns_are_joined_gapped :
    let record := toRecord 7 "→" gappedColumns
    (record.fields[0]? = some ⟨"ecu", ⟨3, 5⟩⟩ ∧ record.fields[1]? = some ⟨"payload", ⟨12, 13⟩⟩ ∧
        (filled gappedColumns 0)[0]? = some (⟨"ecu", "é1"⟩, 1) ∧
        (filled gappedColumns 0)[1]? = some (⟨"payload", "ß"⟩, 3)) ∧
      record.text = "→é1→→ß→" ∧ record.fieldText? 0 = some "é1" ∧
      slice record.text 6 12 = some "→→" := by
  intro record
  have hecu : record.fields[0]? = some ⟨"ecu", ⟨3, 5⟩⟩ := by decide +kernel
  have hpayload : record.fields[1]? = some ⟨"payload", ⟨12, 13⟩⟩ := by decide +kernel
  have hfirst : (filled gappedColumns 0)[0]? = some (⟨"ecu", "é1"⟩, 1) := by decide +kernel
  have hsecond : (filled gappedColumns 0)[1]? = some (⟨"payload", "ß"⟩, 3) := by decide +kernel
  obtain ⟨htext, -, -, hvalue, -, -, hbetween⟩ := columns_are_joined 7 "→" gappedColumns
  obtain ⟨-, hslice⟩ := hbetween 0 _ _ _ _ _ _ hecu hpayload hfirst hsecond
  have htwo : String.join (List.replicate (3 - 1) "→") = "→→" := by decide +kernel
  refine ⟨⟨hecu, hpayload, hfirst, hsecond⟩, htext.trans (by decide +kernel), ?_, ?_⟩
  · exact (hvalue 0).trans (by rw [hfirst]; rfl)
  · exact hslice.trans (congrArg some htwo)

end Column

end PatternScan
