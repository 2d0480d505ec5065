import PatternScan.Proofs.Pattern.CaptureRanges
import PatternScan.Proofs.Source.RecordCache

/-!
# Fields of columns

The fields of a record lie between the characters of its text and are not empty. Those that a
column pattern finds have no byte in common as long as no group of the pattern stands inside
another one; where one does, both capture the same bytes and the fields overlap.
-/

namespace PatternScan

open Pattern (Fits Regex GroupName Slots Subject)

/-! ## Single fields -/

/-- The field takes bytes of the text, from between characters to between characters. -/
structure Field.Within (field : Field) (text : String) : Prop where
  first_le_last : field.span.first ≤ field.span.last
  last_lt : field.span.last < text.utf8ByteSize
  exists_part : ∃ part, part ≠ "" ∧ Text.slice text field.span.first field.span.stop = some part

theorem Field.Within.of_slice {field : Field} {text part : String}
    (hle : field.span.first ≤ field.span.last)
    (h : Text.slice text field.span.first field.span.stop = some part) : field.Within text := by
  obtain ⟨hsize, hstop⟩ := Text.utf8ByteSize_slice h
  have hlast : field.span.stop = field.span.last + 1 := rfl
  refine ⟨hle, by omega, part, fun hempty => ?_, h⟩
  rw [hempty, String.utf8ByteSize_empty] at hsize
  omega

theorem Field.within_payload {field : Field} {text : String} (h : field ∈ payload text) :
    field.Within text := by
  rw [payload, List.mem_ite_nil_left, List.mem_singleton] at h
  obtain ⟨hne, rfl⟩ := h
  have hpos : text.utf8ByteSize ≠ 0 := by simpa [String.isEmpty] using hne
  have hwhole : Text.sliceChars text.toList 0 text.utf8ByteSize = some text.toList := by
    refine Text.sliceChars_eq_some_iff.2 ⟨[], [], by simp, rfl, ?_⟩
    rw [Text.byteCount_toList, Text.byteCount, Nat.zero_add]
  have hslice : Text.slice text 0 (text.utf8ByteSize - 1 + 1) = some text := by
    rw [Nat.sub_add_cancel (Nat.one_le_iff_ne_zero.2 hpos), Text.slice, hwhole, Option.map_some,
      String.ofList_toList]
  exact .of_slice (Nat.zero_le _) hslice

namespace TextFile

open RecentCache

/-! ## Fields of a text -/

variable {text : String} {p : CompiledPattern} {r : Regex} {field : Field}

theorem columnField?_eq_some {group : Nat} {name : Option String} {capture : Option Capture}
    (h : columnField? group name capture = some field) :
    ∃ c, capture = some c ∧ c.start < c.stop ∧
      field = ⟨columnName group name, ⟨c.start, c.stop - 1⟩⟩ := by
  obtain ⟨c, rfl, hfield⟩ := Option.bind_eq_some_iff.1 h
  split at hfield
  · next hlt => exact ⟨c, rfl, hlt, (Option.some.inj hfield).symm⟩
  · cases hfield

variable {names : List (Option String)} {captures : List (Option Capture)}

theorem exists_capture_of_mem (h : field ∈ (names.zip captures).zipIdx.filterMap
      fun ((name, capture), i) => columnField? (i + 1) name capture) :
    ∃ (i : Nat) (c : Capture), captures[i]? = some (some c) ∧ c.start < c.stop ∧
      field.span = ⟨c.start, c.stop - 1⟩ := by
  obtain ⟨⟨⟨name, capture⟩, i⟩, hmem, hfield⟩ := List.mem_filterMap.1 h
  obtain ⟨c, rfl, hlt, rfl⟩ := columnField?_eq_some hfield
  have hzip := List.mk_mem_zipIdx_iff_getElem?.1 hmem
  rw [List.getElem?_zip_eq_some] at hzip
  exact ⟨i, c, hzip.2, hlt, rfl⟩

/-- Fields of captures that have no byte in common do not meet. -/
theorem pairwise_columnFields (h : ∀ {i j : Nat} {c d : Capture}, i < j →
      captures[i]? = some (some c) → captures[j]? = some (some d) → c.Apart d) :
    ((names.zip captures).zipIdx.filterMap
      fun ((name, capture), i) => columnField? (i + 1) name capture).Pairwise
        fun a b => a.span.meets b.span = false := by
  rw [List.pairwise_filterMap, List.pairwise_iff_getElem]
  intro i j hi hj hij a ha b hb
  simp only [List.getElem_zipIdx, List.getElem_zip] at ha hb
  obtain ⟨c, hc, hlt, rfl⟩ := columnField?_eq_some ha
  obtain ⟨d, hd, hlt', rfl⟩ := columnField?_eq_some hb
  have hapart := h hij (List.getElem?_eq_some_iff.2 ⟨_, hc⟩) (List.getElem?_eq_some_iff.2 ⟨_, hd⟩)
  rw [Bool.eq_false_iff, ne_eq, Span.meets_iff]
  rcases hapart with hapart | hapart
  · simp only
    omega
  · simp only
    omega

theorem within_of_mem_splitFields (hp : p.program = r.program.toArray)
    (h : field ∈ splitFields (some p) text) : field.Within text := by
  rw [splitFields, Option.bind_some] at h
  cases hcaptures : p.captures? text with
  | none =>
      rw [hcaptures] at h
      exact Field.within_payload h
  | some captures =>
      rw [hcaptures] at h
      obtain ⟨i, c, hc, hlt, hspan⟩ := exists_capture_of_mem h
      obtain ⟨slots, hfits, hslots⟩ := CompiledPattern.exists_slots (Fits.kept r) hp hcaptures
      obtain ⟨part, hpart⟩ := CompiledPattern.slice_of_captureOf hfits.noted_le (hslots hc) hlt
      have hstop : c.stop - 1 + 1 = c.stop := Nat.sub_add_cancel (Nat.one_le_of_lt hlt)
      have hslice : Text.slice text field.span.first field.span.stop = some part := by
        rwa [hspan, Span.stop, hstop]
      have hle : field.span.first ≤ field.span.last := by
        rw [hspan]
        exact Nat.le_sub_one_of_lt hlt
      exact .of_slice hle hslice

/-- No field meets another one unless a group stands inside another one. -/
theorem pairwise_splitFields (hp : p.program = r.program.toArray)
    (hflat : ∀ outer inner, ¬ r.Encloses outer inner) (text : String) :
    (splitFields (some p) text).Pairwise fun a b => a.span.meets b.span = false := by
  rw [splitFields, Option.bind_some]
  cases hcaptures : p.captures? text with
  | none =>
      change (Field.payload text).Pairwise _
      rw [Field.payload]
      split
      · exact .nil
      · exact List.pairwise_singleton _ _
  | some captures =>
      obtain ⟨slots, hfits, hslots⟩ := CompiledPattern.exists_slots (Fits.kept r) hp hcaptures
      refine pairwise_columnFields fun {i j c d} hij hc hd => ?_
      have hunrelated : r.Unrelated (i + 1) (j + 1) := ⟨by omega, hflat _ _, hflat _ _⟩
      exact CompiledPattern.apart_of_captureOf hfits hunrelated (hslots hc) (hslots hd)

/-! ## Records handed out -/

/-- A file since its column pattern was set, refreshed and asked for records in any order, whatever
it held then. -/
inductive Columned (pattern : String) : TextFile → Prop where
  | set (f f' : TextFile) (h : f.withColumns pattern = .ok f') : Columned pattern f'
  | refreshed (f : TextFile) (a : LineIndex.Attempt) (h : Columned pattern f) :
      Columned pattern (f.refreshThrough a).2
  | asked (f : TextFile) (reading : Except FileFault Bytes) (position : Nat)
      (h : Columned pattern f) : Columned pattern (f.get reading position).2

/-- The record is made of a line. -/
def OfLine (columns : Option CompiledPattern) (id : RecordId) (record : Record) : Prop :=
  ∃ raw, record = recordOfLine columns id raw

variable {f : TextFile} {pattern : String} {reading : Except FileFault Bytes} {id : RecordId}
  {record : Record}

theorem ofLine_of_readLine (h : f.readLine reading id = .ok record) :
    OfLine f.columns id record := by
  rw [readLine] at h
  split at h
  · cases h
  · split at h
    · cases h
    · split at h
      · cases h
      · rcases ite_eq_iff.1 h with ⟨-, h⟩ | ⟨-, h⟩
        · cases h
        · exact ⟨_, (Except.ok.inj h).symm⟩

/-- The pattern stays set, and the records remembered are made of lines split by it. -/
theorem Columned.exists_columns (h : Columned pattern f) :
    ∃ p capacity, CompiledPattern.ofSource pattern = .ok p ∧ f.columns = some p ∧
      f.cache.Remembers capacity (OfLine (some p)) := by
  induction h with
  | set f f' h =>
      rw [withColumns] at h
      split at h
      · next p hp =>
          obtain rfl := Except.ok.inj h
          exact ⟨p, f.cache.capacity, hp, rfl, .of_clear f.cache _⟩
      · cases h
  | refreshed f a h ih =>
      obtain ⟨p, capacity, hp, hcolumns, hcache⟩ := ih
      refine ⟨p, capacity, hp, hcolumns, ?_⟩
      rw [cache_refreshThrough]
      split
      · exact hcache.clear _
      · exact hcache
  | asked f reading position h ih =>
      obtain ⟨p, capacity, hp, hcolumns, hcache⟩ := ih
      refine ⟨p, capacity, hp, (columns_get f _ _).trans hcolumns, ?_⟩
      exact remembers_get hcache fun record hread => hcolumns ▸ ofLine_of_readLine hread

/-- A record that is handed out is made of a line, remembered or not. -/
theorem Columned.ofLine (h : Columned pattern f) (hget : (f.get reading id).1 = .ok record) :
    ∃ p, CompiledPattern.ofSource pattern = .ok p ∧ OfLine (some p) id record := by
  obtain ⟨p, capacity, hp, hcolumns, hcache⟩ := h.exists_columns
  refine ⟨p, hp, ?_⟩
  rw [get] at hget
  split at hget
  · next found cache hfound =>
      obtain rfl := Except.ok.inj hget
      exact (hcache.lookup hfound).1
  · split at hget
    · next found hread =>
        obtain rfl := Except.ok.inj hget
        exact hcolumns ▸ ofLine_of_readLine hread
    · cases hget

/-- The fields of every record that a file with a column pattern hands out are parts of its text
that are not empty and start and end between characters, so each of them has a text. They have no
byte in common if no group of the pattern stands inside another one. -/
theorem column_fields_within_text (h : Columned pattern f)
    (hget : (f.get reading id).1 = .ok record) :
    (∀ field ∈ record.fields,
      field.span.first ≤ field.span.last ∧ field.span.last < record.text.utf8ByteSize) ∧
    (∀ i < record.fields.length, ∃ part, part ≠ "" ∧ record.fieldText? i = some part) ∧
    ∃ r names, CompiledPattern.expressionOf pattern = .ok (r, names) ∧
      ((∀ outer inner, ¬ r.Encloses outer inner) →
        record.fields.Pairwise fun a b => a.span.meets b.span = false) := by
  obtain ⟨p, hp, raw, rfl⟩ := h.ofLine hget
  obtain ⟨r, names, hexpression, hcompiled⟩ := CompiledPattern.exists_expression hp
  have hprogram : p.program = r.program.toArray := congrArg CompiledPattern.program hcompiled
  have hwithin {field : Field} (hmem : field ∈ (recordOfLine (some p) id raw).fields) :
      field.Within (Text.Utf8.decodeLossy (stripEnd raw)) :=
    within_of_mem_splitFields hprogram hmem
  refine ⟨fun field hfield => ?_, fun i hi => ?_, r, names, hexpression, fun hflat => ?_⟩
  · exact ⟨(hwithin hfield).first_le_last, (hwithin hfield).last_lt⟩
  · obtain ⟨part, hne, hpart⟩ := (hwithin (List.getElem_mem hi)).exists_part
    refine ⟨part, hne, ?_⟩
    rw [Record.fieldText?, List.getElem?_eq_getElem hi, Option.bind_some]
    exact hpart
  · exact pairwise_splitFields hprogram hflat _

/-- A file of one line with a column pattern. -/
def pairFile (columns : CompiledPattern) : TextFile :=
  { (refresh ⟨"f.log", .empty, .empty 4, none⟩ (.ok [97, 98, 10])).2 with columns := some columns }

theorem columned_pairFile {pattern : String} {columns : CompiledPattern}
    (h : CompiledPattern.ofSource pattern = .ok columns) : Columned pattern (pairFile columns) := by
  refine .set (refresh ⟨"f.log", .empty, .empty 4, none⟩ (.ok [97, 98, 10])).2 _ ?_
  rw [withColumns, h]
  rfl

/-- One group behind another. -/
def flatExpression : Regex :=
  .cat (.capture 1 (.chars ⟨[(97, 97)]⟩))
    (.capture 2 (.repetition (.chars ⟨[(98, 98)]⟩) 0 (some 1) true))

theorem expressionOf_flat : CompiledPattern.expressionOf "(a)(b?)" = .ok (flatExpression, []) := rfl

def flatColumns : CompiledPattern :=
  ⟨"(a)(b?)", [none, none, none], flatExpression.program.toArray⟩

theorem column_fields_within_text_flat :
    Columned "(a)(b?)" (pairFile flatColumns) ∧
    ∃ record, ((pairFile flatColumns).get (.ok [97, 98, 10]) 0).1 = .ok record ∧
      record.fields = [⟨"column1", ⟨0, 0⟩⟩, ⟨"column2", ⟨1, 1⟩⟩] ∧
      (∃ part, part ≠ "" ∧ record.fieldText? 1 = some part) ∧
      record.fields.Pairwise fun a b => a.span.meets b.span = false := by
  have hcolumned : Columned "(a)(b?)" (pairFile flatColumns) := columned_pairFile rfl
  have hget : ((pairFile flatColumns).get (.ok [97, 98, 10]) 0).1 =
      .ok ⟨0, "ab", 3, none, [⟨"column1", ⟨0, 0⟩⟩, ⟨"column2", ⟨1, 1⟩⟩]⟩ := by decide +kernel
  obtain ⟨-, htexts, r, names, hexpression, hapart⟩ := column_fields_within_text hcolumned hget
  obtain ⟨rfl, -⟩ := Prod.mk.inj (Except.ok.inj (expressionOf_flat.symm.trans hexpression))
  have hflat (outer inner : Nat) : ¬ flatExpression.Encloses outer inner := by
    simp [flatExpression, Regex.Encloses, Regex.groups]
  exact ⟨hcolumned, _, hget, rfl, htexts 1 (by decide), hapart hflat⟩

/-- One group inside another. -/
def nestedExpression : Regex :=
  .capture 1 (.cat (.capture 2 (.chars ⟨[(97, 97)]⟩)) (.chars ⟨[(98, 98)]⟩))

def nestedColumns : CompiledPattern :=
  ⟨"((a)b)", [none, none, none], nestedExpression.program.toArray⟩

/-- A group inside another one captures bytes that this captures too, and both make a field of
them. -/
theorem nested_columns_overlap :
    ∃ record, Columned "((a)b)" (pairFile nestedColumns) ∧
      ((pairFile nestedColumns).get (.ok [97, 98, 10]) 0).1 = .ok record ∧
      ¬ record.fields.Pairwise fun a b => a.span.meets b.span = false := by
  have hget : ((pairFile nestedColumns).get (.ok [97, 98, 10]) 0).1 =
      .ok ⟨0, "ab", 3, none, [⟨"column1", ⟨0, 1⟩⟩, ⟨"column2", ⟨0, 0⟩⟩]⟩ := by decide +kernel
  exact ⟨_, columned_pairFile rfl, hget, by decide⟩

end TextFile

end PatternScan
