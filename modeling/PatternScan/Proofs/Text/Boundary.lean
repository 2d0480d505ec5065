import PatternScan.Proofs.Pattern.CaptureRanges

/-!
# Boundaries between characters

A slice exists just where both of its ends fall between characters. Slices of which each
starts where the one before it stops make up one slice, so a text that is written slice by
slice, from its first offset to its last, is written as a whole.
-/

namespace PatternScan

namespace Text

variable {text part a b : String} {first last start middle stop : Nat}

/-! ## Slices of one text -/

theorem append_inj_of_byteCount {cs ds cs' ds' : List Char} (h : cs ++ ds = cs' ++ ds')
    (hcount : byteCount cs = byteCount cs') : cs = cs' ∧ ds = ds' := by
  have htake := takeBytes_append cs ds
  have hdrop := dropBytes_append cs ds
  rw [h, hcount, takeBytes_append] at htake
  rw [h, hcount, dropBytes_append] at hdrop
  exact ⟨(Option.some.inj htake).symm, (Option.some.inj hdrop).symm⟩

theorem slice_eq_some_iff :
    slice text start stop = some part ↔
      ∃ before after, text.toList = before ++ part.toList ++ after ∧
        byteCount before = start ∧ byteCount before + byteCount part.toList = stop := by
  rw [← sliceChars_eq_some_iff, slice, Option.map_eq_some_iff]
  constructor
  · rintro ⟨cs, hcs, rfl⟩
    rwa [String.toList_ofList]
  · exact fun h => ⟨_, h, String.ofList_toList⟩

/-- Two slices of which one stops where the other starts make up one slice. -/
theorem slice_append (ha : slice text start middle = some a)
    (hb : slice text middle stop = some b) : slice text start stop = some (a ++ b) := by
  obtain ⟨before, after, htext, hstart, hmiddle⟩ := slice_eq_some_iff.1 ha
  obtain ⟨before', after', htext', hmiddle', hstop⟩ := slice_eq_some_iff.1 hb
  have hsplit : before ++ a.toList ++ after = before' ++ (b.toList ++ after') := by
    rw [← htext, htext', List.append_assoc]
  obtain ⟨hbefore, -⟩ := append_inj_of_byteCount hsplit
    (by rw [byteCount_append, hmiddle, hmiddle'])
  refine slice_eq_some_iff.2 ⟨before, after', ?_, hstart, ?_⟩
  · rw [htext', ← hbefore, String.toList_append]
    simp only [List.append_assoc]
  · rw [String.toList_append, byteCount_append]
    omega

theorem slice_middle (before part after : String) :
    slice (before ++ part ++ after) before.utf8ByteSize
      (before.utf8ByteSize + part.utf8ByteSize) = some part := by
  refine slice_eq_some_iff.2 ⟨before.toList, after.toList, ?_, ?_, ?_⟩
  · rw [String.toList_append, String.toList_append]
  · rw [byteCount_toList]
  · rw [byteCount_toList, byteCount_toList]

theorem slice_whole (text : String) : slice text 0 text.utf8ByteSize = some text := by
  have h := slice_middle "" text ""
  rwa [String.empty_append, String.append_empty, String.utf8ByteSize_empty, Nat.zero_add] at h

/-! ## Boundaries -/

/-- The offset falls between characters of the text, or on an end of it. -/
def IsBoundary (text : String) (offset : Nat) : Prop :=
  ∃ count, byteCount (text.toList.take count) = offset

theorem isBoundary_zero (text : String) : IsBoundary text 0 := ⟨0, rfl⟩

theorem isBoundary_size (text : String) : IsBoundary text text.utf8ByteSize :=
  ⟨text.toList.length, by rw [List.take_length, byteCount_toList]⟩

theorem IsBoundary.le_size (h : IsBoundary text start) : start ≤ text.utf8ByteSize := by
  obtain ⟨count, rfl⟩ := h
  rcases Nat.le_total count text.toList.length with hle | hge
  · have hmono := byteCount_take_mono text.toList hle
    rwa [List.take_length, byteCount_toList] at hmono
  · exact Nat.le_of_eq (by rw [List.take_of_length_le hge, byteCount_toList])

/-- A slice exists just where both of its ends fall between characters. -/
theorem isSome_slice_iff :
    (slice text start stop).isSome = true ↔
      start ≤ stop ∧ IsBoundary text start ∧ IsBoundary text stop := by
  constructor
  · intro h
    obtain ⟨part, hpart⟩ := Option.isSome_iff_exists.1 h
    obtain ⟨before, after, htext, rfl, rfl⟩ := slice_eq_some_iff.1 hpart
    refine ⟨Nat.le_add_right _ _, ⟨before.length, ?_⟩, (before ++ part.toList).length, ?_⟩
    · rw [htext, List.append_assoc, List.take_left]
    · rw [htext, List.take_left, byteCount_append]
  · rintro ⟨hle, ⟨first, rfl⟩, last, rfl⟩
    rcases Nat.le_total first last with hfirst | hlast
    · rw [slice, sliceChars_take _ hfirst]
      rfl
    · -- With the characters the wrong way round, both counts are the same.
      rw [Nat.le_antisymm (byteCount_take_mono _ hlast) hle, slice,
        sliceChars_take _ (Nat.le_refl first)]
      rfl

theorem slice_self (h : IsBoundary text start) : slice text start start = some "" := by
  obtain ⟨part, hpart⟩ := Option.isSome_iff_exists.1
    (isSome_slice_iff.2 ⟨Nat.le_refl start, h, h⟩)
  obtain ⟨hsize, -⟩ := utf8ByteSize_slice hpart
  have hempty : part = "" := String.utf8ByteSize_eq_zero_iff.1 (by omega)
  rw [hpart, hempty]

/-! ## Slices that follow one another -/

/-- Each part is the slice of the text from where the part before it stops. -/
def Slices (text : String) : Nat → List String → Nat → Prop
  | start, [], stop => start = stop ∧ IsBoundary text start
  | start, part :: rest, stop =>
      ∃ middle, slice text start middle = some part ∧ Slices text middle rest stop

namespace Slices

variable {parts parts' : List String}

theorem append (h : Slices text start parts middle) (h' : Slices text middle parts' stop) :
    Slices text start (parts ++ parts') stop := by
  induction parts generalizing start with
  | nil =>
      obtain ⟨rfl, -⟩ := h
      exact h'
  | cons part rest ih =>
      obtain ⟨next, hpart, hrest⟩ := h
      exact ⟨next, hpart, ih hrest⟩

/-- Parts that follow one another make up a slice. -/
theorem slice_eq (h : Slices text start parts stop) :
    slice text start stop = some (String.join parts) := by
  induction parts generalizing start with
  | nil =>
      obtain ⟨rfl, hstart⟩ := h
      rw [slice_self hstart, String.join_nil]
  | cons part rest ih =>
      obtain ⟨next, hpart, hrest⟩ := h
      rw [slice_append hpart (ih hrest), String.join_cons]

/-- What follows from the first offset to the last is the whole text. -/
theorem join_eq (h : Slices text 0 parts text.utf8ByteSize) : String.join parts = text :=
  Option.some.inj (h.slice_eq.symm.trans (slice_whole text))

end Slices

end Text

/-! ## Spans of characters -/

/-- The span takes whole characters of the text. -/
structure Span.WholeIn (s : Span) (text : String) : Prop where
  first_le_last : s.first ≤ s.last
  first : Text.IsBoundary text s.first
  stop : Text.IsBoundary text s.stop

namespace Span.WholeIn

variable {text : String} {s t u : Span}

theorem iff_slice :
    s.WholeIn text ↔ s.first ≤ s.last ∧ (Text.slice text s.first s.stop).isSome = true := by
  rw [Text.isSome_slice_iff]
  constructor
  · exact fun h => ⟨h.first_le_last, Nat.le_succ_of_le h.first_le_last, h.first, h.stop⟩
  · rintro ⟨hle, -, hfirst, hstop⟩
    exact ⟨hle, hfirst, hstop⟩

instance (s : Span) (text : String) : Decidable (s.WholeIn text) :=
  decidable_of_iff _ iff_slice.symm

theorem exists_slice (h : s.WholeIn text) :
    ∃ part, Text.slice text s.first s.stop = some part :=
  Option.isSome_iff_exists.1 (iff_slice.1 h).2

/-- What two spans of whole characters have in common are whole characters. -/
theorem clip (hs : s.WholeIn text) (ht : t.WholeIn text) (h : s.clip t = some u) :
    u.WholeIn text := by
  obtain ⟨hmeets, rfl⟩ := Span.clip_eq_some_iff.1 h
  have hle := Span.meets_iff.1 hmeets
  have hs' := hs.first_le_last
  have ht' := ht.first_le_last
  refine ⟨?_, ?_, ?_⟩
  · simp only
    omega
  · rcases Nat.le_total s.first t.first with hfirst | hfirst
    · rw [Nat.max_eq_right hfirst]
      exact ht.first
    · rw [Nat.max_eq_left hfirst]
      exact hs.first
  · rw [Span.stop]
    rcases Nat.le_total s.last t.last with hlast | hlast
    · rw [Nat.min_eq_left hlast]
      exact hs.stop
    · rw [Nat.min_eq_right hlast]
      exact ht.stop

end Span.WholeIn

end PatternScan
