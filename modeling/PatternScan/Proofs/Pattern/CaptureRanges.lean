import PatternScan.Pattern.Compiled
import PatternScan.Proofs.Pattern.Captures

/-!
# What groups capture of a text

A captured part of a text starts and stops between characters, and groups of which neither stands
inside the other capture different bytes.
-/

namespace PatternScan

open Text (byteCount)

/-! ## Byte offsets -/

namespace Pattern.Subject

theorem getElem?_offsetsFrom {cs : List Char} {pos : Nat} (h : pos ≤ cs.length) (offset : Nat) :
    (offsetsFrom offset cs)[pos]? = some (offset + byteCount (cs.take pos)) := by
  induction cs generalizing offset pos with
  | nil =>
      obtain rfl := Nat.le_zero.1 h
      rfl
  | cons c cs ih =>
      cases pos with
      | zero => rfl
      | succ pos =>
          rw [offsetsFrom, List.getElem?_cons_succ, ih (Nat.le_of_succ_le_succ h),
            List.take_succ_cons, byteCount, Nat.add_assoc]

theorem byteOffset_ofText {text : String} {pos : Nat} (h : pos ≤ (ofText text).size) :
    (ofText text).byteOffset pos = byteCount (text.toList.take pos) := by
  have hoffset : (offsetsFrom 0 text.toList).toArray[pos]? =
      some (byteCount (text.toList.take pos)) := by
    have hlength : pos ≤ text.toList.length := h
    rw [List.getElem?_toArray, getElem?_offsetsFrom hlength, Nat.zero_add]
  rw [byteOffset, ofText, hoffset, Option.getD_some]

end Pattern.Subject

namespace Text

theorem byteCount_take_add_drop (cs : List Char) {first last : Nat} (h : first ≤ last) :
    byteCount (cs.take first) + byteCount ((cs.take last).drop first) =
      byteCount (cs.take last) := by
  have hsplit := List.take_append_drop first (cs.take last)
  rw [List.take_take, Nat.min_eq_left h] at hsplit
  rw [← byteCount_append, hsplit]

theorem byteCount_take_mono (cs : List Char) {first last : Nat} (h : first ≤ last) :
    byteCount (cs.take first) ≤ byteCount (cs.take last) :=
  byteCount_take_add_drop cs h ▸ Nat.le_add_right _ _

theorem sliceChars_take (cs : List Char) {first last : Nat} (h : first ≤ last) :
    sliceChars cs (byteCount (cs.take first)) (byteCount (cs.take last)) =
      some ((cs.take last).drop first) := by
  refine sliceChars_eq_some_iff.2
    ⟨cs.take first, cs.drop last, ?_, rfl, byteCount_take_add_drop cs h⟩
  have hfirst : cs.take first = (cs.take last).take first := by
    rw [List.take_take, Nat.min_eq_left h]
  rw [hfirst, List.take_append_drop, List.take_append_drop]

theorem byteCount_toList (text : String) : byteCount text.toList = text.utf8ByteSize := by
  rw [byteCount_eq_utf8ByteSize, String.ofList_toList]

/-- A slice takes as many bytes as its ends say, and these are bytes of the text. -/
theorem utf8ByteSize_slice {text part : String} {start stop : Nat}
    (h : slice text start stop = some part) :
    start + part.utf8ByteSize = stop ∧ stop ≤ text.utf8ByteSize := by
  obtain ⟨middle, hmiddle, rfl⟩ := Option.map_eq_some_iff.1 h
  obtain ⟨before, after, htext, rfl, rfl⟩ := sliceChars_eq_some_iff.1 hmiddle
  refine ⟨by rw [byteCount_eq_utf8ByteSize middle], ?_⟩
  rw [← byteCount_toList, htext, byteCount_append, byteCount_append]
  exact Nat.le_add_right _ _

end Text

/-! ## Captures -/

/-- The captures have no byte in common. -/
def Capture.Apart (c d : Capture) : Prop := c.stop ≤ d.start ∨ d.stop ≤ c.start

namespace CompiledPattern

open Pattern

variable {p : CompiledPattern} {source text : String} {captures : List (Option Capture)}
  {r : Regex} {names : List GroupName} {c : Capture}

theorem exists_expression (h : ofSource source = .ok p) :
    ∃ r names, expressionOf source = .ok (r, names) ∧
      p = ⟨source, namesOf r names, r.program.toArray⟩ := by
  rw [ofSource] at h
  split at h
  · cases h
  · next r names hexpression =>
      split at h
      · exact ⟨r, names, hexpression, (Except.ok.inj h).symm⟩
      · cases h

theorem exists_captured {s : Subject} {slots : Slots} {group : Nat}
    (h : captureOf s slots group = some c) :
    ∃ first last, Captured slots group first last ∧
      c = ⟨s.byteOffset first, s.byteOffset last⟩ := by
  rw [captureOf] at h
  split at h
  · next first last hfirst hlast => exact ⟨first, last, ⟨hfirst, hlast⟩, (Option.some.inj h).symm⟩
  · cases h

/-- The captures are those of groups one, two and so on, noted in slots of which holds whatever is
kept. -/
theorem exists_slots {P : List Nat → Nat → Slots → Prop} (hkept : Kept r P)
    (hp : p.program = r.program.toArray) (h : p.captures? text = some captures) :
    ∃ slots, P [] (Subject.ofText text).size slots ∧
      ∀ {i c}, captures[i]? = some (some c) → captureOf (.ofText text) slots (i + 1) = some c := by
  obtain ⟨slots, hfirst, rfl⟩ := Option.map_eq_some_iff.1 h
  rw [hp] at hfirst
  refine ⟨slots, hkept.of_firstMatch hfirst, fun {i c} hcapture => ?_⟩
  rw [List.getElem?_map, Option.map_eq_some_iff] at hcapture
  obtain ⟨group, hgroup, hcapture⟩ := hcapture
  obtain ⟨hi, rfl⟩ := List.getElem?_eq_some_iff.1 hgroup
  rwa [List.getElem_range', Nat.one_mul, Nat.add_comm] at hcapture

/-- A part that was captured lies between characters of the text. -/
theorem slice_of_captureOf {slots : Slots} {group : Nat}
    (hnoted : NotedUpTo (Subject.ofText text).size slots)
    (h : captureOf (.ofText text) slots group = some c) (hlt : c.start < c.stop) :
    ∃ part, Text.slice text c.start c.stop = some part := by
  obtain ⟨first, last, ⟨hfirst, hlast⟩, rfl⟩ := exists_captured h
  simp only [Subject.byteOffset_ofText (hnoted hfirst),
    Subject.byteOffset_ofText (hnoted hlast)] at hlt ⊢
  have hle : first ≤ last := (Nat.le_total first last).resolve_right fun hge =>
    Nat.not_le.2 hlt (Text.byteCount_take_mono _ hge)
  exact ⟨_, by rw [Text.slice, Text.sliceChars_take _ hle]; rfl⟩

/-- Groups of which neither stands inside the other capture different bytes. -/
theorem apart_of_captureOf {slots : Slots} {group other : Nat} {d : Capture}
    (hfits : Fits r [] (Subject.ofText text).size slots) (hunrelated : r.Unrelated group other)
    (h : captureOf (.ofText text) slots group = some c)
    (h' : captureOf (.ofText text) slots other = some d) : c.Apart d := by
  obtain ⟨first, last, hcaptured, rfl⟩ := exists_captured h
  obtain ⟨first', last', hcaptured', rfl⟩ := exists_captured h'
  simp only [Capture.Apart, Subject.byteOffset_ofText (hfits.noted_le hcaptured.1),
    Subject.byteOffset_ofText (hfits.noted_le hcaptured.2),
    Subject.byteOffset_ofText (hfits.noted_le hcaptured'.1),
    Subject.byteOffset_ofText (hfits.noted_le hcaptured'.2)]
  exact (hfits.apart List.not_mem_nil List.not_mem_nil hunrelated hcaptured hcaptured').imp
    (Text.byteCount_take_mono _) (Text.byteCount_take_mono _)

end CompiledPattern

end PatternScan
