import PatternScan.JsonText
import PatternScan.Toml.Scalar

/-!
# Written JSON

The characters between the quotes of a written text spell the text: each stands for itself or is
told by an escape. Whatever is written takes one line.
-/

namespace PatternScan.JsonText

open Toml (charOfHex? simpleEscape?)

/-! ## Texts between quotes -/

/-- Characters that may stand between quotes for a text. The escapes of one letter, and those of
four hexadecimal digits, mean what they mean in TOML. -/
inductive Spells : List Char → List Char → Prop
  | nil : Spells [] []
  | plain {c text spelled} (hc : ' ' ≤ c ∧ c ≠ '"' ∧ c ≠ '\\') (h : Spells text spelled) :
      Spells (c :: text) (c :: spelled)
  | letter {c e text spelled} (he : simpleEscape? e = some c) (h : Spells text spelled) :
      Spells (c :: text) ('\\' :: e :: spelled)
  | number {c digits text spelled} (hlength : digits.length = 4)
      (hdigits : charOfHex? digits = some c) (h : Spells text spelled) :
      Spells (c :: text) ('\\' :: 'u' :: digits ++ spelled)

/-- A control character is told by its number in four digits. -/
theorem controlEscape_eq {c : Char} (h : c < ' ') :
    ∃ digits, controlEscape c = '\\' :: 'u' :: digits ∧ digits.length = 4 ∧
      charOfHex? digits = some c ∧ '\n' ∉ digits := by
  have hall : ∀ code < 32, ((controlEscape (Char.ofNat code)).drop 2).length = 4 ∧
      charOfHex? ((controlEscape (Char.ofNat code)).drop 2) = some (Char.ofNat code) ∧
      '\n' ∉ (controlEscape (Char.ofNat code)).drop 2 := by
    decide +kernel
  have hcode : c.toNat < 32 := h
  have hdigits := hall c.toNat hcode
  rw [Char.ofNat_toNat] at hdigits
  exact ⟨_, rfl, hdigits⟩

theorem Spells.writeChar {text spelled : List Char} (h : Spells text spelled) (c : Char) :
    Spells (c :: text) (JsonText.writeChar c ++ spelled) := by
  unfold JsonText.writeChar
  split
  case h_8 hquote hbackslash _ _ _ _ _ =>
    split
    · next hcontrol =>
        obtain ⟨digits, hwritten, hlength, hdigits, -⟩ := controlEscape_eq hcontrol
        rw [hwritten]
        exact .number hlength hdigits h
    · next hplain => exact .plain ⟨Char.not_lt.1 hplain, hquote, hbackslash⟩ h
  all_goals exact .letter rfl h

/-- A text is written in quotes, spelled between them. -/
theorem exists_spells (s : String) :
    ∃ spelled, Spells s.toList spelled ∧ writeText s = "\"" ++ String.ofList spelled ++ "\"" := by
  refine ⟨s.toList.flatMap JsonText.writeChar, ?_, String.toList_inj.1 (by simp [writeText])⟩
  induction s.toList with
  | nil => exact .nil
  | cons c rest ih => exact ih.writeChar c

/-! ## One line -/

/-- The text has no line feed. -/
def OneLine (s : String) : Prop := '\n' ∉ s.toList

instance (s : String) : Decidable (OneLine s) := inferInstanceAs (Decidable ('\n' ∉ s.toList))

namespace OneLine

variable {s t : String} {parts : List String}

theorem append (hs : OneLine s) (ht : OneLine t) : OneLine (s ++ t) := by
  rw [OneLine, String.toList_append, List.mem_append]
  exact not_or.2 ⟨hs, ht⟩

theorem intercalate {separator : String} (hseparator : OneLine separator)
    (hparts : ∀ part ∈ parts, OneLine part) : OneLine (separator.intercalate parts) := by
  induction parts with
  | nil => simp [OneLine]
  | cons part rest ih =>
      have hpart := hparts part List.mem_cons_self
      cases rest with
      | nil => simpa using hpart
      | cons next more =>
          rw [String.intercalate_cons_cons]
          exact (hpart.append hseparator).append
            (ih fun other hother => hparts other (List.mem_cons_of_mem _ hother))

/-- Digits with zeros among them. -/
theorem ofList {cs : List Char} (h : ∀ c ∈ cs, c.isDigit = true) : OneLine (String.ofList cs) := by
  rw [OneLine, String.toList_ofList]
  exact fun hmem => absurd (h _ hmem) (by decide)

theorem toString_nat (n : Nat) : OneLine (toString n) := by
  rw [Nat.toString_eq_ofList_toDigits]
  exact ofList fun c hc => Nat.isDigit_of_mem_toDigits (by decide) (by decide) hc

end OneLine

theorem lineFeed_notMem_writeChar (c : Char) : '\n' ∉ writeChar c := by
  unfold writeChar
  split
  case h_8 hfeed _ _ =>
    split
    · next hcontrol =>
        obtain ⟨digits, hwritten, -, -, hdigits⟩ := controlEscape_eq hcontrol
        rw [hwritten]
        simpa using hdigits
    · simpa using Ne.symm hfeed
  all_goals decide

theorem oneLine_writeText (s : String) : OneLine (writeText s) := by
  rw [OneLine, writeText, String.toList_ofList]
  simp [lineFeed_notMem_writeChar]

theorem oneLine_writePositional (keepsPoint : Bool) (d : Number.Digits) :
    OneLine (Number.writePositional keepsPoint d) := by
  have hdigits : ∀ c ∈ Nat.toDigits 10 d.digits, c.isDigit = true :=
    fun c hc => Nat.isDigit_of_mem_toDigits (by decide) (by decide) hc
  have hzeros (count : Nat) : ∀ c ∈ List.replicate count '0', c.isDigit = true :=
    fun c hc => List.eq_of_mem_replicate hc ▸ by decide
  rw [Number.writePositional]
  dsimp only
  split
  · refine (OneLine.ofList fun c hc => ?_).append (by cases keepsPoint <;> decide)
    exact (List.mem_append.1 hc).elim (hdigits c) (hzeros _ c)
  · refine ((OneLine.ofList fun c hc => ?_).append (by decide)).append
      (OneLine.ofList fun c hc => ?_)
    · exact (List.mem_append.1 (List.mem_of_mem_take hc)).elim (hzeros _ c) (hdigits c)
    · exact (List.mem_append.1 (List.mem_of_mem_drop hc)).elim (hzeros _ c) (hdigits c)

theorem oneLine_writeScientific (d : Number.Digits) : OneLine (Number.writeScientific d) := by
  have hdigits : ∀ c ∈ Nat.toDigits 10 d.digits, c.isDigit = true :=
    fun c hc => Nat.isDigit_of_mem_toDigits (by decide) (by decide) hc
  rw [Number.writeScientific]
  refine ((((OneLine.ofList fun c hc => hdigits c (List.mem_of_mem_take hc)).append ?_).append
    (by decide)).append ?_).append (.toString_nat _)
  · split
    · decide
    · exact .append (by decide) (.ofList fun c hc => hdigits c (List.mem_of_mem_drop hc))
  · split <;> decide

theorem oneLine_writeFloat (x : Binary64) : OneLine (writeFloat x) := by
  have hsign : OneLine (if x.isNegative then "-" else "") := by split <;> decide
  rw [writeFloat, Number.render, Number.writeFinite]
  dsimp only
  split
  · split
    · decide
    · split
      · exact hsign.append (by decide)
      · refine hsign.append ?_
        split
        · exact oneLine_writePositional _ _
        · exact oneLine_writeScientific _
  · decide

mutual

/-- A value is written on one line. -/
theorem oneLine_render (v : JsonText) : OneLine v.render := by
  cases v with
  | null => rw [render]; decide
  | boolean b => rw [render]; cases b <;> decide
  | natural n => rw [render]; exact .toString_nat n
  | float x => rw [render]; exact oneLine_writeFloat x
  | text s => rw [render]; exact oneLine_writeText s
  | list items =>
      rw [render]
      exact (OneLine.append (by decide)
        (OneLine.intercalate (by decide) (oneLine_renderItems items))).append (by decide)
  | object entries =>
      rw [render]
      exact (OneLine.append (by decide)
        (OneLine.intercalate (by decide) (oneLine_renderEntries entries))).append (by decide)

theorem oneLine_renderItems (items : List JsonText) :
    ∀ part ∈ renderItems items, OneLine part := by
  cases items with
  | nil => simp [renderItems]
  | cons item rest =>
      rw [renderItems, List.forall_mem_cons]
      exact ⟨oneLine_render item, oneLine_renderItems rest⟩

theorem oneLine_renderEntries (entries : List (String × JsonText)) :
    ∀ part ∈ renderEntries entries, OneLine part := by
  cases entries with
  | nil => simp [renderEntries]
  | cons entry rest =>
      obtain ⟨key, value⟩ := entry
      rw [renderEntries, List.forall_mem_cons]
      exact ⟨((oneLine_writeText key).append (by decide)).append (oneLine_render value),
        oneLine_renderEntries rest⟩

end

end PatternScan.JsonText
