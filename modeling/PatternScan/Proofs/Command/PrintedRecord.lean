import PatternScan.Command.RecordView
import PatternScan.Proofs.Command.Findings
import PatternScan.Proofs.Command.HighlightedLine
import PatternScan.Proofs.JsonText
import PatternScan.Proofs.Pattern.NestedCaptures
import PatternScan.Proofs.Source.ColumnFields

/-!
# Printed records

What is printed for a record tells its number and its text, as a numbered line in which only control
sequences for colours stand between the characters, or as an object on one line. The matches of a
pattern never cross, so no character of the text is lost to the highlighting.
-/

namespace PatternScan.Command

open Analysis (Context RecordResult Settings)
open JsonText (OneLine Spells)
open TextFile (recordsOf)

/-! ## Characters with control sequences among them -/

/-- The written characters are those of the text, with control sequences for colours among them. -/
inductive Shows : List Char → List Char → Prop
  | nil : Shows [] []
  | char {c text written} (h : Shows text written) : Shows (c :: text) (c :: written)
  | sequence {code text written} (hcode : ∀ c ∈ code, c.isDigit = true ∨ c = ';')
      (h : Shows text written) : Shows text ('\x1b' :: '[' :: code ++ 'm' :: written)

namespace Shows

variable {a b text written written' : List Char}

theorem self (text : List Char) : Shows text text := by
  induction text with
  | nil => exact .nil
  | cons c rest ih => exact .char ih

theorem append (h : Shows a written) (h' : Shows b written') :
    Shows (a ++ b) (written ++ written') := by
  induction h with
  | nil => exact h'
  | char _ ih => exact .char ih
  | @sequence code _ _ hcode _ ih =>
      have hnext := Shows.sequence hcode ih
      rwa [← List.cons_append, ← List.append_assoc] at hnext

end Shows

/-- A control sequence shows nothing, on a terminal without colours too. -/
theorem shows_sequence (terminal : Terminal) {code : String}
    (hcode : ∀ c ∈ code.toList, c.isDigit = true ∨ c = ';') :
    Shows [] (terminal.sequence code).toList := by
  cases terminal with
  | colored =>
      rw [Terminal.sequence, String.toList_append, String.toList_append]
      exact .sequence hcode .nil
  | plain =>
      have hwritten : (Terminal.plain.sequence code).toList = ['\x1b', '['] ++ ['m'] := by
        rw [Terminal.sequence]
        decide
      rw [hwritten]
      exact .sequence (fun c hc => absurd hc List.not_mem_nil) .nil

theorem backgroundCode_mem {color : Color} {c : Char}
    (hc : c ∈ (Terminal.backgroundCode color).toList) : c.isDigit = true ∨ c = ';' := by
  have hdigits {n : Nat} (h : c ∈ (toString n).toList) : c.isDigit = true := by
    rw [Nat.toString_eq_ofList_toDigits, String.toList_ofList] at h
    exact Nat.isDigit_of_mem_toDigits (by decide) (by decide) h
  have hfixed : ∀ c ∈ "48;2;".toList, c.isDigit = true ∨ c = ';' := by simp
  simp only [Terminal.backgroundCode, String.toList_append, List.mem_append] at hc
  rcases hc with ((((hc | hc) | hc) | hc) | hc) | hc
  · exact hfixed c hc
  · exact .inl (hdigits hc)
  · exact .inr (List.mem_singleton.1 hc)
  · exact .inl (hdigits hc)
  · exact .inr (List.mem_singleton.1 hc)
  · exact .inl (hdigits hc)

/-- A piece is written with its text and control sequences only. -/
theorem Piece.shows_render (terminal : Terminal) (p : Piece) :
    Shows p.text.toList (p.render terminal).toList := by
  rw [render]
  cases p.color with
  | none => exact .self _
  | some color =>
      have hbackground := shows_sequence terminal fun _ hc => @backgroundCode_mem color _ hc
      have hletters := @shows_sequence terminal Terminal.blackLetters
        (by simp [Terminal.blackLetters])
      have husual := @shows_sequence terminal Terminal.usualBackground
        (by simp [Terminal.usualBackground])
      have husual' := @shows_sequence terminal Terminal.usualLetters
        (by simp [Terminal.usualLetters])
      have hall := (((hbackground.append hletters).append (.self p.text.toList)).append
        husual).append husual'
      simpa only [Terminal.paint, String.toList_append, List.nil_append, List.append_nil] using hall

theorem shows_join (terminal : Terminal) (ps : List Piece) :
    Shows (String.join (ps.map Piece.text)).toList
      (String.join (ps.map (Piece.render terminal))).toList := by
  induction ps with
  | nil => exact .nil
  | cons p rest ih =>
      rw [List.map_cons, List.map_cons, String.join_cons, String.join_cons, String.toList_append,
        String.toList_append]
      exact (p.shows_render terminal).append ih

/-! ## Printed records -/

/-- What may be printed for a line of this number and text: the number and the text on one line,
which lines for the items extracted may follow, or one object on one line that tells text and number
first. -/
inductive Prints (number : Nat) (text : String) : Bool → String → Prop
  | lines {written : String} {items : List String} (hwritten : Shows text.toList written.toList)
      (hcount : items.length ≤ 2)
      (hitems : ∀ item ∈ items, ∃ rest,
        item = "          sequence: " ++ rest ∨ item = "          plot: " ++ rest) :
      Prints number text false
        (String.ofList (List.replicate (8 - (toString number).length) ' ') ++ toString number ++
          ": " ++ written ++ "\n" ++ String.join (items.map (· ++ "\n")))
  | object {spelled : List Char} {rest : String} (hspelled : Spells text.toList spelled)
      (hrest : OneLine rest) :
      Prints number text true
        ("\x7b\"text\":\"" ++ String.ofList spelled ++ "\",\"record_id\":" ++ toString number ++
          "," ++ rest ++ "\x7d\n")

section Record

variable {record : Record} {r : RecordResult} {ms : List Match}

theorem prints_recordLines (style : RecordStyle)
    (hshows : Shows record.text.toList
      (highlighted style.terminal record r.highlighting).toList) :
    Prints record.id record.text false
      (String.join ((recordLines style record r).map (· ++ "\n"))) := by
  rw [recordLines, List.cons_append, List.map_cons, String.join_cons]
  refine .lines hshows ?_ fun item hitem => ?_
  · cases r.sequence.bind Extract.SequenceOutcome.item <;> cases r.plot <;> simp
  · rcases List.mem_append.1 hitem with hitem | hitem
    · obtain ⟨_, -, rfl⟩ := Option.map_eq_some_iff.1 (Option.mem_toList.1 hitem)
      exact ⟨_, .inl rfl⟩
    · obtain ⟨_, -, rfl⟩ := Option.map_eq_some_iff.1 (Option.mem_toList.1 hitem)
      exact ⟨_, .inr rfl⟩

/-- A record without items is printed on one line. -/
theorem recordText_eq_line {style : RecordStyle} (hplain : style.json = false)
    (hsequence : r.sequence = none) (hplot : r.plot = none) :
    recordText style record r =
      padLeft 8 (toString record.id) ++ ": " ++
        highlighted style.terminal record r.highlighting ++ "\n" := by
  simp [recordText, recordLines, hplain, hsequence, hplot, String.join_cons, String.join_nil]

theorem prints_recordJson (hid : r.id = record.id) :
    Prints record.id record.text true ((recordJson record r).render ++ "\n") := by
  obtain ⟨spelled, hspelled, hwritten⟩ := JsonText.exists_spells record.text
  obtain ⟨next, more, hentries⟩ : ∃ next more, recordJson record r =
      .object (("text", .text record.text) :: ("record_id", .natural r.id) :: next :: more) :=
    ⟨_, _, rfl⟩
  have hrest : OneLine (",".intercalate (JsonText.renderEntries (next :: more))) :=
    .intercalate (by decide) (JsonText.oneLine_renderEntries _)
  have hobject : (recordJson record r).render ++ "\n" =
      "\x7b\"text\":\"" ++ String.ofList spelled ++ "\",\"record_id\":" ++ toString record.id ++
        "," ++ ",".intercalate (JsonText.renderEntries (next :: more)) ++ "\x7d\n" := by
    have hopening : "\x7b\"text\":\"" =
        "\x7b" ++ (JsonText.writeText "text" ++ (":" ++ "\"")) := by decide
    have hbetween : "\",\"record_id\":" =
        "\"" ++ ("," ++ (JsonText.writeText "record_id" ++ ":")) := by decide
    have hclosing : "\x7d\n" = "\x7d" ++ "\n" := by decide
    obtain ⟨first, others, hmore⟩ : ∃ first others,
        JsonText.renderEntries (next :: more) = first :: others := ⟨_, _, rfl⟩
    rw [hentries, JsonText.render, JsonText.renderEntries, JsonText.renderEntries, hmore,
      String.intercalate_cons_cons, String.intercalate_cons_cons, JsonText.render, JsonText.render,
      hwritten, hid, hopening, hbetween, hclosing]
    simp only [String.append_assoc]
  rw [hobject]
  exact .object hspelled hrest

end Record

variable {pattern : CompiledPattern} {source : String} {record : Record} {r : RecordResult}

/-- What is printed for a matching record tells its number and its text. -/
theorem prints_recordText (hpattern : CompiledPattern.ofSource source = .ok pattern)
    {settings : Settings} (hr : (Context.ofPattern pattern settings).analyze? record = some r)
    (hfields : ∀ field ∈ record.fields, field.span.WholeIn record.text) (style : RecordStyle) :
    Prints record.id record.text style.json (recordText style record r) := by
  obtain ⟨ms, hfind, rfl⟩ := Option.map_eq_some_iff.1 hr
  obtain ⟨hms, hcross⟩ := CompiledPattern.nonCrossing_of_find? hpattern hfind
  rw [recordText]
  split
  · next hjson =>
      rw [hjson]
      exact prints_recordJson rfl
  · next hplain =>
      rw [Bool.not_eq_true] at hplain
      rw [hplain]
      refine prints_recordLines style ?_
      have hshows := shows_join style.terminal (pieces record (highlightRecord ms
        (record.fields.map Field.span) (Context.ofPattern pattern settings).script.color?
        (Context.ofPattern pattern settings).palette))
      rwa [(slices_pieces hfields hms hcross).join_eq] at hshows

/-! ## Printed findings -/

section Findings

variable {options : AnalyzeOptions} {settings : Settings} {columns : Option CompiledPattern}
  {bytes : Bytes}

/-- Each record of a file is made of the line of its number. -/
theorem exists_line_of_getElem?_recordsOf {position : Nat}
    (h : (recordsOf columns bytes)[position]? = some record) :
    ∃ line, (LineIndex.lines bytes)[position]? = some line ∧
      TextFile.recordOfLine columns position line = record := by
  rw [recordsOf, List.getElem?_mapIdx] at h
  exact Option.map_eq_some_iff.1 h

/-- The fields of a text hold whole characters, split by a pattern or not. -/
theorem wholeIn_of_mem_splitFields
    (hcolumns : ∀ p ∈ columns, ∃ source, CompiledPattern.ofSource source = .ok p) {text : String}
    {field : Field} (hfield : field ∈ TextFile.splitFields columns text) :
    field.span.WholeIn text := by
  have hwithin : field.Within text := by
    cases columns with
    | none => exact Field.within_payload hfield
    | some p =>
        obtain ⟨source, hsource⟩ := hcolumns p rfl
        obtain ⟨r, names, -, rfl⟩ := CompiledPattern.exists_expression hsource
        exact TextFile.within_of_mem_splitFields rfl hfield
  obtain ⟨part, -, hpart⟩ := hwithin.exists_part
  exact Span.WholeIn.iff_slice.2 ⟨hwithin.first_le_last, Option.isSome_of_mem hpart⟩

/-- What is printed for the findings tells the lines they were found in, one after another. -/
theorem prints_findings (hpattern : CompiledPattern.ofSource source = .ok pattern)
    (hcolumns : ∀ p ∈ columns, ∃ source, CompiledPattern.ofSource source = .ok p)
    (style : RecordStyle) :
    List.Forall₂ (fun position printed => ∃ line, (LineIndex.lines bytes)[position]? = some line ∧
        Prints position (Text.Utf8.decodeLossy (TextFile.stripEnd line)) style.json printed)
      ((findings options (.ofPattern pattern settings) columns bytes).map fun f => f.1.id)
      ((findings options (.ofPattern pattern settings) columns bytes).map fun (record, r) =>
        recordText style record r) := by
  rw [List.forall₂_map_left_iff, List.forall₂_map_right_iff, List.forall₂_same]
  intro f hf
  obtain ⟨-, hid⟩ := mem_sequentialScan hf
  obtain ⟨-, hlisted⟩ := mem_findings hf
  obtain ⟨record, -, hfound⟩ := List.mem_filterMap.1 hf
  obtain ⟨r, hr, rfl⟩ := Option.map_eq_some_iff.1 hfound
  rw [hid] at hlisted
  obtain ⟨line, hline, hmade⟩ : ∃ line, (LineIndex.lines bytes)[record.id]? = some line ∧
      TextFile.recordOfLine columns record.id line = record :=
    exists_line_of_getElem?_recordsOf hlisted
  have hfields : ∀ field ∈ record.fields, field.span.WholeIn record.text := by
    rw [← hmade]
    exact fun field hfield => wholeIn_of_mem_splitFields hcolumns hfield
  have hprints := prints_recordText hpattern hr hfields style
  rw [← congrArg Record.text hmade] at hprints
  exact ⟨line, hline, hprints⟩

end Findings

end PatternScan.Command
