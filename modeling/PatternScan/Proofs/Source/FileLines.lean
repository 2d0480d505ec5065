import PatternScan.Proofs.Source.RecordCache

/-!
# The records of a file as a list

A content has as many complete lines as it has line feeds, and each of them makes one record. A
file that is in step with its content hands out exactly these records, however often it was
refreshed before and whatever it remembers.
-/

namespace PatternScan

namespace LineIndex

/-- The complete lines in turn, line feeds included. The bytes `begun` of the first line came
before. -/
def linesAfter (begun : Bytes) : Bytes → List Bytes
  | [] => []
  | b :: bs =>
      if b == lineFeed then (begun ++ [b]) :: linesAfter [] bs else linesAfter (begun ++ [b]) bs

/-- The complete lines of a content, line feeds included. -/
def lines (bytes : Bytes) : List Bytes := linesAfter [] bytes

theorem linesAfter_of_notMem {line : Bytes} (h : lineFeed ∉ line) (begun : Bytes) :
    linesAfter begun line = [] := by
  induction line generalizing begun with
  | nil => rfl
  | cons b line ih =>
      obtain ⟨hb, hline⟩ := not_or.1 (mt List.mem_cons.2 h)
      rw [linesAfter, if_neg (by simpa using Ne.symm hb)]
      exact ih hline _

theorem linesAfter_line {line : Bytes} (h : lineFeed ∉ line) (begun rest : Bytes) :
    linesAfter begun (line ++ [lineFeed] ++ rest) =
      (begun ++ line ++ [lineFeed]) :: lines rest := by
  induction line generalizing begun with
  | nil => simp [linesAfter, lines]
  | cons b line ih =>
      obtain ⟨hb, hline⟩ := not_or.1 (mt List.mem_cons.2 h)
      rw [List.cons_append, List.cons_append, linesAfter, if_neg (by simpa using Ne.symm hb),
        ih hline, List.append_assoc begun, List.singleton_append]

theorem lines_of_notMem {line : Bytes} (h : lineFeed ∉ line) : lines line = [] :=
  linesAfter_of_notMem h []

theorem lines_line {line : Bytes} (h : lineFeed ∉ line) (rest : Bytes) :
    lines (line ++ [lineFeed] ++ rest) = (line ++ [lineFeed]) :: lines rest :=
  linesAfter_line h [] rest

theorem length_lines (bytes : Bytes) : (lines bytes).length = bytes.count lineFeed := by
  induction bytes using lineInduction with
  | unfinished line h =>
      rw [lines_of_notMem h, List.count_eq_zero_of_not_mem h, List.length_nil]
  | line line rest h ih =>
      rw [lines_line h, List.length_cons, ih, List.count_append, List.count_append,
        List.count_eq_zero_of_not_mem h, List.count_singleton_self]
      omega

/-- The lines stand in the content in their order. -/
theorem exists_isLine_of_lines {bytes line : Bytes} {number : Nat}
    (h : (lines bytes)[number]? = some line) : ∃ before, IsLine bytes number before line := by
  induction bytes using lineInduction generalizing number with
  | unfinished unfinished hnone => simp [lines_of_notMem hnone] at h
  | line first rest hfirst ih =>
      have hcount : (first ++ [lineFeed]).count lineFeed = 1 := by
        rw [List.count_append, List.count_eq_zero_of_not_mem hfirst, List.count_singleton_self]
      rw [lines_line hfirst] at h
      cases number with
      | zero =>
          obtain rfl := Option.some.inj h
          exact ⟨[], List.prefix_append _ _, endsLine_nil, rfl, first, rfl, hfirst⟩
      | succ number =>
          obtain ⟨before, hline⟩ := ih h
          have hbehind := hline.behind (endsLine_append_lineFeed first)
          rw [hcount, Nat.add_comm] at hbehind
          exact ⟨first ++ [lineFeed] ++ before, hbehind⟩

end LineIndex

namespace TextFile

open LineIndex

/-- The records of the complete lines of a content. -/
def recordsOf (columns : Option CompiledPattern) (bytes : Bytes) : List Record :=
  (lines bytes).mapIdx (recordOfLine columns)

theorem length_recordsOf (columns : Option CompiledPattern) (bytes : Bytes) :
    (recordsOf columns bytes).length = bytes.count lineFeed := by
  rw [recordsOf, List.length_mapIdx, length_lines]

/-- The records are numbered from zero. -/
theorem id_getElem_recordsOf (columns : Option CompiledPattern) (bytes : Bytes) {i : Nat}
    (h : i < (recordsOf columns bytes).length) : (recordsOf columns bytes)[i].id = i := by
  simp only [recordsOf, List.getElem_mapIdx]
  rfl

variable {capacity count : Nat} {content : Bytes} {f : TextFile}

/-- The file hands out the records of its content. -/
theorem InStep.get_eq_recordsOf (h : InStep capacity content f count) {position : Nat}
    (hposition : position < count) :
    ∃ record, (recordsOf f.columns content)[position]? = some record ∧
      (f.get (.ok content) position).1 = .ok record := by
  obtain ⟨before, line, hline, hread⟩ := h.readLine_eq hposition
  obtain ⟨seen, hseen, -, rfl⟩ := h.exists_seen
  have hlt : position < (lines content).length := by
    rw [length_lines]
    exact Nat.lt_of_lt_of_le hposition (hseen.sublist.count_le lineFeed)
  have hlisted := List.getElem?_eq_getElem hlt
  obtain ⟨before', hline'⟩ := exists_isLine_of_lines hlisted
  rw [h.get_eq, hread, hline.unique hline']
  refine ⟨_, ?_, rfl⟩
  rw [recordsOf, List.getElem?_mapIdx, hlisted]
  rfl

/-- A refresh of a file in step with its content finds all complete lines. -/
theorem InStep.exists_refreshed (h : InStep capacity content f count) :
    ∃ f', f.refresh (.ok content) = (.ok (content.count lineFeed), f') ∧
      InStep capacity content f' (content.count lineFeed) ∧ f'.columns = f.columns := by
  obtain ⟨seen, hseen, hindex, rfl⟩ := h.exists_seen
  obtain ⟨anew, hgrown⟩ := refresh_ofBytes (.inl ((completeLines_isPrefix seen).trans hseen))
  rw [← hindex] at hgrown
  have hanswer : (f.refresh (.ok content)).1 = .ok (content.count lineFeed) :=
    congrArg Prod.fst hgrown
  have hrefresh : f.refresh (.ok content) =
      (.ok (content.count lineFeed), (f.refresh (.ok content)).2) := Prod.ext hanswer rfl
  have hattempt : InStep capacity (attempt (.ok content)).bytes f (seen.count lineFeed) := h
  exact ⟨_, hrefresh, hattempt.refreshed hrefresh, rfl⟩

/-- Opening a file takes in its content. -/
theorem exists_ofPath (path : String) (capacity : Nat) (content : Bytes) :
    ∃ f, ofPath path capacity (.ok content) = .ok f ∧
      InStep capacity content f (content.count lineFeed) ∧ f.columns = none := by
  have hempty : InStep capacity content ⟨path, .empty, .empty capacity, none⟩ 0 :=
    ⟨⟨[], List.nil_prefix, ofBytes_nil.symm, rfl⟩, .empty capacity _⟩
  obtain ⟨f, hrefresh, hstep, hcolumns⟩ := hempty.exists_refreshed
  refine ⟨f, ?_, hstep, hcolumns⟩
  rw [ofPath, hrefresh]
  rfl

end TextFile

end PatternScan
