import PatternScan.Proofs.Source.TextFile

/-!
# Remembered records

A complete line stays what it is when more is written behind it, so a record that is
remembered from one read of a growing file is the record that another read would give. A file
hands out the same records as one without a cache, and none of a line that was unfinished
when it was last refreshed.
-/

namespace PatternScan

/-! ## Remembered values -/

namespace RecentCache

variable {K V : Type} {cache : RecentCache K V} {capacity : Nat} {P : K → V → Prop}

/-- The cache has this capacity and keeps to it, and each remembered value is one that its key
may have. -/
structure Remembers (cache : RecentCache K V) (capacity : Nat) (P : K → V → Prop) : Prop where
  capacity_eq : cache.capacity = capacity
  fits : cache.entries.length ≤ capacity
  sound : ∀ e ∈ cache.entries, P e.1 e.2

namespace Remembers

theorem empty (capacity : Nat) (P : K → V → Prop) :
    (empty capacity : RecentCache K V).Remembers (max capacity 1) P :=
  ⟨rfl, Nat.zero_le _, nofun⟩

theorem of_clear (cache : RecentCache K V) (P : K → V → Prop) :
    cache.clear.Remembers cache.capacity P :=
  ⟨rfl, Nat.zero_le _, nofun⟩

theorem clear (h : cache.Remembers capacity P) (Q : K → V → Prop) :
    cache.clear.Remembers capacity Q :=
  h.capacity_eq ▸ of_clear cache Q

theorem mono {Q : K → V → Prop} (h : cache.Remembers capacity P)
    (himp : ∀ key value, P key value → Q key value) : cache.Remembers capacity Q :=
  ⟨h.capacity_eq, h.fits, fun e he => himp _ _ (h.sound e he)⟩

/-- A value that is found is one that the key may have, and nothing is lost by finding it. -/
theorem lookup [BEq K] [LawfulBEq K] (h : cache.Remembers capacity P) {key : K} {value : V}
    {after : RecentCache K V} (hfound : cache.lookup key = (some value, after)) :
    P key value ∧ after.Remembers capacity P := by
  rw [RecentCache.lookup] at hfound
  split at hfound
  · next e hentry =>
      obtain ⟨hvalue, rfl⟩ := Prod.mk.inj hfound
      obtain rfl := Option.some.inj hvalue
      have hmem := List.mem_of_find?_eq_some hentry
      have hkey := List.find?_some hentry
      -- The entry that moves to the front is no longer in its old place.
      have hothers : (cache.entries.filter fun e => !(e.1 == key)).length < cache.entries.length :=
        List.length_filter_lt_length_iff_exists.2 ⟨e, hmem, by simp [hkey]⟩
      refine ⟨eq_of_beq hkey ▸ h.sound e hmem, h.capacity_eq, ?_, fun other hother => ?_⟩
      · exact Nat.le_trans hothers h.fits
      · rcases List.mem_cons.1 hother with rfl | hother
        · exact h.sound _ hmem
        · exact h.sound other (List.mem_of_mem_filter hother)
  · cases (Prod.mk.inj hfound).1

theorem put [BEq K] (h : cache.Remembers capacity P) {key : K} {value : V} (hvalue : P key value) :
    (cache.put key value).Remembers capacity P := by
  refine ⟨h.capacity_eq, h.capacity_eq ▸ List.length_take_le _ _, fun e he => ?_⟩
  rcases List.mem_cons.1 (List.mem_of_mem_take he) with rfl | he
  · exact hvalue
  · exact h.sound e (List.mem_of_mem_filter he)

end Remembers

end RecentCache

/-! ## Lines of a content that grows -/

namespace LineIndex

variable {bytes before line : Bytes} {number : Nat}

/-- A complete line, its line feed included, with the number of complete lines before it. -/
structure IsLine (bytes : Bytes) (number : Nat) (before line : Bytes) : Prop where
  within : before ++ line <+: bytes
  endsLine : EndsLine before
  count_eq : before.count lineFeed = number
  exists_body : ∃ body, line = body ++ [lineFeed] ∧ lineFeed ∉ body

/-- A complete line stays what it is when more is written behind it. -/
theorem IsLine.of_prefix {more : Bytes} (h : IsLine bytes number before line)
    (hmore : bytes <+: more) : IsLine more number before line :=
  { h with within := h.within.trans hmore }

theorem EndsLine.append {done rest : Bytes} (hdone : EndsLine done) (hrest : EndsLine rest) :
    EndsLine (done ++ rest) := by
  intro b hb
  rw [List.getLast?_append, Option.or_eq_some_iff] at hb
  rcases hb with hb | ⟨-, hb⟩
  · exact hrest b hb
  · exact hdone b hb

/-- The lines behind complete ones come after them. -/
theorem IsLine.behind {done : Bytes} (hdone : EndsLine done)
    (h : IsLine bytes number before line) :
    IsLine (done ++ bytes) (done.count lineFeed + number) (done ++ before) line where
  within := by
    rw [List.append_assoc, List.prefix_append_right_inj]
    exact h.within
  endsLine := hdone.append h.endsLine
  count_eq := by rw [List.count_append, h.count_eq]
  exists_body := h.exists_body

/-- A content starts with at most one number of complete lines. -/
theorem eq_of_count_eq {before' : Bytes} (h : EndsLine before) (h' : EndsLine before')
    (hcount : before.count lineFeed = before'.count lineFeed) (hwithin : before <+: bytes)
    (hwithin' : before' <+: bytes) : before = before' := by
  have hnil {done more : Bytes} (hends : EndsLine (done ++ more))
      (hmore : (done ++ more).count lineFeed = done.count lineFeed) : done = done ++ more := by
    rw [List.count_append, Nat.add_eq_left, List.count_eq_zero] at hmore
    by_contra hne
    have hne : more ≠ [] := by simpa using hne
    have hlast := hends (more.getLast hne)
      (by rw [List.getLast?_append, List.getLast?_eq_some_getLast hne]; rfl)
    exact hmore (hlast ▸ List.getLast_mem hne)
  rcases List.prefix_or_prefix_of_prefix hwithin hwithin' with ⟨more, rfl⟩ | ⟨more, rfl⟩
  · exact hnil h' hcount.symm
  · exact (hnil h hcount).symm

/-- There is at most one line with the number. -/
theorem IsLine.unique {before' line' : Bytes} (h : IsLine bytes number before line)
    (h' : IsLine bytes number before' line') : line = line' := by
  obtain ⟨body, rfl, hbody⟩ := h.exists_body
  obtain ⟨body', rfl, hbody'⟩ := h'.exists_body
  obtain ⟨rest, hwithin⟩ := h.within
  obtain ⟨rest', hwithin'⟩ := h'.within
  obtain rfl := eq_of_count_eq h.endsLine h'.endsLine (h.count_eq.trans h'.count_eq.symm)
    ((List.prefix_append _ _).trans h.within) ((List.prefix_append _ _).trans h'.within)
  have hsame := hwithin.trans hwithin'.symm
  rw [List.append_assoc, List.append_assoc before] at hsame
  have hrest := List.append_cancel_left hsame
  have hlengths := congrArg (lineLengths 0) hrest
  rw [lineLengths_line hbody, lineLengths_line hbody', List.cons.injEq] at hlengths
  refine (List.append_inj hrest ?_).1
  rw [List.length_append, List.length_append]
  simpa using hlengths.1

/-- Each of as many lines as there are line feeds lies where the index of the content has it. -/
theorem exists_isLine (offset : Nat) (h : number < bytes.count lineFeed) :
    ∃ before line, IsLine bytes number before line ∧
      (linesFrom offset (lineLengths 0 bytes))[number]? =
        some (offset + before.length, offset + before.length + line.length) := by
  induction bytes using lineInduction generalizing offset number with
  | unfinished line hline => simp [List.count_eq_zero_of_not_mem hline] at h
  | line first rest hfirst ih =>
      have hcount : (first ++ [lineFeed]).count lineFeed = 1 := by
        rw [List.count_append, List.count_eq_zero_of_not_mem hfirst, List.count_singleton_self]
      rw [lineLengths_line hfirst, linesFrom]
      cases number with
      | zero =>
          have hbegins : IsLine (first ++ [lineFeed] ++ rest) 0 [] (first ++ [lineFeed]) :=
            ⟨List.prefix_append _ _, endsLine_nil, rfl, first, rfl, hfirst⟩
          exact ⟨[], first ++ [lineFeed], hbegins, by simp⟩
      | succ number =>
          rw [List.count_append, hcount, Nat.add_comm 1, Nat.add_lt_add_iff_right] at h
          obtain ⟨before, line, hline, hbounds⟩ := ih (offset + (0 + (first.length + 1))) h
          have hbehind := hline.behind (endsLine_append_lineFeed first)
          rw [hcount, Nat.add_comm] at hbehind
          refine ⟨first ++ [lineFeed] ++ before, line, hbehind, ?_⟩
          rw [List.getElem?_cons_succ, hbounds, List.length_append, List.length_append,
            List.length_singleton, Option.some.injEq, Prod.mk.injEq]
          omega

end LineIndex

/-! ## A file that grows -/

namespace TextFile

open LineIndex RecentCache

variable {path : String} {capacity count : Nat} {content : Bytes} {f : TextFile}

/-- What may happen to a file that is open, in any order: more is written behind its content, it
is refreshed, a record is asked for, and a column pattern is set. The number is what the last
refresh told. -/
inductive Use (path : String) (capacity : Nat) : Bytes → TextFile → Nat → Prop where
  | opened (content : Bytes) (f : TextFile) (h : ofPath path capacity (.ok content) = .ok f) :
      Use path capacity content f f.index.lineCount
  | written (content : Bytes) (f : TextFile) (count : Nat) (more : Bytes)
      (h : Use path capacity content f count) : Use path capacity (content ++ more) f count
  | refreshed (f f' : TextFile) (count count' : Nat) (a : Attempt)
      (h : Use path capacity a.bytes f count) (hrefresh : f.refreshThrough a = (.ok count', f')) :
      Use path capacity a.bytes f' count'
  | asked (content : Bytes) (f : TextFile) (count position : Nat)
      (h : Use path capacity content f count) :
      Use path capacity content (f.get (.ok content) position).2 count
  | split (content : Bytes) (f f' : TextFile) (count : Nat) (pattern : String)
      (h : Use path capacity content f count) (hcolumns : f.withColumns pattern = .ok f') :
      Use path capacity content f' count

/-- The record is that of a line that was complete at the last refresh. -/
def IsSeen (content : Bytes) (columns : Option CompiledPattern) (count : Nat) (id : RecordId)
    (record : Record) : Prop :=
  id < count ∧ ∃ before line, IsLine content id before line ∧
    record = recordOfLine columns id line

/-- The index is that of some first part of the content, and the records remembered are those of
its lines. -/
structure InStep (capacity : Nat) (content : Bytes) (f : TextFile) (count : Nat) : Prop where
  exists_seen : ∃ seen, seen <+: content ∧ f.index = ofBytes seen ∧ count = seen.count lineFeed
  cache : f.cache.Remembers (max capacity 1) (IsSeen content f.columns count)

theorem InStep.lineCount_eq (h : InStep capacity content f count) : f.index.lineCount = count := by
  obtain ⟨seen, -, hindex, rfl⟩ := h.exists_seen
  rw [hindex, lineCount, ofBytes, length_lineStarts]

/-- Reading a line of the index reads it as it was when it was indexed. -/
theorem InStep.readLine_eq (h : InStep capacity content f count) {id : RecordId}
    (hid : id < count) :
    ∃ before line, IsLine content id before line ∧
      f.readLine (.ok content) id = .ok (recordOfLine f.columns id line) := by
  obtain ⟨seen, hseen, hindex, rfl⟩ := h.exists_seen
  obtain ⟨before, line, hline, hbounds⟩ := exists_isLine 0 hid
  have hwithin := hline.of_prefix hseen
  obtain ⟨rest, hcontent⟩ := hwithin.within
  refine ⟨before, line, hwithin, ?_⟩
  rw [← bounds?_ofBytes, ← hindex, Nat.zero_add] at hbounds
  have hraw : (content.drop before.length).take line.length = line := by
    rw [← hcontent, List.append_assoc, List.drop_left, List.take_left]
  have hle : before.length + line.length ≤ content.length := by
    rw [← List.length_append]
    exact hwithin.within.length_le
  rw [TextFile.readLine_eq hbounds (Nat.le_add_right _ _) hle, Nat.add_sub_cancel_left, hraw]

theorem InStep.readLine_eq_error (h : InStep capacity content f count) {id : RecordId}
    (hid : count ≤ id) : f.readLine (.ok content) id = .error (.lineOutOfRange id) := by
  obtain ⟨seen, -, hindex, rfl⟩ := h.exists_seen
  have hbounds : f.index.bounds? id = none := by
    rw [hindex, bounds?_ofBytes, List.getElem?_eq_none]
    rwa [length_linesFrom, length_lineLengths]
  rw [readLine, hbounds]

/-- A record that is read is that of a line seen. -/
theorem InStep.isSeen_of_readLine (h : InStep capacity content f count) {id : RecordId}
    {record : Record} (hread : f.readLine (.ok content) id = .ok record) :
    IsSeen content f.columns count id record := by
  rcases Nat.lt_or_ge id count with hid | hid
  · obtain ⟨before, line, hline, hline_read⟩ := h.readLine_eq hid
    exact ⟨hid, before, line, hline, Except.ok.inj (hread.symm.trans hline_read)⟩
  · cases (h.readLine_eq_error hid).symm.trans hread

/-- A record that is asked for is the one that the file holds, remembered or not. -/
theorem InStep.get_eq (h : InStep capacity content f count) (id : RecordId) :
    (f.get (.ok content) id).1 = f.readLine (.ok content) id := by
  rw [get]
  split
  · next record cache hfound =>
      obtain ⟨⟨hid, before, line, hline, rfl⟩, -⟩ := h.cache.lookup hfound
      obtain ⟨before', line', hline', hread⟩ := h.readLine_eq hid
      rw [hread, hline.unique hline']
  · split <;> rename_i hread <;> exact hread.symm

/-! ### Asking for a record -/

theorem columns_get (f : TextFile) (reading : Except FileFault Bytes) (position : Nat) :
    (f.get reading position).2.columns = f.columns := by
  rw [get]
  split
  · rfl
  · split <;> rfl

theorem index_get (f : TextFile) (reading : Except FileFault Bytes) (position : Nat) :
    (f.get reading position).2.index = f.index := by
  rw [get]
  split
  · rfl
  · split <;> rfl

/-- Asking for a record remembers no other record than the one read. -/
theorem remembers_get {P : RecordId → Record → Prop} {reading : Except FileFault Bytes}
    {position : Nat}
    (hcache : f.cache.Remembers capacity P)
    (hread : ∀ record, f.readLine reading position = .ok record → P position record) :
    (f.get reading position).2.cache.Remembers capacity P := by
  rw [get]
  split
  · next record cache hfound => exact (hcache.lookup hfound).2
  · split
    · next record hrecord => exact hcache.put (hread record hrecord)
    · exact hcache

/-- A refresh forgets the records just if it begins the index anew. -/
theorem cache_refreshThrough (f : TextFile) (a : Attempt) :
    (f.refreshThrough a).2.cache =
      if (f.index.refresh a).2.anew then f.cache.clear else f.cache := rfl

/-! ### Each step keeps in step -/

theorem InStep.asked (h : InStep capacity content f count) (id : RecordId) :
    InStep capacity content (f.get (.ok content) id).2 count := by
  refine ⟨index_get f _ id ▸ h.exists_seen, ?_⟩
  rw [columns_get]
  exact remembers_get h.cache fun record hread => h.isSeen_of_readLine hread

theorem InStep.written (h : InStep capacity content f count) (more : Bytes) :
    InStep capacity (content ++ more) f count := by
  obtain ⟨seen, hseen, hindex⟩ := h.exists_seen
  have hmore := List.prefix_append content more
  refine ⟨⟨seen, hseen.trans hmore, hindex⟩, h.cache.mono ?_⟩
  rintro id record ⟨hid, before, line, hline, hrecord⟩
  exact ⟨hid, before, line, hline.of_prefix hmore, hrecord⟩

theorem InStep.refreshed {f' : TextFile} {count' : Nat} {a : Attempt}
    (h : InStep capacity a.bytes f count) (hrefresh : f.refreshThrough a = (.ok count', f')) :
    InStep capacity a.bytes f' count' := by
  obtain ⟨seen, hseen, hindex, rfl⟩ := h.exists_seen
  have hfollows : Follows seen a.bytes := .inl ((completeLines_isPrefix seen).trans hseen)
  obtain ⟨hindex', rfl⟩ := index_of_refreshThrough hindex hfollows hrefresh
  refine ⟨⟨a.bytes, List.prefix_refl _, hindex', rfl⟩, ?_⟩
  obtain rfl : (f.refreshThrough a).2 = f' := congrArg Prod.snd hrefresh
  rw [cache_refreshThrough]
  split
  · exact h.cache.clear _
  · refine h.cache.mono ?_
    rintro id record ⟨hid, hline⟩
    exact ⟨Nat.lt_of_lt_of_le hid (hseen.sublist.count_le _), hline⟩

theorem inStep_opened (h : ofPath path capacity (.ok content) = .ok f) :
    InStep capacity content f f.index.lineCount := by
  have hempty : InStep capacity content ⟨path, .empty, .empty capacity, none⟩ 0 :=
    ⟨⟨[], List.nil_prefix, ofBytes_nil.symm, rfl⟩, .empty capacity _⟩
  rw [ofPath] at h
  cases hrefresh : refresh ⟨path, .empty, .empty capacity, none⟩ (.ok content) with
  | mk answer f' =>
      rw [hrefresh] at h
      cases answer with
      | error fault => cases h
      | ok count =>
          obtain rfl := Except.ok.inj h
          have hopened := InStep.refreshed (a := attempt (.ok content)) hempty hrefresh
          rwa [hopened.lineCount_eq]

theorem InStep.split {f' : TextFile} {pattern : String} (h : InStep capacity content f count)
    (hcolumns : f.withColumns pattern = .ok f') : InStep capacity content f' count := by
  rw [withColumns] at hcolumns
  split at hcolumns
  · obtain rfl := Except.ok.inj hcolumns
    exact ⟨h.exists_seen, h.cache.clear _⟩
  · cases hcolumns

theorem Use.inStep (h : Use path capacity content f count) : InStep capacity content f count := by
  induction h with
  | opened content f h => exact inStep_opened h
  | written content f count more h ih => exact ih.written more
  | refreshed f f' count count' a h hrefresh ih => exact ih.refreshed hrefresh
  | asked content f count position h ih => exact ih.asked position
  | split content f f' count pattern h hcolumns ih => exact ih.split hcolumns

/-! ## What is handed out -/

/-- The record of a line: its text is the line without the line feeds and carriage returns at its
end, its size that of the whole line. -/
theorem recordOfLine_eq (columns : Option CompiledPattern) (id : RecordId) (line : Bytes) :
    ∃ body ending, line = body ++ ending ∧
      (∀ b ∈ ending, b = lineFeed ∨ b = carriageReturn) ∧
      (∀ b, body.getLast? = some b → b ≠ lineFeed ∧ b ≠ carriageReturn) ∧
      recordOfLine columns id line = ⟨id, Text.Utf8.decodeLossy body, line.length, none,
        splitFields columns (Text.Utf8.decodeLossy body)⟩ := by
  refine ⟨stripEnd line,
    (line.reverse.takeWhile fun b => b == lineFeed || b == carriageReturn).reverse, ?_, ?_, ?_, rfl⟩
  · rw [stripEnd, ← List.reverse_append, List.takeWhile_append_dropWhile, List.reverse_reverse]
  · intro b hb
    simpa using List.mem_takeWhile_imp (List.mem_reverse.1 hb)
  · intro b hb
    rw [stripEnd, List.getLast?_reverse] at hb
    have hhead := List.head?_dropWhile_not (fun b => b == lineFeed || b == carriageReturn)
      line.reverse
    rw [hb] at hhead
    simpa using hhead

/-- After any use of a file that only grows, a record that is asked for is the one that reading
the file again gives. It is there just if its number is below that of the lines at the last
refresh, and is then the record of the line that stands there now: its size is that of the line,
its text the line without the line feeds and carriage returns at its end, and its fields are
those of the text. No more records are remembered than there is room for. -/
theorem get_reads_complete_lines (h : Use path capacity content f count) (id : RecordId) :
    ((∃ record, (f.get (.ok content) id).1 = .ok record) ↔ id < count) ∧
    (f.get (.ok content) id).1 = f.readLine (.ok content) id ∧
    (id < count → ∃ before line body ending, IsLine content id before line ∧
      line = body ++ ending ∧
      (∀ b ∈ ending, b = lineFeed ∨ b = carriageReturn) ∧
      (∀ b, body.getLast? = some b → b ≠ lineFeed ∧ b ≠ carriageReturn) ∧
      (f.get (.ok content) id).1 = .ok ⟨id, Text.Utf8.decodeLossy body, line.length, none,
        splitFields f.columns (Text.Utf8.decodeLossy body)⟩) ∧
    f.cache.entries.length ≤ max capacity 1 := by
  have hstep := h.inStep
  rw [hstep.get_eq]
  refine ⟨⟨fun ⟨record, hread⟩ => ?_, fun hid => ?_⟩, rfl, fun hid => ?_, hstep.cache.fits⟩
  · by_contra hid
    cases (hstep.readLine_eq_error (Nat.le_of_not_lt hid)).symm.trans hread
  · obtain ⟨before, line, -, hread⟩ := hstep.readLine_eq hid
    exact ⟨_, hread⟩
  · obtain ⟨before, line, hline, hread⟩ := hstep.readLine_eq hid
    obtain ⟨body, ending, hsplit, hending, hbody, hrecord⟩ := recordOfLine_eq f.columns id line
    exact ⟨before, line, body, ending, hline, hsplit, hending, hbody, hrecord ▸ hread⟩

/-- A file of which the second line is not finished yet, with room for one record. -/
def growingFile : TextFile := (refresh ⟨"f.log", .empty, .empty 0, none⟩ (.ok [97, 10, 98])).2

/-- The file after both records were asked for, and one of them once more when the second line
was finished. -/
def askedFile : TextFile :=
  ((growingFile.get (.ok [97, 10, 98]) 0).2.get (.ok [97, 10, 98]) 1).2

theorem get_reads_complete_lines_growing :
    (∃ record, (askedFile.get (.ok [97, 10, 98, 99, 13, 10]) 0).1 = .ok record) ∧
    (¬ ∃ record, (askedFile.get (.ok [97, 10, 98, 99, 13, 10]) 1).1 = .ok record) ∧
    ((askedFile.refresh (.ok [97, 10, 98, 99, 13, 10])).2.get (.ok [97, 10, 98, 99, 13, 10]) 1).1 =
      .ok (Record.mk 1 "bc" 4 none [⟨"payload", ⟨0, 1⟩⟩]) := by
  have hopened : Use "f.log" 0 [97, 10, 98] growingFile 1 := .opened _ _ rfl
  have hasked : Use "f.log" 0 [97, 10, 98] askedFile 1 := .asked _ _ _ 1 (.asked _ _ _ 0 hopened)
  have hwritten : Use "f.log" 0 [97, 10, 98, 99, 13, 10] askedFile 1 :=
    .written _ _ _ [99, 13, 10] hasked
  have hrefreshed : Use "f.log" 0 [97, 10, 98, 99, 13, 10]
      (askedFile.refresh (.ok [97, 10, 98, 99, 13, 10])).2 2 :=
    .refreshed _ _ _ 2 ⟨[97, 10, 98, 99, 13, 10], none⟩ hwritten rfl
  obtain ⟨hfirst, -⟩ := get_reads_complete_lines hwritten 0
  obtain ⟨hsecond, -⟩ := get_reads_complete_lines hwritten 1
  obtain ⟨-, hread, -⟩ := get_reads_complete_lines hrefreshed 1
  exact ⟨hfirst.2 (by decide), fun h => absurd (hsecond.1 h) (by decide), hread.trans rfl⟩

end TextFile

end PatternScan
