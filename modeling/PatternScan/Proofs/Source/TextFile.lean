import PatternScan.Proofs.Source.LineIndex

/-!
# Lines and records of a file

The lines of an index lie end to end from the start of the file to the end of its last
complete line, so the sizes of the records make up all that is indexed. However a file has
grown or been replaced between refreshes, the index is that of its content.
-/

namespace PatternScan

namespace LineIndex

/-! ## Lines end to end -/

/-- The lines lie end to end, none of them empty, from the first offset up to the second. -/
def Tiles : Nat → List (Nat × Nat) → Nat → Prop
  | first, [], last => first = last
  | first, line :: rest, last => line.1 = first ∧ first < line.2 ∧ Tiles line.2 rest last

namespace Tiles

variable {first last : Nat} {lines : List (Nat × Nat)}

theorem le (h : Tiles first lines last) : first ≤ last := by
  induction lines generalizing first with
  | nil => exact Nat.le_of_eq h
  | cons line rest ih =>
      obtain ⟨-, hlt, hrest⟩ := h
      exact Nat.le_trans (Nat.le_of_lt hlt) (ih hrest)

theorem line_le (h : Tiles first lines last) {line : Nat × Nat} (hline : line ∈ lines) :
    line.1 ≤ line.2 ∧ line.2 ≤ last := by
  induction lines generalizing first with
  | nil => cases hline
  | cons other rest ih =>
      obtain ⟨hstart, hlt, hrest⟩ := h
      rcases List.mem_cons.1 hline with rfl | hline
      · exact ⟨hstart ▸ Nat.le_of_lt hlt, hrest.le⟩
      · exact ih hrest hline

/-- The lengths of lines that lie end to end add up. -/
theorem add_sum (h : Tiles first lines last) :
    first + (lines.map fun line => line.2 - line.1).sum = last := by
  induction lines generalizing first with
  | nil => exact h
  | cons line rest ih =>
      obtain ⟨rfl, hlt, hrest⟩ := h
      have hsum := ih hrest
      rw [List.map_cons, List.sum_cons]
      omega

end Tiles

/-- Lines of these lengths, from `offset` on. -/
def linesFrom (offset : Nat) : List Nat → List (Nat × Nat)
  | [] => []
  | length :: rest => (offset, offset + length) :: linesFrom (offset + length) rest

theorem length_linesFrom (offset : Nat) (lengths : List Nat) :
    (linesFrom offset lengths).length = lengths.length := by
  induction lengths generalizing offset with
  | nil => rfl
  | cons length rest ih => rw [linesFrom, List.length_cons, List.length_cons, ih]

theorem tiles_linesFrom (offset : Nat) {lengths : List Nat} (h : ∀ length ∈ lengths, 0 < length) :
    Tiles offset (linesFrom offset lengths) (lengths.foldl (· + ·) offset) := by
  induction lengths generalizing offset with
  | nil => rfl
  | cons length rest ih =>
      have hpos := h length List.mem_cons_self
      exact ⟨rfl, Nat.lt_add_of_pos_right hpos,
        ih _ fun other hother => h other (List.mem_cons_of_mem _ hother)⟩

/-- Each line ends where the next one starts, and the last one where they all end. -/
theorem getElem?_linesFrom (offset : Nat) (lengths : List Nat) (i : Nat) :
    (linesFrom offset lengths)[i]? = (startsFrom offset lengths)[i]?.map fun start =>
      (start, (startsFrom offset lengths)[i + 1]?.getD (lengths.foldl (· + ·) offset)) := by
  induction lengths generalizing offset i with
  | nil => rfl
  | cons length rest ih =>
      cases i with
      | zero => cases rest <;> rfl
      | succ i => exact ih (offset + length) i

theorem bounds?_ofBytes (bytes : Bytes) (i : Nat) :
    (ofBytes bytes).bounds? i = (linesFrom 0 (lineLengths 0 bytes))[i]? := by
  have hstarts := startsFrom_lineLengths 0 bytes
  simp only [Nat.zero_add, List.map_id'] at hstarts
  rw [getElem?_linesFrom, hstarts, foldl_lineLengths, Nat.zero_add]
  rfl

end LineIndex

namespace TextFile

open LineIndex

/-! ## Records -/

/-- A line of the content is read as it lies there. -/
theorem readLine_eq {f : TextFile} {bytes : Bytes} {id : RecordId} {line : Nat × Nat}
    (hbounds : f.index.bounds? id = some line) (hline : line.1 ≤ line.2)
    (hle : line.2 ≤ bytes.length) :
    f.readLine (.ok bytes) id =
      .ok (recordOfLine f.columns id ((bytes.drop line.1).take (line.2 - line.1))) := by
  have hlong : ¬ ((bytes.drop line.1).take (line.2 - line.1)).length < line.2 - line.1 := by
    rw [List.length_take, List.length_drop]
    omega
  rw [readLine, hbounds]
  exact (if_neg (Nat.not_lt.2 hline)).trans (if_neg hlong)

/-- Lines that lie end to end inside the content are records whose sizes add up. -/
theorem exists_records {f : TextFile} {bytes : Bytes} {lines : List (Nat × Nat)} {last : Nat}
    (hbounds : ∀ i, f.index.bounds? i = lines[i]?) (htiles : Tiles 0 lines last)
    (hlast : last ≤ bytes.length) :
    ∃ records : List Record, records.length = lines.length ∧
      (∀ i (h : i < records.length), f.readLine (.ok bytes) i = .ok records[i]) ∧
      (records.map Record.size).sum = last := by
  refine ⟨lines.mapIdx fun i line =>
    recordOfLine f.columns i ((bytes.drop line.1).take (line.2 - line.1)), ?_, ?_, ?_⟩
  · rw [List.length_mapIdx]
  · intro i h
    rw [List.length_mapIdx] at h
    obtain ⟨hline, hle⟩ := htiles.line_le (List.getElem_mem h)
    rw [readLine_eq ((hbounds i).trans (List.getElem?_eq_getElem h)) hline
      (Nat.le_trans hle hlast), List.getElem_mapIdx]
  · have hsizes : (lines.mapIdx fun i line => recordOfLine f.columns i
        ((bytes.drop line.1).take (line.2 - line.1))).map Record.size =
          lines.map fun line => line.2 - line.1 := by
      refine List.ext_getElem (by simp) fun i h h' => ?_
      rw [List.length_map] at h'
      have hline := htiles.line_le (List.getElem_mem h')
      simp only [List.getElem_map, List.getElem_mapIdx, recordOfLine, List.length_take,
        List.length_drop]
      omega
    rw [hsizes, ← htiles.add_sum, Nat.zero_add]

/-! ## Histories -/

/-- A file brought up to one content after another, each of which may follow the one before
it. -/
inductive History (opened : TextFile) : List Bytes → TextFile → Prop where
  | opened : History opened [] opened
  | refreshed (contents : List Bytes) (f f' : TextFile) (a : Attempt) (count : Nat)
      (h : History opened contents f) (hfollows : Follows (contents.getLastD []) a.bytes)
      (hrefresh : f.refreshThrough a = (.ok count, f')) :
      History opened (contents ++ [a.bytes]) f'

/-- One refresh more of a file whose index is that of its content. -/
theorem index_of_refreshThrough {f f' : TextFile} {old : Bytes} {a : Attempt} {count : Nat}
    (hindex : f.index = ofBytes old) (hfollows : Follows old a.bytes)
    (hrefresh : f.refreshThrough a = (.ok count, f')) :
    f'.index = ofBytes a.bytes ∧ count = a.bytes.count lineFeed := by
  obtain ⟨hanswer, rfl⟩ := Prod.mk.inj hrefresh
  exact index_of_refresh hfollows (Prod.ext (hindex ▸ hanswer) (hindex ▸ rfl))

theorem History.index_eq {opened f : TextFile} {contents : List Bytes}
    (h : History opened contents f) (hopened : opened.index = .empty) :
    f.index = ofBytes (contents.getLastD []) := by
  induction h with
  | opened => exact hopened
  | refreshed contents f f' a count h hfollows hrefresh ih =>
      rw [List.getLastD_concat]
      exact (index_of_refreshThrough ih hfollows hrefresh).1

theorem completeLines_length_le (bytes : Bytes) : (completeLines bytes).length ≤ bytes.length :=
  (completeLines_isPrefix bytes).length_le

/-- After any history of contents, a refresh succeeds on a content that may follow if it can be
read, and one that succeeds leaves the index that the content has by itself: where the complete
lines start, how far they reach, and the first bytes of them. It tells the number of line feeds.
The lines lie end to end over the part indexed, and the sizes of the records add up to it. -/
theorem refresh_eq_index_of_content {opened f : TextFile} {contents : List Bytes} {new : Bytes}
    (hopened : opened.index = .empty) (h : History opened contents f)
    (hfollows : Follows (contents.getLastD []) new) :
    (f.refresh (.ok new)).1 = .ok (new.count lineFeed) ∧
    ∀ (a : Attempt) (count : Nat) (f' : TextFile), a.bytes = new →
      f.refreshThrough a = (.ok count, f') →
      f'.index.starts = lineStarts new ∧
      f'.index.indexedTo = (completeLines new).length ∧
      f'.index.head = new.take (min headSample f'.index.indexedTo) ∧
      count = new.count lineFeed ∧
      (∃ lines : List (Nat × Nat), lines.length = count ∧
        (∀ i, f'.index.bounds? i = lines[i]?) ∧ Tiles 0 lines f'.index.indexedTo) ∧
      (∃ records : List Record, records.length = count ∧
        (∀ i (h : i < records.length), f'.readLine (.ok new) i = .ok records[i]) ∧
        (records.map Record.size).sum = f'.index.indexedTo) := by
  have hindex := h.index_eq hopened
  constructor
  · obtain ⟨anew, hgrown⟩ := refresh_ofBytes hfollows
    rw [← hindex] at hgrown
    exact congrArg Prod.fst hgrown
  · rintro a count f' rfl hrefresh
    obtain ⟨hindex', rfl⟩ := index_of_refreshThrough hindex hfollows hrefresh
    have hlength : (linesFrom 0 (lineLengths 0 a.bytes)).length = a.bytes.count lineFeed := by
      rw [length_linesFrom, length_lineLengths]
    have hbounds (i : Nat) : f'.index.bounds? i = (linesFrom 0 (lineLengths 0 a.bytes))[i]? := by
      rw [hindex', bounds?_ofBytes]
    have htiles : Tiles 0 (linesFrom 0 (lineLengths 0 a.bytes)) (completeLines a.bytes).length := by
      have hpos (length : Nat) (h : length ∈ lineLengths 0 a.bytes) : 0 < length :=
        pos_of_mem_lineLengths h
      have htiles := tiles_linesFrom 0 hpos
      rwa [foldl_lineLengths, Nat.zero_add] at htiles
    have hrecords := exists_records hbounds htiles (completeLines_length_le a.bytes)
    rw [hlength] at hrecords
    rw [hindex']
    exact ⟨rfl, rfl, rfl, rfl, ⟨_, hlength, fun i => hindex' ▸ hbounds i, htiles⟩, hrecords⟩

/-- A file that nothing has been read of. -/
def logFile : TextFile := ⟨"f.log", .empty, .empty 4, none⟩

/-- The file after a line with the beginning of another one was read, and then both complete. -/
def logFileGrown : TextFile :=
  ((logFile.refresh (.ok [97, 10, 98])).2.refresh (.ok [97, 10, 98, 99, 10])).2

theorem refresh_logFile :
    (logFileGrown.refresh (.ok [120, 121, 10, 122])).1 = .ok 1 ∧
      (logFileGrown.refresh (.ok [120, 121, 10, 122])).2.index.starts = [0] ∧
      (logFileGrown.refresh (.ok [120, 121, 10, 122])).2.index.indexedTo = 3 := by
  have hfirst : History logFile [[97, 10, 98]] (logFile.refresh (.ok [97, 10, 98])).2 :=
    .refreshed [] logFile _ ⟨[97, 10, 98], none⟩ 1 .opened (by decide) rfl
  have hgrown : History logFile [[97, 10, 98], [97, 10, 98, 99, 10]] logFileGrown :=
    .refreshed [[97, 10, 98]] _ _ ⟨[97, 10, 98, 99, 10], none⟩ 2 hfirst (by decide) rfl
  have hfollows : Follows [97, 10, 98, 99, 10] [120, 121, 10, 122] := by decide
  obtain ⟨hcount, hindex⟩ := refresh_eq_index_of_content rfl hgrown hfollows
  obtain ⟨hstarts, hindexed, -⟩ := hindex ⟨[120, 121, 10, 122], none⟩ 1 _ rfl rfl
  exact ⟨hcount, hstarts.trans (by decide), hindexed.trans (by decide)⟩

end TextFile

end PatternScan
