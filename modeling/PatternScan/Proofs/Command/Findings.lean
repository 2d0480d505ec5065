import PatternScan.Command.Scan
import PatternScan.Proofs.Analysis.ParallelScan
import PatternScan.Proofs.Source.FileLines

/-!
# One pass over the lines of a file

What a scan is to find, told without workers: the lines asked for are those from a first one on, at
most so many of them, and each that matches is found once. The range that is submitted for a scan
holds just these lines.
-/

namespace PatternScan.Command

open Analysis (Context RecordResult ResultSet Settings)
open TextFile (recordsOf)

/-! ## One pass over the lines -/

/-- The lines asked for: those from `start` on, at most `count`. -/
def AnalyzeOptions.selected (options : AnalyzeOptions) (records : List Record) : List Record :=
  match options.count with
  | some count => (records.drop options.start).take count
  | none => records.drop options.start

/-- The position is one of those asked for. -/
def AnalyzeOptions.AsksFor (options : AnalyzeOptions) (position : Nat) : Prop :=
  options.start ≤ position ∧ ∀ count ∈ options.count, position < options.start + count

instance (options : AnalyzeOptions) (position : Nat) : Decidable (options.AsksFor position) :=
  inferInstanceAs (Decidable (_ ∧ _))

/-- The matching records in their order, each with its result. -/
def sequentialScan (context : Context) (records : List Record) : List (Record × RecordResult) :=
  records.filterMap fun record => (context.analyze? record).map (record, ·)

/-- What is left by a scan that printed what it found among so many lines. -/
def sequentialOutcome (style : RecordStyle) (count : Nat) (found : List (Record × RecordResult)) :
    Outcome where
  code := 0
  output := String.join (found.map fun (record, r) => recordText style record r)
  errors :=
    if style.json then ""
    else toString found.length ++ " matching records in " ++ toString count ++ " scanned lines" ++
      (if found.any fun f => f.2.hasDuplicateRole then
        " (some records carry more than one request/response/event role)" else "") ++ "\n"

/-! ## The range -/

section Range

variable {options : AnalyzeOptions} {records : List Record} {size : Nat}

theorem clampRange_le (options : AnalyzeOptions) (size : Nat) :
    (clampRange options size).1 + (clampRange options size).2 ≤ size := by
  simp only [clampRange]
  omega

/-- The range is what is asked for of the lines that are there. -/
theorem mem_clampRange_iff (options : AnalyzeOptions) (size position : Nat) :
    (clampRange options size).1 ≤ position ∧
        position < (clampRange options size).1 + (clampRange options size).2 ↔
      options.AsksFor position ∧ position < size := by
  have hrange : (clampRange options size).1 = min options.start size ∧
      (clampRange options size).2 =
        min (options.count.getD (size - min options.start size)) (size - min options.start size) :=
    ⟨rfl, rfl⟩
  rw [hrange.1, hrange.2, AnalyzeOptions.AsksFor]
  rcases Nat.le_total options.start size with hstart | hstart
  · rw [Nat.min_eq_left hstart]
    cases options.count <;> simp <;> omega
  · rw [Nat.min_eq_right hstart]
    omega

/-- The range holds the lines asked for. -/
theorem selected_eq (options : AnalyzeOptions) (records : List Record) :
    options.selected records =
      (records.drop (clampRange options records.length).1).take
        (clampRange options records.length).2 := by
  have hdrop : records.drop (min options.start records.length) = records.drop options.start := by
    rcases Nat.le_total options.start records.length with hstart | hstart
    · rw [Nat.min_eq_left hstart]
    · rw [Nat.min_eq_right hstart, List.drop_length, List.drop_of_length_le hstart]
  have hlength : (records.drop options.start).length =
      records.length - min options.start records.length := by
    rw [← hdrop, List.length_drop]
  rw [AnalyzeOptions.selected, clampRange]
  dsimp only
  rw [hdrop, ← hlength]
  cases options.count with
  | none => rw [Option.getD_none, Nat.min_self, List.take_length]
  | some count => rw [Option.getD_some, ← List.take_take, List.take_length]

theorem take_drop_eq_map {start count : Nat} (h : start + count ≤ records.length) :
    (records.drop start).take count =
      (List.range' start count).map fun p => records.getD p default := by
  refine List.ext_getElem (by simp; omega) fun i h₁ h₂ => ?_
  have hlt : start + i < records.length := by
    rw [List.length_map, List.length_range'] at h₂
    omega
  simp [hlt]

theorem filter_range_asksFor (options : AnalyzeOptions) (size : Nat) :
    ((List.range size).filter fun p => options.AsksFor p) =
      List.range' (clampRange options size).1 (clampRange options size).2 := by
  have hle := clampRange_le options size
  have hmem := mem_clampRange_iff options size
  obtain ⟨rest, hrest⟩ := Nat.exists_eq_add_of_le hle
  generalize clampRange options size = range at hmem hrest
  -- Nothing before the range is asked for, all of it, and nothing of what comes behind.
  have hsplit : List.range size = List.range' 0 range.1 ++
      (List.range' range.1 range.2 ++ List.range' (range.1 + range.2) rest) :=
    calc
      List.range size = List.range' 0 (range.1 + (range.2 + rest)) := by
        rw [List.range_eq_range', hrest, Nat.add_assoc]
      _ = List.range' 0 range.1 ++ List.range' (0 + range.1) (range.2 + rest) :=
        List.range'_append_1.symm
      _ = _ := by rw [Nat.zero_add, List.range'_append_1]
  have hbefore : ((List.range' 0 range.1).filter fun p => options.AsksFor p) = [] :=
    List.filter_eq_nil_iff.2 fun p hp hasks => by
      have hp := List.mem_range'_1.1 hp
      have hin := (hmem p).2 ⟨of_decide_eq_true hasks, by omega⟩
      omega
  have hwithin : ((List.range' range.1 range.2).filter fun p => options.AsksFor p) =
      List.range' range.1 range.2 :=
    List.filter_eq_self.2 fun p hp => decide_eq_true ((hmem p).1 (List.mem_range'_1.1 hp)).1
  have hbehind : ((List.range' (range.1 + range.2) rest).filter fun p => options.AsksFor p) = [] :=
    List.filter_eq_nil_iff.2 fun p hp hasks => by
      have hp := List.mem_range'_1.1 hp
      have hin := (hmem p).2 ⟨of_decide_eq_true hasks, by omega⟩
      omega
  rw [hsplit, List.filter_append, List.filter_append, hbefore, hwithin, hbehind, List.nil_append,
    List.append_nil]

end Range

/-! ## What is found -/

section Found

variable {context : Context} {record : Nat → Record} {positions : List Nat}

theorem map_snd_sequentialScan (context : Context) (record : Nat → Record) (start count : Nat) :
    (sequentialScan context ((List.range' start count).map record)).map Prod.snd =
      context.scan record start count := by
  rw [sequentialScan, List.map_filterMap, List.filterMap_map, Context.scan]
  refine List.filterMap_congr fun p _ => ?_
  simp [Function.comp_def]

/-- What is found are the matching records, each once and in order. -/
theorem map_id_sequentialScan (hid : ∀ p ∈ positions, (record p).id = p) :
    (sequentialScan context (positions.map record)).map (fun f => f.1.id) =
      positions.filter fun p => (context.analyze? (record p)).isSome := by
  induction positions with
  | nil => rfl
  | cons p rest ih =>
      have hrest := ih fun q hq => hid q (List.mem_cons_of_mem p hq)
      rw [sequentialScan] at hrest ⊢
      cases hfound : context.analyze? (record p) with
      | none => simpa [hfound] using hrest
      | some r =>
          have hp := hid p List.mem_cons_self
          simpa [hfound, hp] using hrest

theorem mem_sequentialScan {f : Record × RecordResult} {records : List Record}
    (h : f ∈ sequentialScan context records) : f.1 ∈ records ∧ f.2.id = f.1.id := by
  obtain ⟨record, hrecord, hf⟩ := List.mem_filterMap.1 h
  obtain ⟨r, hr, rfl⟩ := Option.map_eq_some_iff.1 hf
  obtain ⟨ms, -, rfl⟩ := Option.map_eq_some_iff.1 hr
  exact ⟨hrecord, rfl⟩

/-- The results found in ascending lines are in ascending order. -/
theorem ascending_sequentialScan (hid : ∀ p ∈ positions, (record p).id = p)
    (hpositions : positions.Pairwise (· < ·)) :
    ResultSet.Ascending ((sequentialScan context (positions.map record)).map Prod.snd) := by
  have hids : ((sequentialScan context (positions.map record)).map fun f => f.1.id) =
      positions.filter fun p => (context.analyze? (record p)).isSome := map_id_sequentialScan hid
  have hsame : ((sequentialScan context (positions.map record)).map Prod.snd).map RecordResult.id =
      (sequentialScan context (positions.map record)).map fun f => f.1.id := by
    rw [List.map_map]
    exact List.map_congr_left fun f hf => (mem_sequentialScan hf).2
  rw [ResultSet.Ascending, ← List.pairwise_map (f := RecordResult.id), hsame, hids]
  exact hpositions.filter _

end Found

/-! ## The lines of a file -/

section Lines

variable {options : AnalyzeOptions} {context : Context} {columns : Option CompiledPattern}
  {bytes : Bytes}

/-- The record at a position of a file. -/
def recordAt (columns : Option CompiledPattern) (bytes : Bytes) (position : Nat) : Record :=
  (recordsOf columns bytes).getD position default

/-- The positions of the matching lines among those asked for, in ascending order. -/
def AnalyzeOptions.matching (options : AnalyzeOptions) (pattern : CompiledPattern)
    (columns : Option CompiledPattern) (bytes : Bytes) : List Nat :=
  (List.range (bytes.count lineFeed)).filter fun p => options.AsksFor p &&
    (recordsOf columns bytes)[p]?.any fun record => (pattern.find? record.text).isSome

/-- The matching records among those asked for, each with its result. -/
def findings (options : AnalyzeOptions) (context : Context) (columns : Option CompiledPattern)
    (bytes : Bytes) : List (Record × RecordResult) :=
  sequentialScan context (options.selected (recordsOf columns bytes))

theorem recordAt_of_lt (columns : Option CompiledPattern) {position : Nat}
    (h : position < bytes.count lineFeed) :
    (recordsOf columns bytes)[position]? = some (recordAt columns bytes position) ∧
      (recordAt columns bytes position).id = position := by
  rw [← TextFile.length_recordsOf columns] at h
  have hget : recordAt columns bytes position = (recordsOf columns bytes)[position] := by
    simp [recordAt, h]
  rw [hget]
  exact ⟨List.getElem?_eq_getElem h, TextFile.id_getElem_recordsOf columns bytes h⟩

/-- The lines asked for, told by their positions. -/
theorem selected_recordsOf (options : AnalyzeOptions) (columns : Option CompiledPattern)
    (bytes : Bytes) :
    options.selected (recordsOf columns bytes) =
      (List.range' (clampRange options (bytes.count lineFeed)).1
        (clampRange options (bytes.count lineFeed)).2).map (recordAt columns bytes) := by
  rw [selected_eq, take_drop_eq_map (clampRange_le options _), TextFile.length_recordsOf]
  rfl

theorem lt_of_mem_clampRange {position : Nat}
    (h : position ∈ List.range' (clampRange options (bytes.count lineFeed)).1
      (clampRange options (bytes.count lineFeed)).2) : position < bytes.count lineFeed := by
  have hle := clampRange_le options (bytes.count lineFeed)
  have hrange := List.mem_range'_1.1 h
  omega

theorem findings_eq_scan (options : AnalyzeOptions) (context : Context)
    (columns : Option CompiledPattern) (bytes : Bytes) :
    (findings options context columns bytes).map Prod.snd =
      context.scan (recordAt columns bytes) (clampRange options (bytes.count lineFeed)).1
        (clampRange options (bytes.count lineFeed)).2 := by
  rw [findings, selected_recordsOf, map_snd_sequentialScan]

theorem ascending_findings :
    ResultSet.Ascending ((findings options context columns bytes).map Prod.snd) := by
  rw [findings, selected_recordsOf]
  exact ascending_sequentialScan (fun p hp => (recordAt_of_lt columns (lt_of_mem_clampRange hp)).2)
    List.pairwise_lt_range'

/-- Each finding is of a line of the file. -/
theorem mem_findings {f : Record × RecordResult}
    (h : f ∈ findings options context columns bytes) :
    f.2.id < bytes.count lineFeed ∧ (recordsOf columns bytes)[f.2.id]? = some f.1 := by
  obtain ⟨hrecord, hid⟩ := mem_sequentialScan h
  rw [selected_recordsOf] at hrecord
  obtain ⟨position, hposition, hsame⟩ := List.mem_map.1 hrecord
  have hlt := lt_of_mem_clampRange hposition
  obtain ⟨hlisted, hnumber⟩ := recordAt_of_lt columns hlt
  rw [hid, ← hsame, hnumber]
  exact ⟨hlt, hlisted⟩

/-- The number in the summary is that of the lines asked for. -/
theorem length_selected (options : AnalyzeOptions) (columns : Option CompiledPattern)
    (bytes : Bytes) :
    (options.selected (recordsOf columns bytes)).length =
      (clampRange options (bytes.count lineFeed)).2 := by
  rw [selected_recordsOf, List.length_map, List.length_range']

/-- The numbers of the lines found are those of the matching lines asked for, in ascending order. -/
theorem map_id_findings (options : AnalyzeOptions) (settings : Settings)
    (columns : Option CompiledPattern) (bytes : Bytes) :
    (findings options (.ofPattern pattern settings) columns bytes).map (fun f => f.1.id) =
      options.matching pattern columns bytes := by
  have hmatches : ∀ p ∈ List.range' (clampRange options (bytes.count lineFeed)).1
      (clampRange options (bytes.count lineFeed)).2,
      ((Context.ofPattern pattern settings).analyze? (recordAt columns bytes p)).isSome =
        (recordsOf columns bytes)[p]?.any fun record => (pattern.find? record.text).isSome := by
    intro p hp
    rw [(recordAt_of_lt columns (lt_of_mem_clampRange hp)).1, Context.analyze?, Option.isSome_map]
    rfl
  rw [findings, selected_recordsOf,
    map_id_sequentialScan fun p hp => (recordAt_of_lt columns (lt_of_mem_clampRange hp)).2,
    List.filter_congr hmatches, ← filter_range_asksFor, List.filter_filter]
  exact List.filter_congr fun p _ => Bool.and_comm _ _

end Lines

end PatternScan.Command
