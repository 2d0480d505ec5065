import PatternScan.Command.Run
import PatternScan.Proofs.Analysis.Settling
import PatternScan.Proofs.Command.PrintedRecord

/-!
# A scan on the command line is a sequential scan

A scan that does not follow its file prints what one pass over the lines asked for would print: the
number and the text of each of them that matches. Neither the workers, in whatever order they go on,
nor the size of a chunk, nor what is remembered of the file, can be seen in what it leaves, as long
as the machine can make the pool of workers and the room for records at all.
-/

namespace PatternScan.Command

open Analysis (Context Dispatch Execution Moment Notification RecordResult ResultSet Submission)
open TextFile (recordsOf)

/-! ## The request -/

section Request

variable {config : Config} {options : AnalyzeOptions} {terminal : Terminal} {bytes : Bytes}
  {pattern : CompiledPattern} {columns : Option CompiledPattern}

/-- The request that is made of a file with so many lines. -/
def jobOf (config : Config) (options : AnalyzeOptions) (pattern : CompiledPattern) (size : Nat) :
    Analysis.Job where
  context := .ofPattern pattern config.requestSettings
  chunkSize := config.requestSettings.chunkSize
  workers := min (max (config.effectiveWorkers options.workers) 1)
    (max config.analysis.maxWorkers 1)
  range := ⟨(clampRange options size).1, (clampRange options size).1 + (clampRange options size).2⟩
  continuous := options.follow

/-- The request passes both checks of its range. -/
theorem job_submissionOf (hpattern : CompiledPattern.compile options.pattern = .ok pattern)
    {size : Nat} (hsize : size ≤ Number.maxNat64) :
    (submissionOf config options size).job (max config.analysis.maxWorkers 1) (.ok size) =
      .ok (jobOf config options pattern size) := by
  have hle := clampRange_le options size
  have hoverflow : ¬ Number.maxNat64 < (clampRange options size).1 + (clampRange options size).2 :=
    Nat.not_lt.2 (Nat.le_trans hle hsize)
  have hbeyond : ¬ size < (clampRange options size).1 + (clampRange options size).2 :=
    Nat.not_lt.2 hle
  have hcontext : Context.compile options.pattern config.requestSettings =
      .ok (.ofPattern pattern config.requestSettings) := by
    rw [Context.compile, hpattern]
    rfl
  simp only [Submission.job, submissionOf, bind, Except.bind, if_neg hoverflow, if_neg hbeyond,
    hcontext]
  rfl

/-- A file that can be read is opened, with all its lines taken in. -/
theorem exists_openFile
    (hcolumns : options.columns.map CompiledPattern.ofSource = columns.map .ok) :
    ∃ file, openFile config options (.ok bytes) = .ok (bytes.count lineFeed, file) ∧
      file.InStep config.source.cacheCapacity bytes (bytes.count lineFeed) ∧
      file.columns = columns := by
  obtain ⟨opened, hopened, hstep, hnone⟩ :=
    TextFile.exists_ofPath options.file config.source.cacheCapacity bytes
  cases hoption : options.columns with
  | none =>
      rw [hoption] at hcolumns
      obtain rfl : columns = none := by simpa using hcolumns.symm
      obtain ⟨file, hrefresh, hstep, hsame⟩ := hstep.exists_refreshed
      refine ⟨file, ?_, hstep, hsame.trans hnone⟩
      simp [openFile, hopened, hoption, hrefresh, Except.mapError, bind, Except.bind, pure,
        Except.pure]
  | some text =>
      rw [hoption] at hcolumns
      obtain ⟨split, rfl, hsplit⟩ : ∃ split, columns = some split ∧
          CompiledPattern.ofSource text = .ok split := by
        cases columns with
        | none => simp at hcolumns
        | some split => exact ⟨split, rfl, by simpa using hcolumns⟩
      have hwith : opened.withColumns text =
          .ok { opened with columns := some split, cache := opened.cache.clear } := by
        rw [TextFile.withColumns, hsplit]
      obtain ⟨file, hrefresh, hstep, hsame⟩ := (hstep.split hwith).exists_refreshed
      refine ⟨file, ?_, hstep, hsame⟩
      simp [openFile, hopened, hoption, hwith, hrefresh, Except.mapError, bind, Except.bind, pure,
        Except.pure]

/-- The session of a scan that was submitted. -/
def sessionOf (config : Config) (terminal : Terminal) (options : AnalyzeOptions)
    (pattern : CompiledPattern) (size : Nat) (file : TextFile) : ScanSession where
  file := file
  dispatch := .first config.analysis.maxWorkers (jobOf config options pattern size)
  id := 1
  count := (clampRange options size).2
  follow := options.follow
  pollInterval := config.analysis.pollInterval
  style := ⟨options.json, config.source.fieldSeparator, terminal⟩
  results := .empty (some 1)

/-- The libraries make the pool and the cache of the configuration. -/
structure Supports (machine : Machine) (config : Config) : Prop where
  pool : max config.analysis.maxWorkers 1 ≤ machine.poolLimit
  cache : max config.source.cacheCapacity 1 ≤ machine.cacheLimit

/-- The scan is submitted. -/
theorem exists_beginScan {machine : Machine} (hmachine : Supports machine config)
    (terminal : Terminal) (hpattern : CompiledPattern.compile options.pattern = .ok pattern)
    (hcolumns : options.columns.map CompiledPattern.ofSource = columns.map .ok)
    (hsize : bytes.count lineFeed ≤ Number.maxNat64) :
    ∃ file, beginScan machine config terminal options (.ok bytes) =
        .ok (sessionOf config terminal options pattern (bytes.count lineFeed) file) ∧
      file.InStep config.source.cacheCapacity bytes (bytes.count lineFeed) ∧
      file.columns = columns := by
  obtain ⟨opened, hopened, hstep, hsplit⟩ := exists_openFile hcolumns
  obtain ⟨file, hrefresh, hstep, hsame⟩ := hstep.exists_refreshed
  refine ⟨file, ?_, hstep, hsame.trans hsplit⟩
  have hjob : (submissionOf config options (bytes.count lineFeed)).job
      (max config.analysis.maxWorkers 1) (.ok (bytes.count lineFeed)) = .ok _ :=
    job_submissionOf hpattern hsize
  have hsubmit := Dispatch.submit_empty hjob
  simp only [beginScan, Machine.makeCache_eq_ok hmachine.cache,
    Machine.makePool_eq_ok hmachine.pool, hopened, OpenTextFile.reader, hrefresh, Except.mapError,
    hsubmit, bind, Except.bind, pure, Except.pure]
  rfl

end Request

/-! ## What is printed -/

/-- The file after these records were asked for. -/
def afterReads (file : TextFile) (bytes : Bytes) (positions : List Nat) : TextFile :=
  positions.foldl (fun file position => (file.get (.ok bytes) position).2) file

section Printing

variable {file : TextFile} {bytes : Bytes} {capacity count : Nat} {columns : Option CompiledPattern}

theorem inStep_afterReads (h : file.InStep capacity bytes count) (positions : List Nat) :
    (afterReads file bytes positions).InStep capacity bytes count ∧
      (afterReads file bytes positions).columns = file.columns := by
  induction positions generalizing file with
  | nil => exact ⟨h, rfl⟩
  | cons p rest ih =>
      obtain ⟨hstep, hcolumns⟩ := ih (h.asked p)
      exact ⟨hstep, hcolumns.trans (file.columns_get _ _)⟩

/-- Results of records that are there are printed one after another. -/
theorem exists_printResults (h : file.InStep capacity bytes count) (style : RecordStyle)
    {found : List (Record × RecordResult)}
    (hfound : ∀ f ∈ found, f.2.id < count ∧
      (recordsOf file.columns bytes)[f.2.id]? = some f.1) (output : String) :
    ∃ file', printResults style (.ok bytes) file output (found.map Prod.snd) =
      ⟨file', found.foldl (fun output f => output ++ recordText style f.1 f.2) output, none⟩ := by
  induction found generalizing file output with
  | nil => exact ⟨file, rfl⟩
  | cons f rest ih =>
      obtain ⟨hlt, hrecord⟩ := hfound f List.mem_cons_self
      obtain ⟨record, hlisted, hread⟩ := h.get_eq_recordsOf hlt
      obtain rfl : f.1 = record := Option.some.inj (hrecord.symm.trans hlisted)
      have hrest : ∀ g ∈ rest, g.2.id < count ∧
          (recordsOf (file.get (.ok bytes) f.2.id).2.columns bytes)[g.2.id]? = some g.1 := by
        rw [file.columns_get]
        exact fun g hg => hfound g (List.mem_cons_of_mem f hg)
      obtain ⟨file', hprinted⟩ := ih (h.asked f.2.id) hrest (output ++ recordText style f.1 f.2)
      have hget : file.get (.ok bytes) f.2.id = (.ok f.1, (file.get (.ok bytes) f.2.id).2) :=
        Prod.ext hread rfl
      refine ⟨file', ?_⟩
      rw [List.map_cons, printResults, hget]
      exact hprinted

end Printing

/-! ## What is left -/

/-- What a scan leaves that has received these notifications, after these records were read. -/
def ScanSession.outcomeOf (session : ScanSession) (bytes : Bytes) (positions : List Nat)
    (received : List Notification) : Outcome :=
  let results := (untilTerminal received).foldl ResultSet.apply session.results
  let printed := printResults session.style (.ok bytes) (afterReads session.file bytes positions) ""
    results.results
  match printed.error with
  | some e => .failure printed.output e
  | none => conclude { session with results } printed.output ""

/-- What one pass over the lines asked for leaves. -/
def onePass (config : Config) (terminal : Terminal) (options : AnalyzeOptions)
    (pattern : CompiledPattern) (columns : Option CompiledPattern) (bytes : Bytes) : Outcome :=
  sequentialOutcome ⟨options.json, config.source.fieldSeparator, terminal⟩
    (options.selected (recordsOf columns bytes)).length
    (findings options (.ofPattern pattern config.requestSettings) columns bytes)

section Outcome

variable {config : Config} {options : AnalyzeOptions} {terminal : Terminal} {bytes : Bytes}
  {pattern : CompiledPattern} {columns : Option CompiledPattern} {file : TextFile}
  {trace : List Moment} {d : Dispatch} {run : Analysis.Run}

theorem untilTerminal_append {ns : List Notification} {n : Notification}
    (hns : ∀ m ∈ ns, m.isTerminal = false) (hn : n.isTerminal = true) :
    untilTerminal (ns ++ [n]) = ns ++ [n] := by
  induction ns with
  | nil => simp [untilTerminal, hn]
  | cons m rest ih =>
      have hm := hns m List.mem_cons_self
      rw [List.cons_append, untilTerminal, hm, ih fun n hn => hns n (List.mem_cons_of_mem m hn)]
      rfl

/-- The batches that are received make up the findings, in their order. -/
theorem foldl_apply_received (context : Context) {batches : List Notification}
    (hbatches : ∀ n ∈ batches, n = .progress 1 n.percent n.batch)
    (hperm : (batches.flatMap Notification.batch).Perm
      (context.scan (recordAt columns bytes) (clampRange options (bytes.count lineFeed)).1
        (clampRange options (bytes.count lineFeed)).2)) :
    (batches ++ [Notification.successful 1]).foldl ResultSet.apply (.empty (some 1)) =
      ⟨some 1, (findings options context columns bytes).map Prod.snd, 100, some .successful,
        (findings options context columns bytes).any fun f => f.2.hasDuplicateRole, none⟩ := by
  rw [← findings_eq_scan] at hperm
  have hascending : ResultSet.Ascending ((findings options context columns bytes).map Prod.snd) :=
    ascending_findings
  have hdistinct : ResultSet.Distinct ((findings options context columns bytes).map Prod.snd) :=
    hascending.imp Nat.ne_of_lt
  have hsorted : ((findings options context columns bytes).map Prod.snd).mergeSort
      (fun a b => a.id ≤ b.id) = (findings options context columns bytes).map Prod.snd :=
    List.mergeSort_of_pairwise (hascending.imp fun hlt => decide_eq_true (Nat.le_of_lt hlt))
  rw [ResultSet.foldl_apply_of_successful hbatches,
    ResultSet.insertAll_nil_eq_mergeSort hperm hdistinct, hsorted, hperm.any_eq, List.any_map]
  rfl

/-- Once the last notification is received, the scan leaves what one pass over the lines would. -/
theorem outcomeOf_eq (hstep : file.InStep config.source.cacheCapacity bytes (bytes.count lineFeed))
    (hcolumns : file.columns = columns)
    (h : Analysis.Alone (recordAt columns bytes) trace d run) (hid : run.id = 1)
    (hjob : run.job = jobOf config options pattern (bytes.count lineFeed))
    (hended : ∃ n ∈ Analysis.delivered trace, n.isTerminal = true) (positions : List Nat) :
    (sessionOf config terminal options pattern (bytes.count lineFeed) file).outcomeOf bytes
        positions (Analysis.delivered trace) =
      onePass config terminal options pattern columns bytes := by
  obtain ⟨batches, hreceived, hbatches, hperm⟩ := h.received hended
  rw [hid] at hreceived hbatches
  have hquiet : ∀ n ∈ batches, n.isTerminal = false := fun n hn => by
    rw [hbatches n hn]
    rfl
  have hsize : run.job.range.size = (clampRange options (bytes.count lineFeed)).2 := by
    rw [hjob]
    exact Nat.add_sub_cancel_left _ _
  rw [hsize, hjob] at hperm
  have hresults := foldl_apply_received (.ofPattern pattern config.requestSettings) hbatches hperm
  obtain ⟨hread, hsame⟩ := inStep_afterReads hstep positions
  have hfound : ∀ f ∈ findings options (.ofPattern pattern config.requestSettings) columns bytes,
      f.2.id < bytes.count lineFeed ∧
        (recordsOf (afterReads file bytes positions).columns bytes)[f.2.id]? = some f.1 := by
    rw [hsame, hcolumns]
    exact fun f hf => mem_findings hf
  obtain ⟨file', hprinted⟩ := exists_printResults hread
    ⟨options.json, config.source.fieldSeparator, terminal⟩ hfound ""
  rw [ScanSession.outcomeOf, hreceived, untilTerminal_append hquiet rfl]
  simp only [sessionOf, hresults, hprinted]
  rw [conclude, onePass, sequentialOutcome, length_selected, Outcome.mk.injEq]
  refine ⟨rfl, ?_, ?_⟩
  · rw [String.join, List.foldl_map]
  · simp only [summary, ResultSet.size, List.length_map, String.empty_append]

end Outcome

/-! ## The command -/

/-- Some order of the steps of a scan that nobody interrupts. What is read are the records. -/
structure ScanSession.Runs (session : ScanSession) (records : List Record) (trace : List Moment)
    (d : Dispatch) : Prop where
  execution : Execution session.dispatch trace d
  internal : ∀ m ∈ trace, m.step.isInternal = true
  reads : ∀ m ∈ trace, (m.event session.id).readsFrom (fun p => records.getD p default) = true

/-- However the steps of a scan are ordered, there are only so many of them, none is left only when
the last notification is received, and then the scan leaves this outcome, whatever of the file was
read before. -/
structure ScanSession.ComesTo (session : ScanSession) (bytes : Bytes) (records : List Record)
    (outcome : Outcome) : Prop where
  reads : ∀ positions position, ∀ record ∈ records[position]?,
    ((afterReads session.file bytes positions).get (.ok bytes) position).1 = .ok record
  bounded : ∃ bound, ∀ trace d, session.Runs records trace d → trace.length ≤ bound
  ends : ∀ trace d, session.Runs records trace d →
    (∀ step, step.isInternal = true → d.step? step = none) →
    ∃ n ∈ Analysis.delivered trace, n.isTerminal = true
  leaves : ∀ trace d, session.Runs records trace d →
    (∃ n ∈ Analysis.delivered trace, n.isTerminal = true) →
    ∀ positions, session.outcomeOf bytes positions (Analysis.delivered trace) = outcome

/-- A scan that does not follow its file prints once everything is received. -/
theorem advance_eq_outcomeOf {session : ScanSession} (honce : session.follow = false)
    {bytes : Bytes} {positions : List Nat}
    (hfile : (session.dispatch.settle (fun _ => OpenTextFile.reader)
      ⟨session.file, .ok bytes⟩).2.file = afterReads session.file bytes positions) :
    session.advance (.ok bytes) =
      .ended (session.outcomeOf bytes positions (session.dispatch.settle
        (fun _ => OpenTextFile.reader) ⟨session.file, .ok bytes⟩).1.receiveAll.2) := by
  simp only [ScanSession.advance, ScanSession.outcomeOf, honce, hfile, Bool.false_eq_true, if_false,
    Bool.not_false, Bool.or_true, if_true]
  split
  · next e herror => rw [herror]
  · next hnone =>
      rw [hnone]
      rfl

section Command

variable {config : Config} {options : AnalyzeOptions} {bytes : Bytes} {pattern : CompiledPattern}
  {columns : Option CompiledPattern} {file : TextFile}

theorem comesTo_onePass (terminal : Terminal)
    (hpattern : CompiledPattern.compile options.pattern = .ok pattern)
    (hsize : bytes.count lineFeed ≤ Number.maxNat64) (honce : options.follow = false)
    (hstep : file.InStep config.source.cacheCapacity bytes (bytes.count lineFeed))
    (hcolumns : file.columns = columns) :
    (sessionOf config terminal options pattern (bytes.count lineFeed) file).ComesTo bytes
      (recordsOf columns bytes) (onePass config terminal options pattern columns bytes) := by
  have hjob : (submissionOf config options (bytes.count lineFeed)).job
      (max config.analysis.maxWorkers 1) (.ok (bytes.count lineFeed)) = .ok _ :=
    job_submissionOf hpattern hsize
  obtain ⟨begun, hnone, hfirst⟩ := Analysis.alone_first (recordAt columns bytes) hjob honce
  have halone {trace : List Moment} {d : Dispatch}
      (h : (sessionOf config terminal options pattern (bytes.count lineFeed) file).Runs
        (recordsOf columns bytes) trace d) :=
    hfirst.execution h.execution h.internal h.reads
  have hsame (trace : List Moment) :
      Analysis.delivered (begun ++ trace) = Analysis.delivered trace := by
    rw [Analysis.delivered_append, hnone, List.nil_append]
  refine ⟨fun positions position record hrecord => ?_,
    ⟨2 * (Analysis.Run.ofJob 1 (jobOf config options pattern (bytes.count lineFeed))).remaining,
      fun trace d h => ?_⟩, fun trace d h hstuck => ?_, fun trace d h hended positions => ?_⟩
  · obtain ⟨hread, hsplit⟩ := inStep_afterReads hstep positions
    have hlt : position < bytes.count lineFeed := by
      rw [← TextFile.length_recordsOf columns]
      exact (List.getElem?_eq_some_iff.1 hrecord).1
    obtain ⟨record', hlisted, hget⟩ := hread.get_eq_recordsOf hlt
    rw [hsplit, hcolumns] at hlisted
    obtain rfl := Option.some.inj (hlisted.symm.trans hrecord)
    exact hget
  · obtain ⟨run', -, -, -, hbound⟩ := halone h
    rw [Dispatch.queue_first, List.length_nil, Nat.add_zero] at hbound
    exact Nat.le_trans (Nat.le_add_right _ _) hbound
  · obtain ⟨run', hlast, -, -, -⟩ := halone h
    obtain ⟨hgone, hqueue⟩ := hlast.gone_of_stuck hstuck
    rw [← hsame]
    exact hlast.exists_terminal hgone hqueue
  · obtain ⟨run', hlast, hid, hjob', -⟩ := halone h
    rw [← hsame] at hended ⊢
    exact outcomeOf_eq hstep hcolumns hlast hid hjob' hended positions

/-- A scan can be submitted, and comes to what one pass over the lines asked for leaves. -/
theorem exists_comesTo {machine : Machine} (hmachine : Supports machine config)
    (terminal : Terminal) (options : AnalyzeOptions)
    (hpattern : CompiledPattern.compile options.pattern = .ok pattern)
    (hcolumns : options.columns.map CompiledPattern.ofSource = columns.map .ok)
    (hsize : bytes.count lineFeed ≤ Number.maxNat64) (honce : options.follow = false) :
    ∃ session, beginScan machine config terminal options (.ok bytes) = .ok session ∧
      session.ComesTo bytes (recordsOf columns bytes)
        (onePass config terminal options pattern columns bytes) := by
  obtain ⟨file, hbegin, hstep, hsplit⟩ :=
    exists_beginScan hmachine terminal hpattern hcolumns hsize
  exact ⟨_, hbegin, comesTo_onePass terminal hpattern hsize honce hstep hsplit⟩

/-- The source of a scan: the file after some of its records were asked for. -/
def Reading (file : TextFile) (bytes : Bytes) (source : OpenTextFile) : Prop :=
  source.content = .ok bytes ∧ ∃ positions, source.file = afterReads file bytes positions

/-- The file serves the request, whatever of it was read before. -/
theorem served (hstep : file.InStep config.source.cacheCapacity bytes (bytes.count lineFeed))
    (hcolumns : file.columns = columns) :
    Analysis.Alone.Served OpenTextFile.reader (recordAt columns bytes) (Reading file bytes)
      (.ofJob 1 (jobOf config options pattern (bytes.count lineFeed))) := by
  rintro ⟨_, _⟩ ⟨rfl, positions, rfl⟩ p hp
  obtain ⟨hread, hsame⟩ := inStep_afterReads hstep positions
  have hlt : p < bytes.count lineFeed := by
    have hle := clampRange_le options (bytes.count lineFeed)
    have hstop : p < (clampRange options (bytes.count lineFeed)).1 +
        ((clampRange options (bytes.count lineFeed)).1 +
          (clampRange options (bytes.count lineFeed)).2 -
            (clampRange options (bytes.count lineFeed)).1) := hp
    omega
  obtain ⟨record, hlisted, hget⟩ := hread.get_eq_recordsOf hlt
  rw [hsame, hcolumns, (recordAt_of_lt columns hlt).1] at hlisted
  obtain rfl := Option.some.inj hlisted
  refine ⟨?_, rfl, positions ++ [p], ?_⟩
  · simp [OpenTextFile.reader, hget, Except.mapError]
  · simp [OpenTextFile.reader, afterReads]

/-- A scan that settles at once leaves what one pass over the lines asked for leaves. -/
theorem advance_sessionOf (terminal : Terminal)
    (hpattern : CompiledPattern.compile options.pattern = .ok pattern)
    (hsize : bytes.count lineFeed ≤ Number.maxNat64) (honce : options.follow = false)
    (hstep : file.InStep config.source.cacheCapacity bytes (bytes.count lineFeed))
    (hcolumns : file.columns = columns) :
    (sessionOf config terminal options pattern (bytes.count lineFeed) file).advance (.ok bytes) =
      .ended (onePass config terminal options pattern columns bytes) := by
  have hjob : (submissionOf config options (bytes.count lineFeed)).job
      (max config.analysis.maxWorkers 1) (.ok (bytes.count lineFeed)) = .ok _ :=
    job_submissionOf hpattern hsize
  obtain ⟨begun, hnone, hfirst⟩ := Analysis.alone_first (recordAt columns bytes) hjob honce
  -- The session is kept closed here: opened, its settling would be computed.
  generalize hsession :
    sessionOf config terminal options pattern (bytes.count lineFeed) file = session
  have hdispatch : session.dispatch =
      .first config.analysis.maxWorkers (jobOf config options pattern (bytes.count lineFeed)) := by
    rw [← hsession]
    rfl
  have hfile : session.file = file := by
    rw [← hsession]
    rfl
  have hfollow : session.follow = false := by
    rw [← hsession]
    exact honce
  rw [← hdispatch] at hfirst
  have hserved : Analysis.Alone.Served OpenTextFile.reader (recordAt columns bytes)
      (Reading session.file bytes)
      (.ofJob 1 (jobOf config options pattern (bytes.count lineFeed))) :=
    served (hfile ▸ hstep) (hfile ▸ hcolumns)
  have hsource : Reading session.file bytes ⟨session.file, .ok bytes⟩ := ⟨rfl, [], rfl⟩
  have hweight := Analysis.Run.remaining_ofJob_le 1
    (jobOf config options pattern (bytes.count lineFeed))
  obtain ⟨more, run', hlast, hid, hjob', hdelivered, hended, -, positions, hafter⟩ :=
    @Analysis.Alone.settle_receiveAll _ _ _ _ _ _ hfirst hweight (fun _ => OpenTextFile.reader)
      hserved _ hsource
  have hall : Analysis.delivered (begun ++ more) = Analysis.delivered more := by
    rw [Analysis.delivered_append, hnone, List.nil_append]
  have houtcome : (sessionOf config terminal options pattern (bytes.count lineFeed) file).outcomeOf
      bytes positions (Analysis.delivered (begun ++ more)) =
        onePass config terminal options pattern columns bytes :=
    outcomeOf_eq hstep hcolumns hlast hid hjob' hended positions
  rw [hall, hdelivered, hsession] at houtcome
  rw [← houtcome]
  exact advance_eq_outcomeOf hfollow hafter

/-- The command prints what one pass over the lines asked for prints. -/
theorem run_analyze {files : FileAccess Id} {path : String} (terminal : Terminal)
    (hconfig : Config.load files path = .ok config) (hmachine : Supports files.toMachine config)
    (hfile : files.read options.file = .ok bytes)
    (hsize : bytes.count lineFeed ≤ Number.maxNat64)
    (hpattern : CompiledPattern.compile options.pattern = .ok pattern)
    (hcolumns : options.columns.map CompiledPattern.ofSource = columns.map .ok)
    (honce : options.follow = false) :
    run files terminal ⟨.analyze options, path⟩ =
      .ended (onePass config terminal options pattern columns bytes) := by
  obtain ⟨file, hbegin, hstep, hsplit⟩ :=
    exists_beginScan hmachine terminal hpattern hcolumns hsize
  have hadvance := advance_sessionOf terminal hpattern hsize honce hstep hsplit
  simp only [run, withConfig, bind, pure, hconfig, hfile, hbegin]
  exact hadvance

end Command

/-- The configuration with other numbers of workers, another size of chunks, and room for another
number of records. -/
def tuned (config : Config) (workerCount maxWorkers chunkSize cacheCapacity : Nat) : Config :=
  { config with
    analysis := { config.analysis with workerCount, maxWorkers, chunkSize }
    source := { config.source with cacheCapacity } }

theorem onePass_tuned (config : Config) (terminal : Terminal) (options : AnalyzeOptions)
    (pattern : CompiledPattern) (columns : Option CompiledPattern) (bytes : Bytes)
    (workers : Option Nat) (workerCount maxWorkers chunkSize cacheCapacity : Nat) :
    onePass (tuned config workerCount maxWorkers chunkSize cacheCapacity) terminal
        { options with workers } pattern columns bytes =
      onePass config terminal options pattern columns bytes := rfl

/-- The summary tells how many lines match, and how many are asked for. -/
theorem exists_errors_onePass (config : Config) (terminal : Terminal) {options : AnalyzeOptions}
    {pattern : CompiledPattern} {columns : Option CompiledPattern} {bytes : Bytes} :
    ∃ remark ∈ ["", " (some records carry more than one request/response/event role)"],
      (onePass config terminal options pattern columns bytes).errors =
        if options.json then ""
        else toString (options.matching pattern columns bytes).length ++ " matching records in " ++
          toString ((List.range (bytes.count lineFeed)).filter fun p => options.AsksFor p).length ++
          " scanned lines" ++ remark ++ "\n" := by
  have hcount : (options.selected (recordsOf columns bytes)).length =
      ((List.range (bytes.count lineFeed)).filter fun p => options.AsksFor p).length := by
    rw [length_selected, filter_range_asksFor, List.length_range']
  rw [onePass, sequentialOutcome, hcount, ← map_id_findings options config.requestSettings,
    List.length_map]
  refine ⟨_, ?_, rfl⟩
  split
  · exact List.mem_cons_of_mem _ List.mem_cons_self
  · exact List.mem_cons_self

theorem ofSource_of_compile {source : String} {pattern : CompiledPattern}
    (h : CompiledPattern.compile source = .ok pattern) :
    CompiledPattern.ofSource source = .ok pattern := by
  rw [CompiledPattern.compile] at h
  split at h
  · cases h
  · exact h

/-- A log with four lines and one that is not finished. -/
def sampleLog : Bytes := [97, 49, 10, 98, 10, 97, 50, 10, 99, 97, 13, 10, 97]

/-- A file system with that log only. -/
def sampleFiles : FileAccess Id where
  read path := if path = "app.log" then .ok sampleLog else .error .notFound
  leadsSomewhere path := path == "app.log"
  save _ _ := .ok ()

/-- More lines are asked for than there are, and more workers. -/
def sampleOptions : AnalyzeOptions :=
  ⟨"app.log", "(a)", 1, some Number.maxNat64, some 3, false, false, none⟩

/-- The pattern of the sample, compiled. -/
def samplePattern : CompiledPattern := ((CompiledPattern.compile "(a)").toOption).getD default

/-- What requests on the sample are answered with. -/
def sampleContext : Context := .ofPattern samplePattern Config.standard.requestSettings

/-- A record of the sample, and what is found of the letter at an offset. -/
def sampleFinding (id : RecordId) (text : String) (size offset : Nat) :
    Record × Analysis.RecordResult :=
  (⟨id, text, size, none, Field.payload text⟩,
    sampleContext.resultOf ⟨id, text, size, none, Field.payload text⟩
      [⟨"a", ⟨offset, offset⟩, 1⟩])

theorem findings_sample : findings sampleOptions sampleContext none sampleLog =
    [sampleFinding 2 "a2" 3 0, sampleFinding 3 "ca" 4 1] := by
  have hselected : sampleOptions.selected (recordsOf none sampleLog) =
      [⟨1, "b", 2, none, Field.payload "b"⟩, ⟨2, "a2", 3, none, Field.payload "a2"⟩,
        ⟨3, "ca", 4, none, Field.payload "ca"⟩] := rfl
  have hnone : sampleContext.pattern.find? "b" = none := rfl
  have hthird : sampleContext.pattern.find? "a2" =
      some (Match.scanOrder [⟨"a", ⟨0, 0⟩, 1⟩]) := rfl
  have hfourth : sampleContext.pattern.find? "ca" =
      some (Match.scanOrder [⟨"a", ⟨1, 1⟩, 1⟩]) := rfl
  rw [Match.scanOrder, List.mergeSort_singleton] at hthird hfourth
  simp [findings, hselected, sequentialScan, Context.analyze?, hnone, hthird, hfourth,
    sampleFinding]

/-- The letter is painted in the first colour of the palette. -/
theorem recordText_sampleFinding :
    recordText ⟨false, " ", .colored⟩ (sampleFinding 2 "a2" 3 0).1 (sampleFinding 2 "a2" 3 0).2 =
        "       2: \x1b[48;2;255;255;0m\x1b[38;5;0ma\x1b[49m\x1b[39m2\n" ∧
      recordText ⟨false, " ", .colored⟩ (sampleFinding 3 "ca" 4 1).1
          (sampleFinding 3 "ca" 4 1).2 =
        "       3: c\x1b[48;2;255;255;0m\x1b[38;5;0ma\x1b[49m\x1b[39m\n" := by
  have hline (id : RecordId) (text : String) (size offset : Nat) :=
    @recordText_eq_line (sampleFinding id text size offset).1 (sampleFinding id text size offset).2
      ⟨false, " ", .colored⟩ rfl rfl rfl
  have hindices (span : Span) (count : Nat) :
      ColorIndex.build [⟨"a", span, 1⟩] (count + 1) = ⟨[(1, 0)]⟩ := by
    rw [ColorIndex.build, if_neg (Nat.succ_ne_zero count), ColorIndex.claimants,
      List.filter_cons_of_pos rfl, List.filter_nil, List.mergeSort_singleton]
    simp [ColorIndex.assign]
  have hthird (paint : Nat → Paint) : Coverage.split (.build [⟨"a", ⟨0, 0⟩, 1⟩]) ⟨0, 1⟩ paint =
      [⟨0, 0, paint 1⟩, ⟨1, 1, .unfilled⟩] := by cbv
  have hfourth (paint : Nat → Paint) : Coverage.split (.build [⟨"a", ⟨1, 1⟩, 1⟩]) ⟨0, 1⟩ paint =
      [⟨0, 0, .unfilled⟩, ⟨1, 1, paint 1⟩] := by cbv
  constructor
  · rw [hline]
    change _ ++ highlighted .colored _
      [⟨0, Coverage.split _ ⟨0, 1⟩ (ColorScheme.paint ⟨_, _, ColorIndex.build _ (_ + 1)⟩)⟩] ++ _ = _
    rw [hthird, hindices]
    decide +kernel
  · rw [hline]
    change _ ++ highlighted .colored _
      [⟨0, Coverage.split _ ⟨0, 1⟩ (ColorScheme.paint ⟨_, _, ColorIndex.build _ (_ + 1)⟩)⟩] ++ _ = _
    rw [hfourth, hindices]
    decide +kernel

end PatternScan.Command
