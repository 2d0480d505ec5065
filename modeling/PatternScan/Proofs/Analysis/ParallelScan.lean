import PatternScan.Proofs.Analysis.Execution
import PatternScan.Proofs.Analysis.ResultSet
import PatternScan.Proofs.Analysis.Undisturbed

/-!
# Parallel and sequential scans

A request that scans a range once, is not cancelled and reads every record it asks for
delivers what a sequential scan of the range finds. How many workers share the range, how
large a chunk is and in which order the steps happen shows only in the order of arrival, and
the collected results do not depend on it.
-/

namespace PatternScan.Analysis

/-- The results of a sequential scan. -/
def Context.scan (context : Context) (record : Nat → Record) (start count : Nat) :
    List RecordResult :=
  (List.range' start count).filterMap fun p => context.analyze? (record p)

/-- Where the records are different ones, so are their results. -/
theorem Context.distinct_scan {context : Context} {record : Nat → Record} {start count : Nat}
    (h : ((List.range' start count).map fun p => (record p).id).Nodup) :
    ResultSet.Distinct (context.scan record start count) := by
  have hid (p : Nat) (r : RecordResult) (hr : context.analyze? (record p) = some r) :
      r.id = (record p).id := by
    obtain ⟨ms, -, rfl⟩ := Option.map_eq_some_iff.1 hr
    rfl
  refine List.pairwise_filterMap.2 ((List.pairwise_map.1 h).imp fun hne r hr r' hr' heq => hne ?_)
  rw [← hid _ _ hr, ← hid _ _ hr', heq]

/-- A scan by any number of workers, in any order of their steps, comes to what a sequential
scan finds. The order in which the results of a request arrive is an order of the positions
of its range, ascending within the part of each worker; the collected results do not depend
on that order, on the number of workers or on the size of a chunk. -/
theorem parallel_scan_eq_sequential {maxWorkers : Nat} {trace : List Moment} {d : Dispatch}
    {id : RequestId} {run : Run} {s : Submission} {size : Except ScanError Nat}
    {record : Nat → Record} (h : Execution (.empty maxWorkers) trace d)
    (hrun : d.run? id = some run) (hjob : s.job d.maxWorkers size = .ok run.job)
    (honce : s.continuous = false)
    (hdistinct : ((List.range' s.start s.count).map fun p => (record p).id).Nodup)
    (hquiet : ∀ m ∈ trace, (m.event id).isCancelling = false)
    (hread : ∀ m ∈ trace, (m.event id).readsFrom record = true)
    (hended : run.phase = .gone) (hdrained : ∀ e ∈ d.queue, e.request ≠ id) :
    (∀ chunkSize,
      Context.compile s.pattern { s.settings with chunkSize } = .ok run.job.context) ∧
    ∃ (batches : List Notification) (order : List Nat),
      (delivered trace).filter (fun n => n.request = id) = batches ++ [.successful id] ∧
      (∀ n ∈ batches, n.state = .progress) ∧
      order.Perm (List.range' s.start s.count) ∧
      (∀ part ∈ ScanRange.split s.start s.count run.job.workers,
        order.filter part.holds = List.range' part.start part.size) ∧
      batches.flatMap Notification.batch =
        order.filterMap (fun p => run.job.context.analyze? (record p)) ∧
      (batches.flatMap Notification.batch).Perm (run.job.context.scan record s.start s.count) ∧
      (delivered trace).foldl ResultSet.apply (.empty (some id)) =
        ⟨some id, (run.job.context.scan record s.start s.count).mergeSort fun a b => a.id ≤ b.id,
          100, some .successful,
          (run.job.context.scan record s.start s.count).any RecordResult.hasDuplicateRole,
          none⟩ := by
  obtain ⟨hcontext, hrange, hcontinuous⟩ := Submission.job_eq_ok hjob
  have hid : run.id = id := Dispatch.id_of_run? hrun
  have hview := h.requestRun id
  have hcalm : ∀ event ∈ trace.map (Moment.event id), event.isCancelling = false := by
    simpa using hquiet
  have hposted := (hview.posted_eq_delivered_append hcalm).2
  have hmail : (d.view id).mail = [] := by
    simpa [Dispatch.view] using hdrained
  rw [hmail, List.filterMap_nil, List.append_nil, filterMap_event_eq_delivered] at hposted
  have hundisturbed := hview.undisturbed record hcalm (by simpa using hread)
  obtain ⟨-, stage, hstage⟩ := hundisturbed.2 run hrun (hcontinuous.trans honce)
  obtain ⟨batches, order, hlast, hbatches, hresults, hperm, hparts⟩ := hstage.ended hended
  rw [hid] at hlast hbatches
  have hsize : run.job.range.size = s.count := by
    rw [hrange]
    exact Nat.add_sub_cancel_left s.start s.count
  rw [hsize, hrange] at hperm
  rw [Run.parts, hsize, hrange] at hparts
  have hscan : (batches.flatMap Notification.batch).Perm
      (run.job.context.scan record s.start s.count) := by
    rw [hresults]
    exact hperm.filterMap _
  refine ⟨hcontext, batches, order, hposted.symm.trans hlast, fun n hn => ?_, hperm, hparts,
    hresults, hscan, ?_⟩
  · rw [hbatches n hn]
    rfl
  · rw [ResultSet.foldl_apply_eq_filter _ rfl, ← hposted, hlast,
      ResultSet.foldl_apply_of_successful hbatches,
      ResultSet.insertAll_nil_eq_mergeSort hscan (Context.distinct_scan hdistinct), hscan.any_eq]

/-- Two records for two workers, which report each record by itself. -/
def pairSubmission : Submission :=
  ⟨0, 2, "a", 2, false, { Settings.standard with chunkSize := 1 }⟩

/-- Both records match. -/
def pairRecord (position : Nat) : Record :=
  Record.ofText position (if position = 0 then "ab" else "ca")

/-- The steps of an execution in which the second record is reported before the first one is
read. -/
def pairSteps : List Step :=
  [.submit pairSubmission (.ok 2), .call 0, .call 0, .call 0, .call 0,
    .drive 1, .drive 1, .drive 1, .drive 1, .drive 1,
    .work 1 1, .work 1 0, .load 1 1 (.ok (pairRecord 1)), .work 1 1, .work 1 1, .work 1 1,
    .drive 1, .drive 1, .load 1 0 (.ok (pairRecord 0)), .drive 1, .work 1 0, .receive,
    .work 1 0, .drive 1, .drive 1, .drive 1, .work 1 0,
    .drive 1, .drive 1, .drive 1, .drive 1, .drive 1, .drive 1, .receive, .receive, .receive]

/-- The moments of that execution, and its end. -/
def pairExecution : List Moment × Dispatch := (Dispatch.empty 2).replay pairSteps

/-- The run of the request at the end of that execution. -/
def pairRun : Run := (pairExecution.2.run? 1).getD default

set_option maxRecDepth 1000 in
/-- The results arrive against the order of the records, and are collected in it. -/
theorem parallel_scan_pair :
    ((delivered pairExecution.1).flatMap Notification.batch).map RecordResult.id = [1, 0] ∧
      (delivered pairExecution.1).foldl ResultSet.apply (.empty (some 1)) =
        ⟨some 1, (pairRun.job.context.scan pairRecord 0 2).mergeSort fun a b => a.id ≤ b.id,
          100, some .successful,
          (pairRun.job.context.scan pairRecord 0 2).any RecordResult.hasDuplicateRole, none⟩ := by
  have hexecution : Execution (.empty 2) pairExecution.1 pairExecution.2 := .replay _ _
  have hrun : pairExecution.2.run? 1 = some pairRun := by rfl
  have hjob : pairSubmission.job pairExecution.2.maxWorkers (.ok 2) = .ok pairRun.job := by rfl
  have hdistinct : ((List.range' 0 2).map fun p => (pairRecord p).id).Nodup := by decide
  have hevents : (pairExecution.1.all fun m =>
      !(m.event 1).isCancelling && (m.event 1).readsFrom pairRecord) = true := by decide +kernel
  simp only [List.all_eq_true, Bool.and_eq_true, Bool.not_eq_true'] at hevents
  have hended : pairRun.phase = .gone := by rfl
  have hdrained : pairExecution.2.queue = [] := by decide +kernel
  obtain ⟨-, batches, order, -, -, -, -, -, -, hset⟩ :=
    parallel_scan_eq_sequential hexecution hrun hjob rfl hdistinct (fun m hm => (hevents m hm).1)
      (fun m hm => (hevents m hm).2) hended (by simp [hdrained])
  exact ⟨by decide +kernel, hset⟩

end PatternScan.Analysis
