import PatternScan.Analysis.Dispatch
import PatternScan.Source.Reader

/-!
# Sessions

A session has the dispatch to itself: it carries each call to its end before it begins
another one, and runs requests only when asked to let everything settle. Settling takes
the possible steps in one fixed order: the requests one after another, each by steps of
its run where possible and else by steps of its first worker that has any left.
-/

namespace PatternScan.Analysis

/-- A step of one request, told without its number and without what a read yields. -/
inductive Move where
  | drive
  | work (worker : Nat)
  | load (worker : Nat) (position : Nat)
  deriving DecidableEq, Repr

/-- The run waits for time to pass, for its source, or for nothing any more. -/
def Phase.isIdle : Phase → Bool
  | resting => true
  | polling => true
  | gone => true
  | _ => false

/-- A bound on the steps of one scan of a run and on those after it. -/
def Run.workload (run : Run) : Nat := 16 * (run.scan.range.size + run.job.workers + 4)

/-- The number of a submission, or why it is refused. -/
def Observation.answer? : Observation → Option (Except ScanError RequestId)
  | .accepted id => some (.ok id)
  | .refused e => some (.error e)
  | _ => none

namespace Dispatch

/-- The state after a step, or the same state if the step is not possible. -/
def take (d : Dispatch) (step : Step) : Dispatch := ((d.step? step).map Prod.fst).getD d

/-- Carries the first call in progress on for at most so many steps, and tells what was
seen. -/
def finishCall : Nat → Dispatch → Dispatch × List Observation
  | 0, d => (d, [])
  | fuel + 1, d =>
      match d.step? (.call 0) with
      | none => (d, [])
      | some (next, seen) =>
          let (last, later) := finishCall fuel next
          (last, seen.toList ++ later)

/-- A bound on the steps of any one call. -/
def callLength (d : Dispatch) : Nat := 4 + 3 * d.active.length

/-- Begins a call and carries it to its end. -/
def perform (d : Dispatch) (step : Step) : Dispatch × List Observation :=
  match d.step? step with
  | none => (d, [])
  | some (next, seen) =>
      let (last, later) := finishCall next.callLength next
      (last, seen.toList ++ later)

/-- Submits a request to a source of this size. -/
def submit (d : Dispatch) (s : Submission) (size : Except ScanError Nat) :
    Except ScanError RequestId × Dispatch :=
  let (after, seen) := d.perform (.submit s size)
  ((seen.findSome? Observation.answer?).getD (.ok after.nextId), after)

/-- Cancels a request, and tells whether it was still active. -/
def cancel (d : Dispatch) (id : RequestId) : Bool × Dispatch :=
  let (after, seen) := d.perform (.cancel id)
  (seen.any fun o =>
    match o with
    | .cancelled _ wasActive => wasActive
    | _ => false, after)

/-- Cancels every active request. -/
def shutdown (d : Dispatch) : Dispatch := (d.perform .shutdown).1

/-- The step of a worker that comes next. -/
def workerMove? (run : Run) : Option Move :=
  (run.workers.findIdx? Worker.isRunning).bind fun index =>
    run.workers[index]?.map fun w =>
      if w.stage = .loading then .load index w.position else .work index

/-- The step of a request that comes next, unless it is idle. -/
def move? (d : Dispatch) (run : Run) : Option Move :=
  if !run.phase.isIdle && (d.drive? run).isSome then some .drive else workerMove? run

variable {S : Type}

/-- Runs a request until it is idle, for at most so many steps. -/
def runUntilIdle (reader : SourceReader S) (id : RequestId) : Nat → Dispatch → S → Dispatch × S
  | 0, d, source => (d, source)
  | fuel + 1, d, source =>
      match (d.run? id).bind d.move? with
      | none => (d, source)
      | some .drive => runUntilIdle reader id fuel (d.take (.drive id)) source
      | some (.work index) => runUntilIdle reader id fuel (d.take (.work id index)) source
      | some (.load index position) =>
          let (record, source) := reader.get source position
          runUntilIdle reader id fuel (d.take (.load id index record)) source

/-- Runs a request until it is idle. -/
def runToIdle (reader : SourceReader S) (id : RequestId) (d : Dispatch) (source : S) :
    Dispatch × S :=
  runUntilIdle reader id (((d.run? id).map Run.workload).getD 0) d source

/-- What a look of a live request at its source comes to. -/
inductive Look where
  /-- The request is not alive. -/
  | absent
  /-- There is nothing new. -/
  | unchanged
  | changed
  deriving DecidableEq, Repr

/-- Lets a live request look at its source once. -/
def look (reader : SourceReader S) (id : RequestId) (d : Dispatch) (source : S) :
    Look × Dispatch × S :=
  match d.run? id with
  | none => (.absent, d, source)
  | some run =>
      match run.phase with
      | .resting =>
          let awake := d.take (.drive id)
          match awake.run? id with
          | some run =>
              match run.phase with
              | .polling =>
                  let (size, source) := reader.size source
                  let same := match size with
                    | .ok n => n == run.scan.range.stop
                    | .error _ => false
                  (if same then .unchanged else .changed, awake.take (.poll id size), source)
              | _ => (.changed, awake, source)
          | none => (.absent, awake, source)
      | _ => (.absent, d, source)

/-- Lets a request run and look at its source in turn until nothing is new. -/
def settleRounds (reader : SourceReader S) (id : RequestId) : Nat → Dispatch → S → Dispatch × S
  | 0, d, source => (d, source)
  | rounds + 1, d, source =>
      let (d, source) := runToIdle reader id d source
      match look reader id d source with
      | (.changed, d, source) => settleRounds reader id rounds d source
      | (_, d, source) => (d, source)

/-- Lets a request run until it has ended, or is alive and has seen the size of its source. A
source that does not change meanwhile has nothing new after the second look, and a request
that is cancelled or fails needs one round more. -/
def settleRequest (reader : SourceReader S) (id : RequestId) (d : Dispatch) (source : S) :
    Dispatch × S :=
  settleRounds reader id 4 d source

/-- Lets all requests settle, each at its own source. -/
def settle (readerOf : RequestId → SourceReader S) (d : Dispatch) (source : S) : Dispatch × S :=
  d.runs.foldl (fun (d, source) run => settleRequest (readerOf run.id) run.id d source) (d, source)

/-- Takes at most so many messages off the queue, and tells the notifications passed on. -/
def receiveMany : Nat → Dispatch → Dispatch × List Notification
  | 0, d => (d, [])
  | fuel + 1, d =>
      match d.receive? with
      | none => (d, [])
      | some (next, n) =>
          let (last, later) := receiveMany fuel next
          (last, n.toList ++ later)

/-- Empties the queue. -/
def receiveAll (d : Dispatch) : Dispatch × List Notification := receiveMany d.queue.length d

end Dispatch

end PatternScan.Analysis
