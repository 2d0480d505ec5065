import PatternScan.Analysis.Worker
import PatternScan.Analysis.Notification
import PatternScan.Number.Integer

/-!
# The run of a request

A request that was accepted is run in phases: its range is split among workers, their
reports are turned into notifications, and a last notification tells how it ended. A
continuous request then stays alive and scans what its source has grown by, until it is
cancelled, a read fails, or the source shrinks.
-/

namespace PatternScan.Analysis

/-- A request that was accepted. -/
structure Job where
  context : Context
  chunkSize : Nat
  /-- The number of workers at most. -/
  workers : Nat
  range : ScanRange
  continuous : Bool
  deriving Repr, Inhabited

/-- What the run of a request does next. Where a notification is to be sent, the phase after
it comes along. -/
inductive Phase where
  /-- Looks whether to start workers on these parts. -/
  | starting (parts : List ScanRange)
  /-- Waits for a free worker for the first part. -/
  | hiring (part : ScanRange) (rest : List ScanRange)
  /-- Takes the reports of the workers. -/
  | collecting
  /-- Looks whether the request was cancelled during a scan that ended well. -/
  | finishing
  /-- Stops the workers because of an error. -/
  | failing (percent : Nat) (error : String)
  /-- Takes the request off the active ones. -/
  | leaving (farewell : Option Notification)
  /-- Looks whether the request was silenced. -/
  | asking (n : Notification) (next : Phase)
  /-- Sends a notification. -/
  | telling (n : Notification) (next : Phase)
  /-- Waits, then looks whether the request was cancelled. -/
  | resting
  /-- Asks the source for its size. -/
  | polling
  /-- Tells that nothing more is sent. -/
  | retiring
  | gone
  deriving Repr, Inhabited

/-- The scan of one range. -/
structure Scan where
  range : ScanRange
  /-- The range is one by which the source has grown. -/
  live : Bool
  /-- The number of records that the workers have reported. -/
  processed : Nat
  /-- The percentage of the last notification. -/
  percent : Nat
  deriving DecidableEq, Repr, Inhabited

/-- A request that is being run. -/
structure Run where
  id : RequestId
  job : Job
  scan : Scan
  phase : Phase
  workers : List Worker
  /-- Reports of the workers that were not yet taken. -/
  events : List WorkerEvent
  /-- Reports are still taken. -/
  listening : Bool
  deriving Repr, Inhabited

/-- The percentage of `processed` among `total` records. The product is kept below
`2 ^ 64`. -/
def percentOf (processed total : Nat) : Nat :=
  if total = 0 then 100 else min 100 (min (processed * 100) Number.maxNat64 / total)

/-- The error of a source that has fewer records than were scanned. -/
def shrunkMessage (scanned size : Nat) : String :=
  "source shrank from " ++ toString scanned ++ " to " ++ toString size ++ " records"

namespace Scan

/-- The scan of the range that was asked for. -/
def first (range : ScanRange) : Scan := ⟨range, false, 0, 0⟩

/-- The scan of a range by which the source has grown. -/
def further (range : ScanRange) : Scan := ⟨range, true, 0, 100⟩

/-- The scan after a report of so many records. -/
def advance (s : Scan) (processed : Nat) : Scan :=
  let processed := s.processed + processed
  { s with
    processed
    percent := if s.live then s.percent else percentOf processed s.range.size }

end Scan

namespace Run

/-- A run with a scan before it. -/
def begin (run : Run) (scan : Scan) : Run :=
  { run with
    scan
    phase := .starting (ScanRange.split scan.range.start scan.range.size run.job.workers)
    workers := []
    events := []
    listening := true }

/-- The run of a job under a number. -/
def ofJob (id : RequestId) (job : Job) : Run :=
  begin ⟨id, job, .first job.range, .gone, [], [], true⟩ (.first job.range)

/-- The run at another phase. -/
def enter (run : Run) (phase : Phase) : Run := { run with phase }

/-- Some worker has steps left. -/
def isWorking (run : Run) : Bool := run.workers.any Worker.isRunning

/-- Looks whether to start a worker on the next part. -/
def start (run : Run) (cancelled : Bool) : List ScanRange → Run
  | [] => run.enter .collecting
  | part :: rest => if cancelled then run.enter .collecting else run.enter (.hiring part rest)

/-- Starts a worker on a part. -/
def hire (run : Run) (part : ScanRange) (rest : List ScanRange) : Run :=
  { run with workers := run.workers ++ [.ofRange part], phase := .starting rest }

/-- The phase after a scan that ended well. -/
def afterScan (run : Run) : Phase := if run.scan.live then .resting else .finishing

/-- Takes a report. -/
def take (run : Run) (event : WorkerEvent) (rest : List WorkerEvent) : Run :=
  match event with
  | .batch processed results =>
      let scan := run.scan.advance processed
      { run with
        events := rest
        scan
        phase := .asking (.progress run.id scan.percent results) .collecting }
  | .failed error => { run with events := rest, phase := .failing run.scan.percent error }

/-- Takes the next report, or ends the scan when no worker is left to make one. -/
def collect? (run : Run) : Option Run :=
  match run.events with
  | event :: rest => some (run.take event rest)
  | [] => if run.isWorking then none else some (run.enter run.afterScan)

/-- The phase after the scan of the range that was asked for. -/
def finish (run : Run) (cancelled : Bool) : Run :=
  if cancelled then run.enter (.leaving none)
  else if run.job.continuous then run.enter (.asking (.progress run.id 100 []) .resting)
  else run.enter (.leaving (some (.successful run.id)))

/-- Stops listening to the workers and turns to the last notification. -/
def fail (run : Run) (percent : Nat) (error : String) : Run :=
  { run with
    listening := false
    phase := .leaving (some (.failure run.id percent error)) }

/-- The phase after the request was taken off the active ones. -/
def afterLeaving : Option Notification → Phase
  | some n => .asking n .retiring
  | none => .retiring

/-- Takes in the size of the source. -/
def poll (run : Run) (answer : Except ScanError Nat) : Run :=
  match answer with
  | .error e => run.enter (.failing 100 e.message)
  | .ok size =>
      let scanned := run.scan.range.stop
      if size < scanned then run.enter (.failing 100 (shrunkMessage scanned size))
      else if size = scanned then run.enter .resting
      else run.begin (.further ⟨scanned, size⟩)

end Run

end PatternScan.Analysis
