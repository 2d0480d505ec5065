import PatternScan.Analysis.RecordResult
import PatternScan.Analysis.RangeSplit
import PatternScan.ScanError

/-!
# Workers

A worker scans one range of positions record by record. It reports a batch whenever it
has scanned a chunk, and once more at the end if records are left. Before every record
and before every batch it looks whether it is to stop. The first record that cannot be
read ends it with a report of the failure; records scanned since the last batch are then
lost.

One step of a worker is one look at the stop flag, one read, or one report.
-/

namespace PatternScan.Analysis

/-- What a worker reports. -/
inductive WorkerEvent where
  /-- The number of records scanned since the report before, and the results among them. -/
  | batch (processed : Nat) (results : List RecordResult)
  /-- A record could not be read. -/
  | failed (error : String)
  deriving DecidableEq, Repr, Inhabited

/-- What a worker does next. -/
inductive WorkerStage where
  /-- Looks whether to go on to the record at its position. -/
  | pulling
  /-- Reads that record. -/
  | loading
  /-- Looks whether to report a batch. -/
  | flushing
  | reporting (event : WorkerEvent)
  | stopped
  deriving DecidableEq, Repr, Inhabited

/-- A worker on its way through a range. -/
structure Worker where
  /-- The next position. -/
  position : Nat
  /-- The position after the last one. -/
  stop : Nat
  /-- The number of records scanned since the last batch. -/
  processed : Nat
  /-- The results among them, in the order of their positions. -/
  results : List RecordResult
  stage : WorkerStage
  deriving DecidableEq, Repr, Inhabited

namespace Worker

/-- A worker at the start of its range. -/
def ofRange (r : ScanRange) : Worker := ⟨r.start, r.stop, 0, [], .pulling⟩

/-- The worker has steps left. -/
def isRunning (w : Worker) : Bool := w.stage != .stopped

/-- The worker at another stage. -/
def enter (w : Worker) (stage : WorkerStage) : Worker := { w with stage }

/-- Looks whether to go on. At the end of the range there is nothing to look for; records
left are reported. -/
def pull (w : Worker) (cancelled : Bool) : Worker :=
  if w.position < w.stop then w.enter (if cancelled then .stopped else .loading)
  else if 0 < w.processed || !w.results.isEmpty then w.enter .flushing
  else w.enter .stopped

/-- Takes in what reading the record at the position yields. -/
def load (w : Worker) (context : Context) (chunkSize : Nat)
    (answer : Except ScanError Record) : Worker :=
  match answer with
  | .error e => w.enter (.reporting (.failed e.message))
  | .ok record =>
      let processed := w.processed + 1
      { w with
        position := w.position + 1
        processed
        results := w.results ++ (context.analyze? record).toList
        stage := if processed = max chunkSize 1 then .flushing else .pulling }

/-- Looks whether to report the batch. -/
def flush (w : Worker) (cancelled : Bool) : Worker :=
  if cancelled then w.enter .stopped else w.enter (.reporting (.batch w.processed w.results))

/-- The worker after a report. It goes on only after a batch that somebody took. -/
def afterReport (w : Worker) (event : WorkerEvent) (taken : Bool) : Worker :=
  match event, taken with
  | .batch _ _, true => { w with processed := 0, results := [], stage := .pulling }
  | _, _ => w.enter .stopped

/-- One step other than a read, and the report that it makes. -/
def step (w : Worker) (cancelled taken : Bool) : Option (Worker × Option WorkerEvent) :=
  match w.stage with
  | .pulling => some (w.pull cancelled, none)
  | .flushing => some (w.flush cancelled, none)
  | .reporting event => some (w.afterReport event taken, some event)
  | .loading => none
  | .stopped => none

end Worker

end PatternScan.Analysis
