import PatternScan.Analysis.Run

/-!
# Dispatch of requests

Requests are submitted, run side by side on a bounded number of workers, and cancelled.
Their notifications go through one queue to one receiver. The state of the dispatch
changes in steps, each of which touches one shared thing only: a step looks something up,
changes one set, sends one message, or takes one message off the queue and checks it.
Any order of the possible steps may happen.

After `cancel` has come to its end the receiver passes no notification of the request on.
A cancelled request is silenced as long as messages of it may be queued. Each run posts a
marker behind its last notification, and taking the marker off the queue ends the
silence.
-/

namespace PatternScan.Analysis

/-- A message in the queue. -/
inductive Envelope where
  | notification (n : Notification)
  /-- The run of this request sends nothing more. -/
  | retired (id : RequestId)
  deriving DecidableEq, Repr, Inhabited

/-- What is asked for in a request. -/
structure Submission where
  start : Nat
  count : Nat
  pattern : String
  workers : Nat
  continuous : Bool
  settings : Settings
  deriving DecidableEq, Repr, Inhabited

/-- A call in progress, told by what it does next. A call that cancels several requests
keeps those that come after the one it is at. -/
inductive Call where
  /-- Takes a number for a request. -/
  | numbering (job : Job)
  /-- Adds the request to the active ones. -/
  | activating (id : RequestId) (job : Job)
  /-- Notes that messages of the request may be queued. -/
  | registering (id : RequestId) (job : Job)
  /-- Starts the run. -/
  | launching (id : RequestId) (job : Job)
  /-- Silences a request of which messages may be queued. -/
  | silencing (id : RequestId) (rest : List RequestId)
  /-- Takes the request off the active ones. -/
  | withdrawing (id : RequestId) (rest : List RequestId)
  /-- Raises the stop flag of the request. -/
  | halting (id : RequestId) (rest : List RequestId)
  /-- Lists the active requests, to cancel them all. -/
  | listing
  deriving Repr, Inhabited

/-- What can be seen from outside. -/
inductive Observation where
  /-- A submission failed. -/
  | refused (e : ScanError)
  /-- A submission got this number. -/
  | accepted (id : RequestId)
  /-- A cancellation came to its end, and whether the request was still active. -/
  | cancelled (id : RequestId) (wasActive : Bool)
  /-- The receiver passed a notification on. -/
  | delivered (n : Notification)
  deriving Repr

/-- The state of the dispatch. -/
structure Dispatch where
  maxWorkers : Nat
  /-- The number that the next request gets. -/
  nextId : RequestId
  /-- The requests that are running or alive. -/
  active : List RequestId
  /-- The requests of which messages may be queued. -/
  unretired : List RequestId
  /-- Those of them whose notifications are not passed on. -/
  silenced : List RequestId
  /-- The requests whose stop flag is raised. -/
  halted : List RequestId
  queue : List Envelope
  runs : List Run
  calls : List Call
  deriving Repr

/-- A possible step. The answers of sources come along with it. -/
inductive Step where
  /-- A request is submitted while its source says it has so many records. -/
  | submit (s : Submission) (size : Except ScanError Nat)
  | cancel (id : RequestId)
  /-- All active requests are to be cancelled. -/
  | shutdown
  /-- The call at this place goes on. -/
  | call (index : Nat)
  /-- The run of a request goes on. -/
  | drive (id : RequestId)
  /-- The run of a live request learns the size of its source. -/
  | poll (id : RequestId) (size : Except ScanError Nat)
  /-- A worker of a request goes on. -/
  | work (id : RequestId) (worker : Nat)
  /-- A worker of a request gets what it reads. -/
  | load (id : RequestId) (worker : Nat) (record : Except ScanError Record)
  /-- The receiver takes a message off the queue. -/
  | receive

/-- The job of a submission, if it fits its source and its pattern can be compiled. -/
def Submission.job (s : Submission) (maxWorkers : Nat) (size : Except ScanError Nat) :
    Except ScanError Job := do
  let size ← size
  let stop := s.start + s.count
  if Number.maxNat64 < stop then throw (.request .overflow)
  if size < stop then throw (.request (.beyondSource s.start stop size))
  let context ← (Context.compile s.pattern s.settings).mapError ScanError.pattern
  return ⟨context, s.settings.chunkSize, min (max s.workers 1) maxWorkers, ⟨s.start, stop⟩,
    s.continuous⟩

namespace Dispatch

/-- A dispatch without requests, for so many workers at once, but at least one. -/
def empty (maxWorkers : Nat) : Dispatch := ⟨max maxWorkers 1, 1, [], [], [], [], [], [], []⟩

instance : Inhabited Dispatch := ⟨empty 1⟩

/-- The run of a request. -/
def run? (d : Dispatch) (id : RequestId) : Option Run := d.runs.find? fun r => r.id = id

/-- The state with the run of a request changed. -/
def setRun (d : Dispatch) (run : Run) : Dispatch :=
  { d with runs := d.runs.map fun r => if r.id = run.id then run else r }

/-- The stop flag of the request is raised. -/
def isHalted (d : Dispatch) (id : RequestId) : Bool := d.halted.contains id

/-- Notifications of the request are not passed on. -/
def isSilenced (d : Dispatch) (id : RequestId) : Bool := d.silenced.contains id

/-- The request is running or alive. -/
def isActive (d : Dispatch) (id : RequestId) : Bool := d.active.contains id

/-- The requests that are running or alive, in ascending order. -/
def activeRequests (d : Dispatch) : List RequestId := d.active.mergeSort (· ≤ ·)

/-- The number of workers that have steps left. -/
def busyWorkers (d : Dispatch) : Nat :=
  (d.runs.flatMap Run.workers).countP Worker.isRunning

/-- A list of numbers without one of them. -/
def without (ids : List RequestId) (id : RequestId) : List RequestId := ids.filter (· != id)

/-- Raises the stop flag of a request. -/
def halt (d : Dispatch) (id : RequestId) : Dispatch := { d with halted := d.halted.insert id }

/-- Takes a request off the active ones. -/
def deactivate (d : Dispatch) (id : RequestId) : Dispatch :=
  { d with active := without d.active id }

/-- Silences a request of which messages may be queued. -/
def silence (d : Dispatch) (id : RequestId) : Dispatch :=
  if d.unretired.contains id then { d with silenced := d.silenced.insert id } else d

/-- Forgets a request of which no message is queued any more. -/
def retire (d : Dispatch) (id : RequestId) : Dispatch :=
  { d with unretired := without d.unretired id, silenced := without d.silenced id }

/-- Adds a message to the queue. -/
def post (d : Dispatch) (e : Envelope) : Dispatch := { d with queue := d.queue ++ [e] }

/-- The state with a call in progress changed, or taken off once it has ended. -/
def setCall (d : Dispatch) (index : Nat) (next : Option Call) : Dispatch :=
  { d with
    calls := match next with
      | some call => d.calls.set index call
      | none => d.calls.eraseIdx index }

/-- The call that cancels the requests one after another. -/
def cancelAll : List RequestId → Option Call
  | [] => none
  | id :: rest => some (.silencing id rest)

/-- One step of a call in progress, what comes after it, and what can be seen of it. -/
def advance (d : Dispatch) : Call → Dispatch × Option Call × Option Observation
  | .numbering job =>
      ({ d with nextId := d.nextId + 1 }, some (.activating d.nextId job), none)
  | .activating id job =>
      ({ d with active := d.active.insert id }, some (.registering id job), none)
  | .registering id job =>
      ({ d with unretired := d.unretired.insert id }, some (.launching id job), none)
  | .launching id job => ({ d with runs := d.runs ++ [.ofJob id job] }, none, some (.accepted id))
  | .silencing id rest => (d.silence id, some (.withdrawing id rest), none)
  | .withdrawing id rest =>
      if d.isActive id then (d.deactivate id, some (.halting id rest), none)
      else (d, cancelAll rest, some (.cancelled id false))
  | .halting id rest => (d.halt id, cancelAll rest, some (.cancelled id true))
  | .listing => (d, cancelAll d.activeRequests, none)

/-- One step of a run, other than learning the size of its source. -/
def drive? (d : Dispatch) (run : Run) : Option Dispatch :=
  match run.phase with
  | .starting parts => some (d.setRun (run.start (d.isHalted run.id) parts))
  | .hiring part rest =>
      if d.busyWorkers < d.maxWorkers then some (d.setRun (run.hire part rest)) else none
  | .collecting => run.collect?.map d.setRun
  | .finishing => some (d.setRun (run.finish (d.isHalted run.id)))
  | .failing percent error => some ((d.halt run.id).setRun (run.fail percent error))
  | .leaving farewell =>
      some ((d.deactivate run.id).setRun (run.enter (Run.afterLeaving farewell)))
  | .asking n next =>
      some (d.setRun (run.enter (if d.isSilenced run.id then next else .telling n next)))
  | .telling n next => some ((d.post (.notification n)).setRun (run.enter next))
  | .resting =>
      some (d.setRun (run.enter (if d.isHalted run.id then .leaving none else .polling)))
  | .polling => none
  | .retiring => some ((d.post (.retired run.id)).setRun (run.enter .gone))
  | .gone => none

/-- One step of a worker, other than a read. -/
def work? (d : Dispatch) (run : Run) (index : Nat) : Option Dispatch :=
  run.workers[index]?.bind fun w =>
    (w.step (d.isHalted run.id) run.listening).map fun (next, event) =>
      d.setRun { run with
        workers := run.workers.set index next
        events := if run.listening then run.events ++ event.toList else run.events }

/-- A worker gets what it reads. -/
def load? (d : Dispatch) (run : Run) (index : Nat) (record : Except ScanError Record) :
    Option Dispatch :=
  run.workers[index]?.bind fun w =>
    if w.stage = .loading then
      some <| d.setRun { run with
        workers := run.workers.set index (w.load run.job.context run.job.chunkSize record) }
    else none

/-- A live run learns the size of its source. -/
def poll? (d : Dispatch) (run : Run) (size : Except ScanError Nat) : Option Dispatch :=
  match run.phase with
  | .polling => some (d.setRun (run.poll size))
  | _ => none

/-- The receiver takes a message off the queue and checks it. -/
def receive? (d : Dispatch) : Option (Dispatch × Option Notification) :=
  match d.queue with
  | [] => none
  | .notification n :: rest =>
      some ({ d with queue := rest }, if d.isSilenced n.request then none else some n)
  | .retired id :: rest => some (retire { d with queue := rest } id, none)

/-- The state after a step and what can be seen of it. Nothing comes of a step that is not
possible. -/
def step? (d : Dispatch) : Step → Option (Dispatch × Option Observation)
  | .submit s size =>
      match s.job d.maxWorkers size with
      | .ok job => some ({ d with calls := d.calls ++ [.numbering job] }, none)
      | .error e => some (d, some (.refused e))
  | .cancel id => some ({ d with calls := d.calls ++ [.silencing id []] }, none)
  | .shutdown => some ({ d with calls := d.calls ++ [.listing] }, none)
  | .call index =>
      d.calls[index]?.map fun call =>
        let (after, next, seen) := d.advance call
        (after.setCall index next, seen)
  | .drive id => ((d.run? id).bind d.drive?).map fun after => (after, none)
  | .poll id size =>
      ((d.run? id).bind fun run => d.poll? run size).map fun after => (after, none)
  | .work id index =>
      ((d.run? id).bind fun run => d.work? run index).map fun after => (after, none)
  | .load id index record =>
      ((d.run? id).bind fun run => d.load? run index record).map fun after => (after, none)
  | .receive => d.receive?.map fun (after, n) => (after, n.map .delivered)

end Dispatch

end PatternScan.Analysis
