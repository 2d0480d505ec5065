import PatternScan.Analysis.ResultSet
import PatternScan.Analysis.Session
import PatternScan.Command.Invocation
import PatternScan.Command.RecordView
import PatternScan.Command.Report
import PatternScan.Config.Basic
import PatternScan.Machine
import PatternScan.Source.TextFile

/-!
# Scanning a log file

A scan submits one request for the part of a file that was asked for. A scan that ends by
itself prints its results in the order of their lines once all are there; one that goes
on prints them as they come, until it is interrupted or fails.
-/

namespace PatternScan.Command

open Analysis (Dispatch Notification RecordResult RequestId ResultSet Submission)

/-- What a command leaves: its exit code and what it has printed. -/
structure Outcome where
  code : Nat
  output : String
  errors : String
  deriving DecidableEq, Repr, Inhabited

namespace Outcome

/-- A command that did what it was asked. -/
def success (output : String) : Outcome := ⟨0, output, ""⟩

/-- A command that failed after some output. -/
def failure (output : String) (e : ScanError) : Outcome :=
  ⟨1, output, "Error: " ++ errorReport e ++ "\n"⟩

end Outcome

/-- Why a scan is not begun. -/
inductive ScanStop where
  | failed (e : ScanError)
  /-- A library does not make what it is asked for, which ends the program. -/
  | refused (r : Refusal)
  deriving DecidableEq, Repr

/-- What a scan leaves that is not begun. -/
def ScanStop.outcome : ScanStop → Outcome
  | failed e => .failure "" e
  | refused r => ⟨101, "", "thread 'main' panicked:\n" ++ r.message ++ "\n"⟩

/-- A scan that was submitted. -/
structure ScanSession where
  file : TextFile
  dispatch : Dispatch
  id : RequestId
  /-- The number of lines that were asked for. -/
  count : Nat
  follow : Bool
  /-- Milliseconds between two looks at a growing file. -/
  pollInterval : Nat
  style : RecordStyle
  results : ResultSet

/-- Where a scan has come to. -/
inductive ScanState where
  /-- It goes on; what was printed on the way. -/
  | live (session : ScanSession) (output : String)
  | ended (outcome : Outcome)

/-- The lines of a file that are asked for: those from `start` on, at most `count`. -/
def clampRange (options : AnalyzeOptions) (size : Nat) : Nat × Nat :=
  let start := min options.start size
  (start, min (options.count.getD (size - start)) (size - start))

/-- The file with its columns set, and the number of its lines. -/
def openFile (config : Config) (options : AnalyzeOptions) (content : Except FileFault Bytes) :
    Except ScanError (Nat × TextFile) := do
  let file ← (TextFile.ofPath options.file config.source.cacheCapacity content).mapError .file
  let file ← match options.columns with
    | some columns => file.withColumns columns
    | none => .ok file
  let (size, file) := file.refresh content
  return (← size.mapError .file, file)

/-- The request for the part of a file that is asked for. -/
def submissionOf (config : Config) (options : AnalyzeOptions) (size : Nat) : Submission :=
  let (start, count) := clampRange options size
  { start, count
    pattern := options.pattern
    workers := config.effectiveWorkers options.workers
    continuous := options.follow
    settings := config.requestSettings }

/-- Submits a scan. Room for its records is made before its file is opened, and the pool of its
workers after that. -/
def beginScan (machine : Machine) (config : Config) (terminal : Terminal) (options : AnalyzeOptions)
    (content : Except FileFault Bytes) : Except ScanStop ScanSession := do
  (machine.makeCache (max config.source.cacheCapacity 1)).mapError .refused
  let (size, file) ← (openFile config options content).mapError .failed
  (machine.makePool (max config.analysis.maxWorkers 1)).mapError .refused
  let submission := submissionOf config options size
  let (current, source) := OpenTextFile.reader.size ⟨file, content⟩
  let (answer, dispatch) := (Dispatch.empty config.analysis.maxWorkers).submit submission current
  let id ← answer.mapError .failed
  return {
    file := source.file
    dispatch, id
    count := submission.count
    follow := options.follow
    pollInterval := submission.settings.pollInterval
    style := ⟨options.json, config.source.fieldSeparator, terminal⟩
    results := .empty (some id) }

/-- What a scan prints: text, and an error that ends it. -/
structure Printed where
  file : TextFile
  output : String
  error : Option ScanError

/-- Prints results one after another. A record that cannot be read ends the printing. -/
def printResults (style : RecordStyle) (content : Except FileFault Bytes) (file : TextFile)
    (output : String) : List RecordResult → Printed
  | [] => ⟨file, output, none⟩
  | r :: rest =>
      match file.get content r.id with
      | (.ok record, file) =>
          printResults style content file (output ++ recordText style record r) rest
      | (.error fault, file) => ⟨file, output, some (.source fault)⟩

/-- The notifications up to the first that ends the request. -/
def untilTerminal : List Notification → List Notification
  | [] => []
  | n :: rest => if n.isTerminal then [n] else n :: untilTerminal rest

/-- The results of notifications in the order in which they are printed as they come: batch by
batch, each in the order of its lines. -/
def batchOrder (seen : List Notification) : List RecordResult :=
  seen.flatMap fun n => n.batch.mergeSort fun a b => a.id ≤ b.id

/-- The line that sums a scan up. -/
def summary (session : ScanSession) : String :=
  if session.style.json then ""
  else toString session.results.size ++ " matching records in " ++ toString session.count ++
    " scanned lines" ++
    (if session.results.duplicateRole then
      " (some records carry more than one request/response/event role)" else "") ++ "\n"

/-- The end of a scan after all results were printed. -/
def conclude (session : ScanSession) (output notes : String) : Outcome :=
  match session.results.error with
  | some text => { Outcome.failure output (.scanFailed text) with
      errors := notes ++ (Outcome.failure output (.scanFailed text)).errors }
  | none => ⟨0, output, notes ++ summary session⟩

/-- Lets a scan go on until nothing is new, with what its file holds now. -/
def ScanSession.advance (session : ScanSession) (content : Except FileFault Bytes) : ScanState :=
  let (dispatch, source) :=
    session.dispatch.settle (fun _ => OpenTextFile.reader) ⟨session.file, content⟩
  let (dispatch, delivered) := dispatch.receiveAll
  let seen := untilTerminal delivered
  let results := seen.foldl ResultSet.apply session.results
  let session := { session with file := source.file, dispatch, results }
  let ended := seen.any Notification.isTerminal
  let toPrint := if session.follow then batchOrder seen else results.results
  let printed := printResults session.style content session.file "" toPrint
  let session := { session with file := printed.file }
  match printed.error with
  | some e => .ended (.failure printed.output e)
  | none =>
      if ended || !session.follow then .ended (conclude session printed.output "")
      else .live session printed.output

/-- Ends a scan from outside. -/
def ScanSession.interrupt (session : ScanSession) : Outcome :=
  conclude { session with dispatch := (session.dispatch.cancel session.id).2 } "" "Interrupted\n"

end PatternScan.Command
