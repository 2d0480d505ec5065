import PatternScan.Command.Run
import Std.Async.Signal

/-!
# The program

The command line on a real file system. Everything is decided by `Command.runArguments`
and `Command.poll`; here files are read and written, texts are printed, and a scan that
goes on is polled until it ends or the user interrupts it.
-/

namespace PatternScan.Program

open PatternScan.Command (Environment Outcome ScanSession ScanState)

/-! ## Files -/

/-- The fault that an operation of the operating system met. -/
def faultOf : IO.Error → FileFault
  | .noFileOrDirectory _ _ _ => .notFound
  | .alreadyExists _ _ _ => .alreadyExists
  | .inappropriateType _ code _ => if code.toNat = 21 then .isADirectory else .notADirectory
  | .permissionDenied _ code _ => .other code.toNat "Permission denied"
  | .resourceExhausted _ code wording => .other code.toNat wording
  | .invalidArgument _ code wording => .other code.toNat wording
  | .otherError code wording => .other code.toNat wording
  | _ => .other 5 "Input/output error"

/-- The answer of an operation, with its fault told apart. -/
def attempt {α : Type} (act : IO α) : IO (Except FileFault α) := do
  match ← act.toBaseIO with
  | .ok a => return .ok a
  | .error e => return .error (faultOf e)

/-- The directory above a path, if the path names one. -/
def directoryAbove? (path : String) : Option String :=
  match path.toList.reverse.dropWhile (· != '/') with
  | [] => none
  | [_] => some "/"
  | _ :: rest => some (String.ofList rest.reverse)

/-- The path leads to a directory. -/
def isDirectory (path : String) : IO Bool := do
  return (← attempt (IO.FS.realPath (path ++ "/."))).isOk

/-- Makes a directory, and those above it where they are missing. -/
partial def makeDirectories (path : String) : IO (Except FileFault Unit) := do
  match ← attempt (IO.FS.createDir path), directoryAbove? path with
  | .ok (), _ => return .ok ()
  | .error .notFound, some above =>
      match ← makeDirectories above with
      | .ok () => attempt (IO.FS.createDir path)
      | .error fault => return .error fault
  | .error fault, _ => return if ← isDirectory path then .ok () else .error fault

/-- Writes a file in a directory that is there. -/
def write (path : String) (content : Bytes) : IO (Except (SaveStep × FileFault) Unit) := do
  return (← attempt (IO.FS.writeBinFile path ⟨content.toArray⟩)).mapError fun fault =>
    (.file, fault)

/-- Writes a file and makes the directories above it. -/
def save (path : String) (content : Bytes) : IO (Except (SaveStep × FileFault) Unit) := do
  match directoryAbove? path with
  | none => write path content
  | some directory =>
      match ← makeDirectories directory with
      | .ok () => write path content
      | .error fault => return .error (.directories, fault)

/-- The files of the operating system. -/
def files : FileAccess IO where
  read path := do return (← attempt (IO.FS.readBinFile path)).map ByteArray.toList
  leadsSomewhere path := do return (← attempt (IO.FS.realPath path)).isOk
  save := save

/-! ## Environment -/

/-- The variables that the program looks at. -/
def variableNames : List String := ["LOGSCOPE_CONFIG", "XDG_CONFIG_HOME", "HOME", "NO_COLOR"]

/-- The environment of the process. -/
def environment : IO Environment := do
  let values ← variableNames.mapM fun name => do return (name, ← IO.getEnv name)
  return ⟨fun name => (values.lookup name).join⟩

/-! ## Running -/

/-- Prints what a command leaves. -/
def finish (outcome : Outcome) : IO UInt32 := do
  IO.print outcome.output
  (← IO.getStdout).flush
  IO.eprint outcome.errors
  return UInt32.ofNat outcome.code

/-- Polls a scan until it ends by itself or the interrupt has come. -/
partial def follow (interrupted : BaseIO Bool) (session : ScanSession) : IO UInt32 := do
  if ← interrupted then finish session.interrupt
  else
    IO.sleep (UInt32.ofNat (max 1 session.pollInterval))
    match ← Command.poll files session with
    | .ended outcome => finish outcome
    | .live session output =>
        IO.print output
        (← IO.getStdout).flush
        follow interrupted session

/-- Runs a command from its first state on. -/
def drive : ScanState → IO UInt32
  | .ended outcome => finish outcome
  | .live session output => do
      IO.print output
      (← IO.getStdout).flush
      let interrupt ← (← Std.Async.Signal.Waiter.mk .sigint false).wait
      follow (IO.hasFinished interrupt) session

end PatternScan.Program

/-- Runs the command that the arguments name. -/
def main (args : List String) : IO UInt32 := do
  let env ← PatternScan.Program.environment
  PatternScan.Program.drive (← PatternScan.Command.runArguments PatternScan.Program.files env args)
