import PatternScan.Command.Check
import PatternScan.Command.Scan
import PatternScan.Config.Store

/-!
# Running commands

A command asks the file system for what it needs and comes to an outcome, except for a
scan that goes on.
-/

namespace PatternScan.Command

variable {m : Type → Type} [Monad m]

/-- The lines of a palette. -/
def paletteText (terminal : Terminal) (p : Palette) : String :=
  String.join (p.colors.zipIdx.map fun (c, index) =>
    padLeft 3 (toString index) ++ "  " ++ terminal.swatch c ++ "  " ++ c.hex ++ "\n")

/-- An outcome from a configuration. -/
def withConfig (files : FileAccess m) (path : String) (next : Config → m ScanState) :
    m ScanState := do
  match ← Config.load files path with
  | .error e => return .ended (.failure "" e)
  | .ok config => next config

/-- Writes the standard configuration, in place of a file that is there only if asked to. -/
def writeConfig (files : FileAccess m) (path : String) (force : Bool) : m Outcome := do
  if (← files.leadsSomewhere path) && !force then
    return .failure "" (.config (.fileExists path))
  match ← (Config.standardOn files.cores).save files path with
  | .error e => return .failure "" e
  | .ok () => return .success ("Wrote default configuration to " ++ path ++ "\n")

/-- A configuration with the path it came from. -/
def showConfig (path : String) (config : Config) : Outcome :=
  match config.render with
  | .ok text => .success ("# " ++ path ++ "\n" ++ text)
  | .error e => .failure ("# " ++ path ++ "\n") e

/-- Runs a command. -/
def run (files : FileAccess m) (terminal : Terminal) (invocation : Invocation) : m ScanState := do
  let path := invocation.configPath
  match invocation.action with
  | .check pattern =>
      match CompiledPattern.compile pattern with
      | .ok p => return .ended (.success (patternText terminal p))
      | .error e => return .ended (.failure "" (.pattern e))
  | .palette => withConfig files path fun config =>
      return .ended (.success (paletteText terminal config.palette))
  | .configInit force => return .ended (← writeConfig files path force)
  | .configShow => withConfig files path fun config => return .ended (showConfig path config)
  | .analyze options => withConfig files path fun config => do
      let content ← files.read options.file
      match beginScan files.toMachine config terminal options content with
      | .error stop => return .ended stop.outcome
      | .ok session => return session.advance content

/-- Lets a scan that goes on look at its file. -/
def poll (files : FileAccess m) (session : ScanSession) : m ScanState := do
  return session.advance (← files.read session.file.path)

/-- The outcome of arguments that are refused. -/
def usageOutcome (fault : UsageFault) : Outcome := ⟨2, "", "error: " ++ fault.message ++ "\n"⟩

/-- The commands and options in short. -/
def helpText : String :=
  "Pattern-driven log analysis with scripted capture groups\n\n" ++
    "Usage: logscope [OPTIONS] <COMMAND>\n\n" ++
    "Commands:\n" ++
    "  analyze  Analyze a log file with a pattern\n" ++
    "  check    Show how a pattern's group names are interpreted\n" ++
    "  palette  Print the palette resolved from the configuration\n" ++
    "  config   Configuration management\n"

/-- The name of the program with its version. -/
def versionText : String := "logscope 0.1.0\n"

/-- Runs what the arguments ask for. -/
def runArguments (files : FileAccess m) (env : Environment) (args : List String) :
    m ScanState :=
  match Invocation.ofArguments env args with
  | .error fault => return .ended (usageOutcome fault)
  | .ok .help => return .ended (.success helpText)
  | .ok .version => return .ended (.success versionText)
  | .ok (.given invocation) => run files env.terminal invocation

end PatternScan.Command
