import PatternScan.Command.Arguments
import PatternScan.Command.Paint

/-!
# Commands

The commands of the program with their options, and the part of the environment that they
depend on.
-/

namespace PatternScan.Command

/-- A scan of a log file. -/
structure AnalyzeOptions where
  file : String
  pattern : String
  start : Nat
  count : Option Nat
  workers : Option Nat
  /-- Go on as the file grows. -/
  follow : Bool
  json : Bool
  /-- The pattern that splits lines into fields. -/
  columns : Option String
  deriving DecidableEq, Repr, Inhabited

/-- What is to be done. -/
inductive Action where
  | analyze (options : AnalyzeOptions)
  | check (pattern : String)
  | palette
  | configInit (force : Bool)
  | configShow
  deriving DecidableEq, Repr

/-- A command with the configuration file it is to use. -/
structure Invocation where
  action : Action
  configPath : String
  deriving DecidableEq, Repr

/-- The variables of the environment. -/
structure Environment where
  value? : String → Option String

namespace Environment

/-- The name of a file in a directory. -/
def joinPath (directory name : String) : String :=
  if directory.endsWith "/" then directory ++ name else directory ++ "/" ++ name

/-- The directory of a user's configuration files. -/
def configHome? (env : Environment) : Option String :=
  match env.value? "XDG_CONFIG_HOME" with
  | some path => if path.startsWith "/" then some path else homeConfig? env
  | none => homeConfig? env
where
  /-- The directory below the user's home. -/
  homeConfig? (env : Environment) : Option String :=
    ((env.value? "HOME").filter fun home => !home.isEmpty).map fun home => joinPath home ".config"

/-- The configuration file that is used unless another is named. -/
def defaultConfigPath (env : Environment) : String :=
  match env.configHome? with
  | some directory => joinPath (joinPath directory "logscope") "config.toml"
  | none => ".logscope/config.toml"

/-- The terminal shows colours unless the environment says otherwise. -/
def terminal (env : Environment) : Terminal :=
  match env.value? "NO_COLOR" with
  | some text => if text.isEmpty then .colored else .plain
  | none => .colored

end Environment

/-- Any text. -/
def anyText (_ : String) : Bool := true

/-- The text is a number of at most 64 bits. -/
def isNumber (text : String) : Bool := (Number.readNat? Number.maxNat64 text).isSome

/-- The text names a file. -/
def isPath (text : String) : Bool := !text.isEmpty

/-- The options that every command takes. -/
def commonOptions : List OptionSpec :=
  [⟨"log-level", some 'l', some anyText⟩, ⟨"config", none, some isPath⟩, ⟨"help", some 'h', none⟩]

/-- The options before any command. -/
def topOptions : List OptionSpec := commonOptions ++ [⟨"version", some 'V', none⟩]

/-- The options of a scan. -/
def analyzeOptions : List OptionSpec :=
  commonOptions ++
    [⟨"pattern", some 'p', some anyText⟩, ⟨"from", none, some isNumber⟩,
      ⟨"count", none, some isNumber⟩, ⟨"workers", some 'w', some isNumber⟩,
      ⟨"follow", some 'f', none⟩, ⟨"json", none, none⟩, ⟨"columns", none, some anyText⟩]

/-- The options of writing the configuration. -/
def initOptions : List OptionSpec := commonOptions ++ [⟨"force", none, none⟩]

namespace Level

/-- The value of an option. -/
def value? (level : Level) (name : String) : Option String := level.options.lookup name

/-- The option is given. -/
def has (level : Level) (name : String) : Bool := (level.value? name).isSome

/-- The number that is the value of an option. -/
def number? (level : Level) (name : String) : Option Nat :=
  (level.value? name).bind (Number.readNat? Number.maxNat64)

/-- The word of a level that takes one. -/
def word (level : Level) (name : String) : Except UsageFault String :=
  match level.words.head? with
  | some word => .ok word
  | none => .error (.missingWord name)

end Level

/-- A command with the levels at which its options were given, outermost first. -/
abbrev Placed := Action × List Level

/-- Goes on with the arguments of a level, unless help is asked for. -/
def Asked.bindLevel {α : Type} (asked : Except UsageFault (Asked Level))
    (next : Level → Except UsageFault (Asked α)) : Except UsageFault (Asked α) :=
  match asked with
  | .error fault => .error fault
  | .ok .help => .ok .help
  | .ok .version => .ok .version
  | .ok (.given level) => next level

/-- The command of a level that takes words of its own. -/
def lastLevel (specs : List OptionSpec) (words : List WordSpec) (args : List String)
    (command : Level → Except UsageFault Action) : Except UsageFault (Asked Placed) :=
  Asked.bindLevel (readLevel specs (.words words) [] [] args) fun level =>
    (command level).map fun c => .given (c, [level])

/-- The scan that the options of a level ask for. -/
def analyzeCommand (level : Level) : Except UsageFault Action := do
  let file ← level.word "FILE"
  match level.value? "pattern" with
  | none => throw (.missingOption "pattern")
  | some pattern =>
      return .analyze
        { file, pattern
          start := (level.number? "from").getD 0
          count := level.number? "count"
          workers := level.number? "workers"
          follow := level.has "follow"
          json := level.has "json"
          columns := level.value? "columns" }

/-- The names of the commands that are found below the commands of a name. -/
def commandNames (above : List String) : List String :=
  match above with
  | [] => ["analyze", "check", "palette", "config", "help"]
  | ["config"] => ["init", "show", "help"]
  | _ => []

/-- Help on the command that words name, each one below those before it. -/
def helpOn {α : Type} (above : List String) : List String → Except UsageFault (Asked α)
  | [] => .ok .help
  | word :: rest =>
      if (commandNames above).contains word then helpOn (above ++ [word]) rest
      else .error (.unknownCommand word)

/-- The commands on the configuration. -/
def configCommand (args : List String) : Except UsageFault (Asked Placed) :=
  Asked.bindLevel (readLevel commonOptions .command [] [] args) fun outer =>
    let inner : Except UsageFault (Asked Placed) := match outer.next with
      | none => .error .missingCommand
      | some ("init", rest) => lastLevel initOptions [] rest fun level =>
          .ok (.configInit (level.has "force"))
      | some ("show", rest) => lastLevel commonOptions [] rest fun _ => .ok .configShow
      | some ("help", words) => helpOn ["config"] words
      | some (name, _) => .error (.unknownCommand name)
    inner.map fun (asked : Asked Placed) => match asked with
      | .given (c, levels) => .given (c, outer :: levels)
      | .help => .help
      | .version => .version

/-- The command of a name with its arguments. -/
def namedCommand (name : String) (args : List String) : Except UsageFault (Asked Placed) :=
  match name with
  | "analyze" => lastLevel analyzeOptions [⟨"FILE", isPath⟩] args analyzeCommand
  | "check" => lastLevel commonOptions [⟨"PATTERN", anyText⟩] args fun level =>
      (level.word "PATTERN").map .check
  | "palette" => lastLevel commonOptions [] args fun _ => .ok .palette
  | "config" => configCommand args
  | "help" => helpOn [] args
  | _ => .error (.unknownCommand name)

/-- The configuration file: the one named innermost, else that of the environment, else the
usual one. The environment is consulted at every level that names none. -/
def configPathOf (env : Environment) (levels : List Level) : Except UsageFault String :=
  let named := levels.map fun level => level.value? "config"
  match env.value? "LOGSCOPE_CONFIG" with
  | some path =>
      if path.isEmpty && named.any Option.isNone then .error (.invalidValue "config" path)
      else .ok ((named.reverse.findSome? id).getD path)
  | none => .ok ((named.reverse.findSome? id).getD env.defaultConfigPath)

/-- What the arguments ask for. -/
def Invocation.ofArguments (env : Environment) (args : List String) :
    Except UsageFault (Asked Invocation) :=
  Asked.bindLevel (readLevel topOptions .command [] [] args) fun top =>
    match top.next with
    | none => .error .missingCommand
    | some (name, rest) =>
        match namedCommand name rest with
        | .error fault => .error fault
        | .ok .help => .ok .help
        | .ok .version => .ok .version
        | .ok (.given (command, levels)) =>
            (configPathOf env (top :: levels)).map fun path => .given ⟨command, path⟩

end PatternScan.Command
