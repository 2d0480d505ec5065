import PatternScan.Number.Integer

/-!
# Arguments

The arguments name a command and set options. An option has a long name after two dashes
and may have a short one after a single dash; short ones can be written together. Its
value follows as the next argument, behind an equals sign, or right behind a short name.
Two dashes alone end the options.
-/

namespace PatternScan.Command

/-- Why arguments are refused. -/
inductive UsageFault where
  | unknownOption (text : String)
  | unknownCommand (text : String)
  | unexpectedWord (text : String)
  | missingCommand
  | missingOption (name : String)
  | missingWord (name : String)
  | missingValue (name : String)
  | unexpectedValue (name : String)
  | invalidValue (name value : String)
  | repeated (name : String)
  deriving DecidableEq, Repr

/-- The fault in words. -/
def UsageFault.message : UsageFault → String
  | unknownOption text => "unexpected argument '" ++ text ++ "' found"
  | unknownCommand text => "unrecognized subcommand '" ++ text ++ "'"
  | unexpectedWord text => "unexpected argument '" ++ text ++ "' found"
  | missingCommand => "a subcommand is required"
  | missingOption name => "the option '--" ++ name ++ "' is required"
  | missingWord name => "the argument <" ++ name ++ "> is required"
  | missingValue name => "a value is required for '--" ++ name ++ "'"
  | unexpectedValue name => "'--" ++ name ++ "' takes no value"
  | invalidValue name value => "invalid value '" ++ value ++ "' for '" ++ name ++ "'"
  | repeated name => "'--" ++ name ++ "' cannot be used multiple times"

/-- An option of a command. -/
structure OptionSpec where
  name : String
  short : Option Char
  /-- The values it accepts; nothing for an option without a value. -/
  accepts : Option (String → Bool)

/-- The arguments of one command. -/
structure Level where
  /-- The options given, with their values. -/
  options : List (String × String)
  /-- The arguments that are no options. -/
  words : List String
  /-- The name of the command that follows, and the arguments behind it. -/
  next : Option (String × List String)
  deriving DecidableEq, Repr, Inhabited

/-- What the arguments come to: a result, or a request for help or for the version. -/
inductive Asked (α : Type) where
  | given (result : α)
  | help
  | version
  deriving Repr

/-- The argument is an option and not a value. -/
def isOption (arg : String) : Bool := arg.startsWith "-" && 1 < arg.length

/-- What short names written together come to: the options without a value, and at the end
perhaps one with a value, which may be attached. -/
structure Cluster where
  flags : List OptionSpec
  last : Option (OptionSpec × Option String)

/-- A value behind a short name. -/
def attachedValue? : List Char → Option String
  | [] => none
  | '=' :: rest => some (String.ofList rest)
  | rest => some (String.ofList rest)

/-- Short names written together. -/
def readCluster (specs : List OptionSpec) : List Char → Except UsageFault Cluster
  | [] => .ok ⟨[], none⟩
  | c :: rest =>
      match specs.find? fun spec => spec.short = some c with
      | none => .error (.unknownOption ("-" ++ String.singleton c))
      | some spec =>
          if spec.accepts.isSome then .ok ⟨[], some (spec, attachedValue? rest)⟩
          else (readCluster specs rest).map fun cluster =>
            { cluster with flags := spec :: cluster.flags }

/-- A long name and what is attached to it behind an equals sign. -/
def splitLong (arg : String) : String × Option String :=
  match (arg.toList.drop 2).span (· != '=') with
  | (name, []) => (String.ofList name, none)
  | (name, _ :: value) => (String.ofList name, some (String.ofList value))

/-- An argument as options. -/
def readOption (specs : List OptionSpec) (arg : String) : Except UsageFault Cluster :=
  if arg.startsWith "--" then
    let (name, value) := splitLong arg
    match specs.find? fun spec => spec.name = name with
    | none => .error (.unknownOption ("--" ++ name))
    | some spec =>
        match spec.accepts, value with
        | none, none => .ok ⟨[spec], none⟩
        | none, some _ => .error (.unexpectedValue name)
        | some _, value => .ok ⟨[], some (spec, value)⟩
  else readCluster specs (arg.toList.drop 1)

/-- Notes an option with its value. -/
def addOption (given : List (String × String)) (spec : OptionSpec) (value : String) :
    Except UsageFault (List (String × String)) :=
  if given.any fun o => o.1 = spec.name then .error (.repeated spec.name)
  else if (spec.accepts.map fun accepts => accepts value).getD true then
    .ok (given ++ [(spec.name, value)])
  else .error (.invalidValue spec.name value)

/-- Notes options without a value. -/
def addFlags (given : List (String × String)) (flags : List OptionSpec) :
    Except UsageFault (List (String × String)) :=
  flags.foldlM (fun given spec => addOption given spec "") given

/-- A word that a command takes. -/
structure WordSpec where
  name : String
  accepts : String → Bool

/-- What a command takes besides options: the name of another command, or words of its
own. -/
inductive Operands where
  | command
  | words (specs : List WordSpec)

/-- Takes words in their order; a word too many is a fault. -/
def takeWords (taken : List String) : List WordSpec → List String →
    Except UsageFault (List WordSpec × List String)
  | specs, [] => .ok (specs, taken)
  | [], word :: _ => .error (.unexpectedWord word)
  | spec :: specs, word :: rest =>
      if spec.accepts word then takeWords (taken ++ [word]) specs rest
      else .error (.invalidValue spec.name word)

/-- Reads the arguments of a command. Where it takes the name of another command, the first
argument that is no option is that name. -/
def readLevel (specs : List OptionSpec) (operands : Operands) (given : List (String × String))
    (words : List String) : List String → Except UsageFault (Asked Level)
  | [] => .ok (.given ⟨given, words, none⟩)
  | arg :: rest =>
      if arg = "--" then
        match operands, rest with
        | .command, word :: _ => .error (.unexpectedWord word)
        | .command, [] => .ok (.given ⟨given, words, none⟩)
        | .words left, rest =>
            (takeWords words left rest).map fun (_, words) => .given ⟨given, words, none⟩
      else if isOption arg then
        match readOption specs arg with
        | .error fault => .error fault
        | .ok cluster =>
            if cluster.flags.any fun spec => spec.name = "help" then .ok .help
            else if cluster.flags.any fun spec => spec.name = "version" then .ok .version
            else
              match addFlags given cluster.flags, cluster.last with
              | .error fault, _ => .error fault
              | .ok given, none => readLevel specs operands given words rest
              | .ok given, some (spec, some value) =>
                  match addOption given spec value with
                  | .error fault => .error fault
                  | .ok given => readLevel specs operands given words rest
              | .ok given, some (spec, none) =>
                  match rest with
                  | [] => .error (.missingValue spec.name)
                  | value :: rest =>
                      if isOption value then .error (.missingValue spec.name)
                      else
                        match addOption given spec value with
                        | .error fault => .error fault
                        | .ok given => readLevel specs operands given words rest
      else match operands with
        | .command => .ok (.given ⟨given, words, some (arg, rest)⟩)
        | .words left =>
            match takeWords words left [arg] with
            | .error fault => .error fault
            | .ok (left, words) => readLevel specs (.words left) given words rest

end PatternScan.Command
