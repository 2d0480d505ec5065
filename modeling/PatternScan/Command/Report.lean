import PatternScan.ScanError

/-!
# Errors on the error stream

A command that fails reports its error with the cause spelled out: the class of the error
and its parts, texts between quotes.
-/

namespace PatternScan.Command

/-- A class with one text. -/
def classed (name text : String) : String := name ++ "(" ++ Text.quote text ++ ")"

/-- A faulty pattern. -/
def patternReport (reason : String) (offset : Nat) : String :=
  "InvalidPattern \x7b reason: " ++ Text.quote reason ++ ", offset: " ++ toString offset ++
    " \x7d"

/-- A fault of the file system with a text of our own. -/
def ownFileReport (fault : FileFault) (text : String) : String :=
  "Io(Custom \x7b kind: " ++ fault.kindName ++ ", error: " ++ Text.quote text ++ " \x7d)"

/-- A fault of the file system. -/
def fileReport (fault : FileFault) : String :=
  match fault.code? with
  | some code =>
      "Io(Os \x7b code: " ++ toString code ++ ", kind: " ++ fault.kindName ++ ", message: " ++
        Text.quote fault.wording ++ " \x7d)"
  | none => ownFileReport fault fault.wording

/-- The error with its cause spelled out. -/
def errorReport : ScanError → String
  | .pattern e => patternReport e.reason e.offset
  | .columns e => patternReport e.diagnostic 0
  | .source fault => classed "SourceRead" fault.message
  | .request fault => classed "InvalidRequest" fault.message
  | .config fault => classed "Config" fault.message
  | .configGrammar => classed "ConfigParse" "configuration file"
  | .configNumber => classed "ConfigSerialize" "out-of-range value for u64 type"
  | .file fault => fileReport fault
  | .configFile action fault => ownFileReport fault (ScanError.configFileText action fault)
  | .scanFailed text => classed "Other" (ScanError.scanFailed text).message

end PatternScan.Command
