import PatternScan.Pattern.Compiled
import PatternScan.File.Fault
import PatternScan.Record.Basic
import PatternScan.Text.Quoted

/-!
# Errors

The causes that make an operation fail as a whole, and the wording of each.
-/

namespace PatternScan

/-- Why a source cannot deliver a record. -/
inductive SourceFault where
  | recordOutOfRange (id : RecordId)
  | lineOutOfRange (id : RecordId)
  /-- The file ends inside the line. -/
  | lineCutShort (id : RecordId)
  /-- The index lists the line behind the one after it, and taking its length panics. -/
  | lineReversed (id : RecordId)
  | unreadable (path : String) (fault : FileFault)
  /-- A source of another kind says so. -/
  | reported (text : String)
  deriving DecidableEq, Repr

/-- Why a request does not fit its source. -/
inductive RequestFault where
  | overflow
  | beyondSource (start stop size : Nat)
  deriving DecidableEq, Repr

/-- Why a configuration is refused. -/
inductive ConfigFault where
  /-- The setting of this name must not be zero. -/
  | zero (name : String)
  /-- The file to be written is there already. -/
  | fileExists (path : String)
  deriving DecidableEq, Repr

/-- What was done with a configuration file when a fault was met. -/
inductive ConfigAction where
  | read
  | createDirectory
  | write
  deriving DecidableEq, Repr

/-- Why an operation fails. -/
inductive ScanError where
  /-- The pattern of a request cannot be compiled. -/
  | pattern (e : PatternError)
  /-- The pattern that splits lines into columns cannot be compiled. -/
  | columns (e : PatternError)
  | source (fault : SourceFault)
  | request (fault : RequestFault)
  | config (fault : ConfigFault)
  /-- The configuration file does not follow its grammar. -/
  | configGrammar
  /-- A number of the configuration is too great to be written. -/
  | configNumber
  | file (fault : FileFault)
  | configFile (action : ConfigAction) (fault : FileFault)
  /-- A scan ended with the given error. -/
  | scanFailed (text : String)
  deriving DecidableEq, Repr

/-- The fault in words. -/
def SourceFault.message : SourceFault → String
  | recordOutOfRange id => "record " ++ toString id ++ " out of range"
  | lineOutOfRange id => "line " ++ toString id ++ " out of range"
  | lineCutShort id => "line " ++ toString id ++ ": failed to fill whole buffer"
  | lineReversed _ => "attempt to subtract with overflow"
  | unreadable path fault => Text.quote path ++ ": " ++ fault.message
  | reported text => text

/-- The fault in words. -/
def RequestFault.message : RequestFault → String
  | overflow => "range overflows"
  | beyondSource start stop size =>
      "range [" ++ toString start ++ ", " ++ toString stop ++ ") exceeds source size " ++
        toString size

/-- The fault in words. -/
def ConfigFault.message : ConfigFault → String
  | zero name => name ++ " must be greater than zero"
  | fileExists path => path ++ " already exists (use --force to overwrite)"

/-- What was being done, in words. -/
def ConfigAction.message : ConfigAction → String
  | read => "Failed to read config file"
  | createDirectory => "Failed to create config directory"
  | write => "Failed to write config file"

namespace ScanError

/-- The fault of a configuration file with what was being done. -/
def configFileText (action : ConfigAction) (fault : FileFault) : String :=
  action.message ++ ": " ++ fault.message

/-- The broken rule of a pattern, for an error that is about one. -/
def patternReason? : ScanError → Option String
  | pattern e => some e.reason
  | columns e => some e.diagnostic
  | _ => none

/-- The offset of the fault in a pattern. Column patterns are told by their whole diagnostic
and have no offset of their own. -/
def patternOffset : ScanError → Nat
  | pattern e => e.offset
  | _ => 0

/-- A faulty pattern in words. -/
def patternText (reason : String) (offset : Nat) : String :=
  "Invalid pattern at offset " ++ toString offset ++ ": " ++ reason

/-- The error in words. -/
def message : ScanError → String
  | pattern e => patternText e.reason e.offset
  | columns e => patternText e.diagnostic 0
  | source fault => "Source read failure: " ++ fault.message
  | request fault => "Invalid request: " ++ fault.message
  | config fault => "Configuration error: " ++ fault.message
  | configGrammar => "Config parse error"
  | configNumber => "Config serialization error: out-of-range value for u64 type"
  | file fault => "I/O error: " ++ fault.message
  | configFile action fault => "I/O error: " ++ configFileText action fault
  | scanFailed text => "Analysis failed: " ++ text

end ScanError

end PatternScan
