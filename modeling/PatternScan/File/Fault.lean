/-!
# Faults of the file system

The faults that reading and writing a file may meet, with the number and the wording
under which the operating system reports each.
-/

namespace PatternScan

/-- Why an operation on a file fails. -/
inductive FileFault where
  | notFound
  | alreadyExists
  | notADirectory
  | isADirectory
  | notText
  /-- A fault of which only number and wording are known. -/
  | other (code : Nat) (wording : String)
  deriving DecidableEq, Repr, Inhabited

namespace FileFault

/-- The number of the fault. A file that does not hold text has no fault of its own. -/
def code? : FileFault → Option Nat
  | notFound => some 2
  | alreadyExists => some 17
  | notADirectory => some 20
  | isADirectory => some 21
  | notText => none
  | other code _ => some code

/-- The kind of the fault as one word. -/
def kindName : FileFault → String
  | notFound => "NotFound"
  | alreadyExists => "AlreadyExists"
  | notADirectory => "NotADirectory"
  | isADirectory => "IsADirectory"
  | notText => "InvalidData"
  | other _ _ => "Uncategorized"

/-- The fault in words. -/
def wording : FileFault → String
  | notFound => "No such file or directory"
  | alreadyExists => "File exists"
  | notADirectory => "Not a directory"
  | isADirectory => "Is a directory"
  | notText => "stream did not contain valid UTF-8"
  | other _ wording => wording

/-- The fault in words, with its number. -/
def message (fault : FileFault) : String :=
  match fault.code? with
  | some code => fault.wording ++ " (os error " ++ toString code ++ ")"
  | none => fault.wording

end FileFault

end PatternScan
