import PatternScan.Analysis.RecordResult

/-!
# Notifications of a request

While a request runs, its results are sent in batches with the percentage done. A last
notification tells how it ended.
-/

namespace PatternScan.Analysis

/-- The number of a request. Numbers are given out once. -/
abbrev RequestId := Nat

/-- How far a request has come. -/
inductive RequestState where
  | progress
  | successful
  | error
  deriving DecidableEq, Repr, Inhabited

/-- A message about one request. -/
structure Notification where
  request : RequestId
  state : RequestState
  percent : Nat
  batch : List RecordResult
  /-- Some record of the batch tells the type of its call more than once. -/
  duplicateRole : Bool
  /-- What went wrong. -/
  error : Option String
  deriving DecidableEq, Repr, Inhabited

namespace Notification

/-- Further results. -/
def progress (request : RequestId) (percent : Nat) (batch : List RecordResult) : Notification :=
  ⟨request, .progress, percent, batch, batch.any RecordResult.hasDuplicateRole, none⟩

/-- The request came to its end. -/
def successful (request : RequestId) : Notification :=
  ⟨request, .successful, 100, [], false, none⟩

/-- The request broke off. -/
def failure (request : RequestId) (percent : Nat) (error : String) : Notification :=
  ⟨request, .error, percent, [], false, some error⟩

/-- No notification of the request follows. -/
def isTerminal (n : Notification) : Bool := n.state != .progress

end Notification

end PatternScan.Analysis
