import PatternScan.Analysis.Notification

/-!
# Collected results

The results of a request are collected by record number, in ascending order, whatever the
order in which batches arrive. A later result of a record takes the place of an earlier
one.
-/

namespace PatternScan.Analysis

/-- The results of one request, or of any, and what its notifications said last. -/
structure ResultSet where
  /-- Only notifications of this request are taken in. -/
  request : Option RequestId
  results : List RecordResult
  percent : Nat
  state : Option RequestState
  duplicateRole : Bool
  error : Option String
  deriving DecidableEq, Repr

namespace ResultSet

/-- No results yet. -/
def empty (request : Option RequestId) : ResultSet := ⟨request, [], 0, none, false, none⟩

instance : Inhabited ResultSet := ⟨empty none⟩

/-- Puts a result at its place among results in ascending order. -/
def insertSorted (r : RecordResult) : List RecordResult → List RecordResult
  | [] => [r]
  | s :: rest =>
      if r.id < s.id then r :: s :: rest
      else if r.id = s.id then r :: rest
      else s :: insertSorted r rest

/-- Adds a result, in place of an earlier one of the same record. -/
def insert (set : ResultSet) (r : RecordResult) : ResultSet :=
  { set with results := insertSorted r set.results }

/-- Adds results one after another. -/
def extend (set : ResultSet) (batch : List RecordResult) : ResultSet := batch.foldl insert set

/-- The set collects the notification. -/
def accepts (set : ResultSet) (n : Notification) : Bool :=
  match set.request with
  | some id => n.request = id
  | none => true

/-- Takes in a notification. One of another request changes nothing. -/
def apply (set : ResultSet) (n : Notification) : ResultSet :=
  if set.accepts n then
    extend
      { set with
        percent := n.percent
        state := some n.state
        duplicateRole := set.duplicateRole || n.duplicateRole
        error := n.error <|> set.error }
      n.batch
  else set

/-- The result of a record. -/
def get? (set : ResultSet) (id : RecordId) : Option RecordResult :=
  set.results.find? fun r => r.id = id

/-- The number of results. -/
def size (set : ResultSet) : Nat := set.results.length

/-- Forgets everything but the request. -/
def clear (set : ResultSet) : ResultSet := empty set.request

end ResultSet

end PatternScan.Analysis
