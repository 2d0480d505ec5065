import PatternScan.Source.Reader
import PatternScan.Analysis.RangeSplit
import PatternScan.Number.Integer

/-!
# Records held in memory

Records are numbered in the order in which they were added. A filter keeps only the
records of some numbers in sight; positions then count the numbers of the filter.
-/

namespace PatternScan

open Analysis (ScanRange)

/-- Records with an optional filter, a strictly ascending list of record numbers. -/
structure MemorySource where
  records : List Record
  filter : Option (List RecordId)
  deriving DecidableEq, Repr, Inhabited

namespace MemorySource

/-- The number that stands for no record. -/
def noRecord : RecordId := Number.maxNat64

/-- A record for each line. -/
def ofLines (lines : List String) : MemorySource :=
  ⟨lines.zipIdx.map fun (line, id) => Record.ofText id line, none⟩

/-- Adds a record; it takes the next number. -/
def push (s : MemorySource) (record : Record) : MemorySource :=
  { s with records := s.records ++ [{ record with id := s.records.length }] }

/-- Adds a record without named parts. -/
def pushLine (s : MemorySource) (line : String) : MemorySource :=
  s.push (Record.ofText s.records.length line)

/-- Ascending numbers without the repetitions. -/
def dropRepeats : List Nat → List Nat
  | a :: b :: rest => if a = b then dropRepeats (b :: rest) else a :: dropRepeats (b :: rest)
  | ids => ids

/-- Keeps only the records of these numbers in sight, or all records. -/
def setFilter (s : MemorySource) (ids : Option (List RecordId)) : MemorySource :=
  { s with filter := ids.map fun ids => dropRepeats (ids.mergeSort (· ≤ ·)) }

/-- A filter is set. -/
def isFiltered (s : MemorySource) : Bool := s.filter.isSome

/-- The number of positions. -/
def size (s : MemorySource) : Nat :=
  match s.filter with
  | some ids => ids.length
  | none => s.records.length

/-- The number of the record at a position. -/
def realPosition (s : MemorySource) (position : Nat) : RecordId :=
  match s.filter with
  | some ids => ids[position]?.getD noRecord
  | none => position

/-- The record at a position. -/
def get (s : MemorySource) (position : Nat) : Except SourceFault Record :=
  let id := s.realPosition position
  match s.records[id]? with
  | some record => .ok record
  | none => .error (.recordOutOfRange id)

/-- How many of ascending numbers come before a bound. -/
def countBelow (ids : List RecordId) (bound : RecordId) : Nat :=
  (ids.takeWhile (· < bound)).length

/-- The positions of the records whose numbers lie in the range. -/
def normalize (s : MemorySource) (range : ScanRange) : ScanRange :=
  match s.filter with
  | some ids => ⟨countBelow ids range.start, countBelow ids range.stop⟩
  | none => range

/-- The questions put to records in memory. -/
def reader : SourceReader MemorySource where
  size s := (.ok s.size, s)
  get s position := ((s.get position).mapError .source, s)

end MemorySource

end PatternScan
