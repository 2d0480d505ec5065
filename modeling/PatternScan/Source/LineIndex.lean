import PatternScan.File.Fault
import PatternScan.Text.Utf8

/-!
# Index of the lines of a file

The index knows where each complete line of a file starts. Taking in a file that has
grown reads only what comes after the last complete line. A file that is shorter than
the part indexed, or whose first bytes or last line end differ from what was indexed, was
replaced and is indexed from the start.

A read may break off at any point; lines found before that point stay in the index.
-/

namespace PatternScan

/-- The byte that ends a line. -/
def lineFeed : UInt8 := 10

/-- Where the complete lines of a file start. -/
structure LineIndex where
  /-- The offset of the first byte of every line. -/
  starts : List Nat
  /-- The offset just past the last line. -/
  indexedTo : Nat
  /-- The first bytes of the part indexed. -/
  head : Bytes
  deriving DecidableEq, Repr, Inhabited

namespace LineIndex

/-- How many first bytes are remembered. -/
def headSample : Nat := 64

/-- The index of no lines. -/
def empty : LineIndex := ⟨[], 0, []⟩

/-- The number of lines. -/
def lineCount (index : LineIndex) : Nat := index.starts.length

/-- The lengths of the complete lines in turn, line ends included. `length` bytes of the
first line came before. -/
def lineLengths (length : Nat) : Bytes → List Nat
  | [] => []
  | b :: bs =>
      if b == lineFeed then (length + 1) :: lineLengths 0 bs else lineLengths (length + 1) bs

/-- The offsets at which lines of these lengths start, from `offset` on. -/
def startsFrom (offset : Nat) : List Nat → List Nat
  | [] => []
  | length :: rest => offset :: startsFrom (offset + length) rest

/-- The part indexed still reads as it did: the first bytes are the same, and it ends with a
line end. -/
def stillMatches (index : LineIndex) (bytes : Bytes) : Bool :=
  index.indexedTo = 0 ||
    (bytes.take index.head.length == index.head &&
      bytes[index.indexedTo - 1]? == some lineFeed)

/-- The file was replaced since it was indexed. -/
def isReplaced (index : LineIndex) (bytes : Bytes) : Bool :=
  bytes.length < index.indexedTo || !index.stillMatches bytes

/-- The index after some lines more were found, before the part indexed is moved on. -/
def addLines (index : LineIndex) (lengths : List Nat) : LineIndex :=
  { index with starts := index.starts ++ startsFrom index.indexedTo lengths }

/-- The index with the part indexed moved past these lines. -/
def moveOn (index : LineIndex) (lengths : List Nat) : LineIndex :=
  { index with indexedTo := lengths.foldl (· + ·) index.indexedTo }

/-- Fewer first bytes are remembered than could be. -/
def lacksHead (index : LineIndex) : Bool :=
  index.head.length < min index.indexedTo headSample

/-- The index with as many first bytes of the file as are remembered. -/
def sampleHead (index : LineIndex) (bytes : Bytes) : LineIndex :=
  if index.lacksHead then { index with head := bytes.take (min index.indexedTo headSample) }
  else index

/-- The point at which reading a file breaks off. -/
inductive BreakPoint where
  /-- The file cannot be opened or measured. -/
  | opening
  /-- The part indexed cannot be compared. -/
  | comparing
  /-- The file cannot be read on after this many further lines. -/
  | line (read : Nat)
  /-- The first bytes cannot be read. -/
  | sampling
  deriving DecidableEq, Repr

/-- One attempt to read a file: what it holds, and where the attempt breaks off. -/
structure Attempt where
  bytes : Bytes
  broken : Option (BreakPoint × FileFault)
  deriving DecidableEq, Repr

/-- The fault met at a point. -/
def Attempt.faultAt? (a : Attempt) (point : BreakPoint) : Option FileFault :=
  match a.broken with
  | some (p, fault) => if p = point then some fault else none
  | none => none

/-- The fault met while reading lines, and after how many. -/
def Attempt.lineFault? (a : Attempt) (available : Nat) : Option (Nat × FileFault) :=
  match a.broken with
  | some (.line read, fault) => if read ≤ available then some (read, fault) else none
  | _ => none

/-- What a refresh leaves: the index, and whether it was begun anew. -/
structure Refreshed where
  index : LineIndex
  anew : Bool
  deriving DecidableEq, Repr

/-- Remembers the first bytes once the lines are in. -/
def finish (index : LineIndex) (anew : Bool) (a : Attempt) : Except FileFault Nat × Refreshed :=
  match if index.lacksHead then a.faultAt? .sampling else none with
  | some fault => (.error fault, ⟨index, anew⟩)
  | none =>
      let sampled := index.sampleHead a.bytes
      (.ok sampled.lineCount, ⟨sampled, anew⟩)

/-- Takes in the lines after the part indexed. -/
def grow (index : LineIndex) (anew : Bool) (a : Attempt) : Except FileFault Nat × Refreshed :=
  if a.bytes.length = index.indexedTo then
    (.ok index.lineCount, ⟨index, anew⟩)
  else
    let lengths := lineLengths 0 (a.bytes.drop index.indexedTo)
    match a.lineFault? lengths.length with
    | some (read, fault) => (.error fault, ⟨index.addLines (lengths.take read), anew⟩)
    | none => finish ((index.addLines lengths).moveOn lengths) anew a

/-- Brings the index up to what an attempt reads, and tells the number of lines. -/
def refresh (index : LineIndex) (a : Attempt) : Except FileFault Nat × Refreshed :=
  match a.faultAt? .opening with
  | some fault => (.error fault, ⟨index, false⟩)
  | none =>
      let compares := index.indexedTo ≤ a.bytes.length && 0 < index.indexedTo
      match if compares then a.faultAt? .comparing else none with
      | some fault => (.error fault, ⟨index, false⟩)
      | none => if index.isReplaced a.bytes then grow empty true a else grow index false a

/-- The offsets of a line, from its first byte up to the byte after its end. -/
def bounds? (index : LineIndex) (line : Nat) : Option (Nat × Nat) :=
  index.starts[line]?.map fun start => (start, index.starts[line + 1]?.getD index.indexedTo)

end LineIndex

end PatternScan
