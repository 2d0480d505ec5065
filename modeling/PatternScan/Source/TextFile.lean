import PatternScan.Source.Reader
import PatternScan.Source.LineIndex
import PatternScan.Source.RecentCache
import PatternScan.Text.Utf8

/-!
# Lines of a text file as records

Every complete line of a file is a record, numbered from zero. Lines are found when the
file is refreshed; reading a record never looks for new lines. Records read are
remembered in a cache until the file is seen to be replaced. A column pattern, where
one is set, splits each line into named fields.
-/

namespace PatternScan

/-- A text file as it was last seen. -/
structure TextFile where
  path : String
  index : LineIndex
  cache : RecentCache RecordId Record
  columns : Option CompiledPattern
  deriving Repr

namespace TextFile

/-- The byte that may stand before a line feed at the end of a line. -/
def carriageReturn : UInt8 := 13

/-- A line without the line feeds and carriage returns at its end. -/
def stripEnd (raw : Bytes) : Bytes :=
  (raw.reverse.dropWhile fun b => b == lineFeed || b == carriageReturn).reverse

/-- The name of a field that a group captured. -/
def columnName (group : Nat) (name : Option String) : String :=
  name.getD ("column" ++ toString group)

/-- The field of a group's capture, unless it is empty. -/
def columnField? (group : Nat) (name : Option String) (capture : Option Capture) :
    Option Field :=
  capture.bind fun c =>
    if c.start < c.stop then some ⟨columnName group name, ⟨c.start, c.stop - 1⟩⟩ else none

/-- The fields of a text: those of the captures in group order, or a single one where no
column pattern matches. -/
def splitFields (columns : Option CompiledPattern) (text : String) : List Field :=
  match columns.bind fun p => (p.captures? text).map fun captures => (p, captures) with
  | some (p, captures) =>
      ((p.groupNames.drop 1).zip captures).zipIdx.filterMap fun ((name, capture), i) =>
        columnField? (i + 1) name capture
  | none => Field.payload text

/-- The record of a line. -/
def recordOfLine (columns : Option CompiledPattern) (id : RecordId) (raw : Bytes) : Record :=
  let text := Text.Utf8.decodeLossy (stripEnd raw)
  ⟨id, text, raw.length, none, splitFields columns text⟩

/-- Takes in the lines that an attempt to read the file finds, and tells their number. -/
def refreshThrough (f : TextFile) (a : LineIndex.Attempt) : Except FileFault Nat × TextFile :=
  let (answer, after) := f.index.refresh a
  let cache := if after.anew then f.cache.clear else f.cache
  (answer, { f with index := after.index, cache })

/-- The attempt to read a file that can be read whole or not at all. -/
def attempt : Except FileFault Bytes → LineIndex.Attempt
  | .ok bytes => ⟨bytes, none⟩
  | .error fault => ⟨[], some (.opening, fault)⟩

/-- Takes in the lines that the file holds now, and tells their number. -/
def refresh (f : TextFile) (content : Except FileFault Bytes) : Except FileFault Nat × TextFile :=
  f.refreshThrough (attempt content)

/-- A file with room for so many remembered records, its lines taken in. -/
def ofPath (path : String) (cacheCapacity : Nat) (content : Except FileFault Bytes) :
    Except FileFault TextFile :=
  let (answer, f) := refresh ⟨path, .empty, .empty cacheCapacity, none⟩ content
  answer.map fun _ => f

/-- Sets the column pattern. Records read before are forgotten. -/
def withColumns (f : TextFile) (pattern : String) : Except ScanError TextFile :=
  match CompiledPattern.ofSource pattern with
  | .ok columns => .ok { f with columns := some columns, cache := f.cache.clear }
  | .error e => .error (.columns e)

/-- Reads a record from the file. -/
def readLine (f : TextFile) (content : Except FileFault Bytes) (id : RecordId) :
    Except SourceFault Record :=
  match f.index.bounds? id with
  | none => .error (.lineOutOfRange id)
  | some (start, stop) =>
      match content with
      | .error fault => .error (.unreadable f.path fault)
      | .ok bytes =>
          -- An index that was left out of order may list a start behind the next one.
          if stop < start then .error (.lineReversed id)
          else
            let raw := (bytes.drop start).take (stop - start)
            if raw.length < stop - start then .error (.lineCutShort id)
            else .ok (recordOfLine f.columns id raw)

/-- The record of a line, remembered or read from the file. -/
def get (f : TextFile) (content : Except FileFault Bytes) (position : Nat) :
    Except SourceFault Record × TextFile :=
  match f.cache.lookup position with
  | (some record, cache) => (.ok record, { f with cache })
  | (none, _) =>
      match f.readLine content position with
      | .ok record => (.ok record, { f with cache := f.cache.put position record })
      | .error fault => (.error fault, f)

/-- The file in short, as one line. -/
def describe (f : TextFile) : String :=
  let columns := match f.columns with
    | some p => "Some(" ++ Text.quote p.source ++ ")"
    | none => "None"
  "FileSource \x7b path: " ++ Text.quote f.path ++ ", columns: " ++ columns ++ " \x7d"

end TextFile

/-- A text file together with what it holds on disk now. -/
structure OpenTextFile where
  file : TextFile
  content : Except FileFault Bytes

/-- The questions put to a text file. Asking for the size takes in new lines. -/
def OpenTextFile.reader : SourceReader OpenTextFile where
  size s :=
    let (answer, file) := s.file.refresh s.content
    (answer.mapError .file, { s with file })
  get s position :=
    let (answer, file) := s.file.get s.content position
    (answer.mapError .source, { s with file })

end PatternScan
