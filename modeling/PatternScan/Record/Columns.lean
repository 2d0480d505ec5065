import PatternScan.Record.Basic

/-!
# Records made of columns

Named columns are joined to one text by a separator. An empty column still brings its
separator but gets no field.
-/

namespace PatternScan

/-- A named value of a record. -/
structure Column where
  name : String
  value : String
  deriving DecidableEq, Repr, Inhabited

namespace Column

/-- The text of columns, each after its separator. -/
def tailText (separator : String) (columns : List Column) : String :=
  String.join (columns.map fun c => separator ++ c.value)

/-- The values joined by the separator. -/
def joinText (separator : String) : List Column → String
  | [] => ""
  | c :: rest => c.value ++ tailText separator rest

/-- The field of a column whose value starts at the offset, unless the value is empty. -/
def fieldAt (offset : Nat) (c : Column) : List Field :=
  if c.value.isEmpty then []
  else [⟨c.name, ⟨offset, offset + c.value.utf8ByteSize - 1⟩⟩]

/-- The fields of columns whose first value starts at the offset. -/
def joinFields (separator : String) (offset : Nat) : List Column → List Field
  | [] => []
  | c :: rest =>
      fieldAt offset c ++
        joinFields separator (offset + c.value.utf8ByteSize + separator.utf8ByteSize) rest

/-- The record of joined columns. -/
def toRecord (id : RecordId) (separator : String) (columns : List Column) : Record :=
  let text := joinText separator columns
  ⟨id, text, text.utf8ByteSize, none, joinFields separator 0 columns⟩

end Column

end PatternScan
