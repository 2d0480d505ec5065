import PatternScan.Text.Span
import PatternScan.Text.Slice

/-!
# Records

A record is one decoded line of text with the named fields found in it.
-/

namespace PatternScan

/-- The number of a record within its source, filters left aside. -/
abbrev RecordId := Nat

/-- A named part of a record's text. -/
structure Field where
  name : String
  span : Span
  deriving DecidableEq, Repr, Inhabited

/-- One decoded record. -/
structure Record where
  id : RecordId
  text : String
  /-- The number of bytes the record takes in its source. -/
  size : Nat
  /-- A time that the source tells, in its own words. -/
  timestamp : Option String
  fields : List Field
  deriving DecidableEq, Repr, Inhabited

/-- The single field that covers a text without named parts. An empty text has no field. -/
def Field.payload (text : String) : List Field :=
  if text.isEmpty then [] else [⟨"payload", ⟨0, text.utf8ByteSize - 1⟩⟩]

namespace Record

/-- The record of a text without named parts. -/
def ofText (id : RecordId) (text : String) : Record :=
  ⟨id, text, text.utf8ByteSize, none, Field.payload text⟩

/-- The text of a field, if there is such a field and it falls between characters. -/
def fieldText? (r : Record) (index : Nat) : Option String :=
  r.fields[index]?.bind fun field => Text.slice r.text field.span.first field.span.stop

end Record

end PatternScan
