import PatternScan.Match.Basic
import PatternScan.Record.Basic

/-!
# Values of roles

A role's value is either a literal from the group name or the parts of a match that fall
into fields. The parts are kept by field, so that the value can be put together again
from the record with any separator.
-/

namespace PatternScan.Extract

/-- The part of a match that falls into one field, offsets relative to the field. -/
structure FieldSlice where
  /-- The position of the field among the record's fields. -/
  field : Nat
  first : Nat
  last : Nat
  /-- The match goes on past the field's end. -/
  addSeparator : Bool
  deriving DecidableEq, Repr, Inhabited

/-- The value of a role. -/
inductive RoleValue where
  /-- A literal that the group name gives. -/
  | literal (text : String)
  /-- The parts of the match, one for each field it meets. -/
  | located (slices : List FieldSlice)
  deriving DecidableEq, Repr, Inhabited

namespace RoleValue

/-- The parts of a match in the fields it meets, in field order. -/
def locate (m : Match) (fields : List Field) : RoleValue :=
  .located <| fields.zipIdx.filterMap fun (field, index) =>
    (m.span.clip field.span).map fun part =>
      ⟨index, part.first - field.span.first, part.last - field.span.first,
        field.span.last < m.span.last⟩

/-- One part put back into text. A slice of a field that is not there yields nothing; one
that does not fall between characters of the text yields only its separator. -/
def renderSlice (text : String) (fields : List Field) (separator : String) (s : FieldSlice) :
    String :=
  match fields[s.field]? with
  | none => ""
  | some field =>
      let origin := field.span.first
      (Text.slice text (origin + s.first) (origin + s.last + 1)).getD "" ++
        (if s.addSeparator then separator else "")

/-- The value in text: the literal, or the parts with a separator after each that the match
outruns. -/
def render (text : String) (fields : List Field) (separator : String) : RoleValue → String
  | literal value => value
  | located slices => String.join (slices.map (renderSlice text fields separator))

end RoleValue

/-- The groups of the matches, in the order of the matches. -/
def matchedGroups (ms : List Match) : List Nat := ms.map Match.group

end PatternScan.Extract
