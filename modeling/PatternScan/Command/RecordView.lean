import PatternScan.Command.Paint
import PatternScan.JsonText

/-!
# Printed records

A matching record is printed as a numbered line with its highlighting, followed by lines
for the items extracted from it, or as one JSON object.
-/

namespace PatternScan.Command

open Analysis (RecordResult)
open Extract (RoleValue FieldSlice SequenceItem SequenceOutcome PlotEntry PlotItem)

/-- How records are printed. -/
structure RecordStyle where
  json : Bool
  /-- The text between the parts of a value from several fields. -/
  separator : String
  terminal : Terminal
  deriving DecidableEq, Repr, Inhabited

/-- The text with blanks before it, up to a width. -/
def padLeft (width : Nat) (text : String) : String :=
  String.ofList (List.replicate (width - text.length) ' ') ++ text

/-- The text with blanks behind it, up to a width. -/
def padRight (width : Nat) (text : String) : String :=
  text ++ String.ofList (List.replicate (width - text.length) ' ')

/-! ## Lines -/

/-- The values of the roles of a sequence item. -/
def sequenceLine (style : RecordStyle) (record : Record) (item : SequenceItem) : String :=
  let part := fun ((role, values) : Script.SequenceRole × List RoleValue) =>
    role.identifier ++ "=" ++
      "|".intercalate (values.map (RoleValue.render record.text record.fields style.separator))
  "          sequence: " ++ " ".intercalate (item.values.entries.map part)

/-- The value of a plot role, as a number if it is one. -/
def plotPart (style : RecordStyle) (record : Record) (e : PlotEntry) : String :=
  e.role.identifier ++ "=" ++
    match e.numeric with
    | some x => Number.render Number.plainStyle x
    | none => e.value.render record.text record.fields style.separator

/-- The values of the roles of a plot item. -/
def plotLine (style : RecordStyle) (record : Record) (item : PlotItem) : String :=
  "          plot: " ++ " ".intercalate (item.entries.map (plotPart style record))

/-- The lines of a record. -/
def recordLines (style : RecordStyle) (record : Record) (r : RecordResult) : List String :=
  (padLeft 8 (toString record.id) ++ ": " ++ highlighted style.terminal record r.highlighting) ::
    ((r.sequence.bind SequenceOutcome.item).map (sequenceLine style record)).toList ++
    (r.plot.map (plotLine style record)).toList

/-! ## JSON -/

/-- A span as an object. -/
def spanJson (s : Span) : JsonText := .object [("from", .natural s.first), ("to", .natural s.last)]

/-- A match as an object. -/
def matchJson (m : Match) : JsonText :=
  .object [("text", .text m.text), ("range", spanJson m.span), ("group", .natural m.group)]

/-- A colour as a list of channels. -/
def colorJson (c : Color) : JsonText :=
  .list [.natural c.red.toNat, .natural c.green.toNat, .natural c.blue.toNat]

/-- A segment as an object. -/
def segmentJson (s : Segment) : JsonText :=
  .object [("from", .natural s.first), ("to", .natural s.last),
    ("color", .ofOption colorJson s.paint.color), ("explicit", .boolean s.paint.explicit)]

/-- The highlighting of fields by their position. -/
def highlightingJson (hs : List FieldHighlight) : JsonText :=
  .object (hs.map fun h => (toString h.field, .list (h.segments.map segmentJson)))

/-- A part of a value as an object. -/
def sliceJson (s : FieldSlice) : JsonText :=
  .object [("field", .natural s.field), ("from", .natural s.first), ("to", .natural s.last),
    ("add_separator", .boolean s.addSeparator)]

/-- The value of a role as an object. -/
def valueJson : RoleValue → JsonText
  | .literal text => .object [("Custom", .text text)]
  | .located slices => .object [("Fields", .list (slices.map sliceJson))]

/-- A sequence item as an object. -/
def sequenceItemJson (item : SequenceItem) : JsonText :=
  .object [("values", .object (item.values.entries.map fun (role, values) =>
    (role.name, .list (values.map valueJson))))]

/-- The outcome of sequence extraction as an object. -/
def sequenceJson (o : SequenceOutcome) : JsonText :=
  .object [("item", .ofOption sequenceItemJson o.item),
    ("missing_roles", .list (o.missing.map fun role => .text role.name)),
    ("duplicate_role", .boolean o.duplicateRole)]

/-- A plot entry as an object. -/
def plotEntryJson (e : PlotEntry) : JsonText :=
  .object [("role", .text e.role.name), ("params", .list (e.params.map .text)),
    ("value", valueJson e.value), ("numeric", .ofOption .float e.numeric)]

/-- A plot item as an object. -/
def plotJson (item : PlotItem) : JsonText :=
  .object [("entries", .list (item.entries.map plotEntryJson))]

/-- A record with its result as an object. -/
def recordJson (record : Record) (r : RecordResult) : JsonText :=
  .object [("text", .text record.text), ("record_id", .natural r.id),
    ("timestamp", .ofOption .text r.timestamp), ("size_bytes", .natural r.size),
    ("matches", .list (r.found.map matchJson)), ("highlighting", highlightingJson r.highlighting),
    ("sequence", .ofOption sequenceJson r.sequence), ("plot", .ofOption plotJson r.plot),
    ("ordering", .list (r.ordering.map fun (group, index) =>
      .list [.natural group, .natural index]))]

/-- A record as it is printed. -/
def recordText (style : RecordStyle) (record : Record) (r : RecordResult) : String :=
  if style.json then (recordJson record r).render ++ "\n"
  else String.join ((recordLines style record r).map (· ++ "\n"))

end PatternScan.Command
