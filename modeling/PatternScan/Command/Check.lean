import PatternScan.Command.RecordView

/-!
# How a pattern is understood

For each group of a pattern its facts are printed: the colour, the variable and the roles
that its name declares. Then it is told whether the roles of all groups together are
consistent.
-/

namespace PatternScan.Command

open Script (PatternScript Annotation)

/-- What a group's name says, or that the group gets its colour from the palette. -/
def groupFacts (terminal : Terminal) (a : Annotation) (ordering : Option Nat) : List String :=
  let facts :=
    (a.color.map fun c => "color " ++ terminal.swatch c ++ " " ++ c.hex).toList ++
      (a.variableName.map fun name => "var " ++ name).toList ++
      (a.sequence.entries.map fun (role, literal) =>
        match literal with
        | some value => "sequence " ++ role.identifier ++ "='" ++ value ++ "'"
        | none => "sequence " ++ role.identifier) ++
      (a.plot.entries.map fun (role, use) =>
        "plot " ++ role.identifier ++ "[" ++ ", ".intercalate use.params ++ "]") ++
      (ordering.map fun index => "order " ++ toString index).toList
  if facts.isEmpty then ["palette color"] else facts

/-- The line of a group. -/
def groupLine (terminal : Terminal) (script : PatternScript) (group : Nat)
    (name : Option String) (a : Annotation) : String :=
  "  group " ++ padLeft 2 (toString group) ++ " " ++ padRight 24 (name.getD "-") ++ " " ++
    ", ".intercalate (groupFacts terminal a (script.orderingIndex? group))

/-- The lines of all groups but the whole match. -/
def groupLines (terminal : Terminal) (script : PatternScript) (names : List (Option String)) :
    List String :=
  ((names.zip script.annotations).zipIdx.drop 1).map fun ((name, a), group) =>
    groupLine terminal script group name a

/-- The lines on the sequence roles. -/
def sequenceVerdict (script : PatternScript) : List String :=
  if script.hasSequenceRole then
    ["Sequence diagram: " ++
      Script.describeIssues (script.sequenceIssues.map Script.SequenceIssue.message)]
  else ["Sequence diagram: no roles declared"]

/-- The lines on the plot roles. -/
def plotVerdict (script : PatternScript) : List String :=
  if script.hasPlotRole then
    ("Plot: " ++
      Script.describeIssues (script.plotSchema.issues.map Script.PlotIssue.message)) ::
      script.plotSchema.axisTypes.entries.map fun (axis, type) =>
        "  axis " ++ axis ++ " is " ++ type.name
  else ["Plot: no roles declared"]

/-- All that is printed about a pattern. -/
def patternText (terminal : Terminal) (p : CompiledPattern) : String :=
  let script := PatternScript.ofNames .standard p.groupNames
  let lines := ("Pattern: " ++ p.source) :: groupLines terminal script p.groupNames ++
    sequenceVerdict script ++ plotVerdict script
  String.join (lines.map (· ++ "\n"))

end PatternScan.Command
