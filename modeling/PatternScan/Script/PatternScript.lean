import PatternScan.Script.PlotSchema

/-!
# The script of a pattern

The group names of a pattern are read once, in group order; group zero is the whole
match and has no name. The script answers what single groups say and whether the pattern
as a whole can yield diagram and plot items.
-/

namespace PatternScan.Script

/-- What the groups of a pattern say, by group number. -/
structure PatternScript where
  annotations : List Annotation
  ordering : List (Option Nat)
  plotSchema : PlotSchema
  deriving Repr, Inhabited

/-- Issues in words, each in angle brackets, or the word that there are none. -/
def describeIssues (messages : List String) : String :=
  if messages.isEmpty then "consistent"
  else " ".intercalate (messages.map fun message => "<" ++ message ++ ">")

namespace PatternScript

/-- The script of a pattern with these group names; an unnamed group says nothing. -/
def ofNames (options : ParseOptions) (names : List (Option String)) : PatternScript :=
  let annotations := names.map fun name =>
    match name with
    | some name => Annotation.ofName options name
    | none => .blank
  ⟨annotations, names.map fun name => name.bind orderingIndex?,
    PlotSchema.ofAnnotations annotations⟩

/-- The number of groups, the whole match included. -/
def size (script : PatternScript) : Nat := script.annotations.length

/-- What a group says. -/
def annotation? (script : PatternScript) (group : Nat) : Option Annotation :=
  script.annotations[group]?

/-- The colour that a group's name declares. -/
def color? (script : PatternScript) (group : Nat) : Option Color :=
  (script.annotation? group).bind Annotation.color

/-- The ordering index of a group. -/
def orderingIndex? (script : PatternScript) (group : Nat) : Option Nat :=
  (script.ordering[group]?).join

/-- The sequence roles that the groups declare, in role order. -/
def sequenceRolesOf (script : PatternScript) (groups : List Nat) : List SequenceRole :=
  let declared := (groups.filterMap script.annotation?).flatMap fun a => a.sequence.keys
  SequenceRole.all.filter declared.contains

/-- The plot roles that the groups declare, in role order. -/
def plotRolesOf (script : PatternScript) (groups : List Nat) : List PlotRole :=
  let declared := (groups.filterMap script.annotation?).flatMap fun a => a.plot.keys
  PlotRole.all.filter declared.contains

/-- Some group declares a sequence role. -/
def hasSequenceRole (script : PatternScript) : Bool :=
  script.annotations.any fun a => !a.sequence.isEmpty

/-- Some group declares a plot role. -/
def hasPlotRole (script : PatternScript) : Bool :=
  script.annotations.any fun a => !a.plot.isEmpty

/-- What the sequence roles of all groups together lack. -/
def sequenceIssues (script : PatternScript) : List SequenceIssue :=
  SequenceSchema.issues (script.sequenceRolesOf (List.range script.size))

end PatternScript

end PatternScan.Script
