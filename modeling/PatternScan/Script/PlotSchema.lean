import PatternScan.Script.Annotation

/-!
# The plot schema of a pattern

The plot roles of a pattern are checked once. An axis is referenced by every role whose
parameters fit; it is a timeline if the last role that types it says so. Axes that are
no timelines demand one family of roles, timelines another, and a record needs all roles
of at least one demanded family.
-/

namespace PatternScan.Script

/-- What is wrong with the plot roles of a pattern. -/
inductive PlotIssue where
  | badParameters (groupName : String) (fault : ParameterFault)
  | noPlotRoles
  | missingRole (role : PlotRole)
  deriving DecidableEq, Repr

/-- The issue in words. -/
def PlotIssue.message : PlotIssue → String
  | badParameters groupName fault => fault.message groupName
  | noPlotRoles => "No plot groups found"
  | missingRole role => "Mandatory element " ++ role.usage ++ " not found"

/-- What the plot roles of a pattern come to. -/
structure PlotSchema where
  issues : List PlotIssue
  /-- The type of every axis that has been given one. -/
  axisTypes : SortedMap String AxisType
  /-- The demanded families; a record needs all roles of one of them. -/
  requiredSets : List (List PlotRole)
  deriving Repr, Inhabited

namespace PlotSchema

/-- The declared uses of plot roles, by group and then in role order. -/
def uses (annotations : List Annotation) : List (PlotRole × PlotUse) :=
  annotations.flatMap fun a => a.plot.entries

/-- The roles and parameters that fit together. -/
def validUses (annotations : List Annotation) : List (PlotRole × PlotUse) :=
  (uses annotations).filter fun (role, use) => (use.fault? role).isNone

/-- The faults of the others. -/
def parameterIssues (annotations : List Annotation) : List PlotIssue :=
  (uses annotations).filterMap fun (role, use) =>
    (use.fault? role).map (PlotIssue.badParameters use.groupName)

/-- The axes that roles with fitting parameters refer to. -/
def referencedAxes (annotations : List Annotation) : List String :=
  (validUses annotations).filterMap fun (role, use) => use.axisRect? role

/-- The axis and the type that a role gives it, if it gives one. -/
def typing? (role : PlotRole) (use : PlotUse) : Option (String × AxisType) := do
  if role == .axisRectType then
    let axis ← use.axisRect? role
    let type ← use.params[1]?.bind AxisType.ofText?
    return (axis, type)
  else
    none

/-- The type of each typed axis; the last role that types an axis counts. -/
def axisTyping (annotations : List Annotation) : SortedMap String AxisType :=
  ((validUses annotations).filterMap fun (role, use) => typing? role use).foldl
    (fun types (axis, type) => types.insert axis type) .empty

/-- The roles of a kind, in role order. -/
def family (kind : PlotRoleKind) : List PlotRole :=
  PlotRole.all.filter fun role => role.kind == kind

/-- The families that the referenced axes demand. An axis without a type is no timeline,
and without any axis the family of those is demanded. -/
def demandedFamilies (types : SortedMap String AxisType) (axes : List String) :
    List (List PlotRole) :=
  let isGantt (axis : String) : Bool := (types.get? axis).getD .linear == .gantt
  let hasGantt := axes.any isGantt
  let hasOther := axes.any fun axis => !isGantt axis
  (if hasOther || !hasGantt then [family .mandatoryNonGantt] else []) ++
    (if hasGantt then [family .mandatoryGantt] else [])

/-- The plot schema of a pattern with these annotations. -/
def ofAnnotations (annotations : List Annotation) : PlotSchema :=
  let declared := (uses annotations).map Prod.fst
  let types := axisTyping annotations
  let faults := parameterIssues annotations
  if declared.isEmpty then
    ⟨faults ++ [.noPlotRoles], types, []⟩
  else
    let families := demandedFamilies types (referencedAxes annotations)
    let absent := families.flatten.filter fun role => !declared.contains role
    ⟨faults ++ absent.map .missingRole, types, families⟩

/-- Nothing is wrong with the plot roles. -/
def isConsistent (schema : PlotSchema) : Bool := schema.issues.isEmpty

/-- The roles of a record include all roles of some demanded family. -/
def admits (schema : PlotSchema) (present : List PlotRole) : Bool :=
  schema.requiredSets.any fun required => required.all present.contains

end PlotSchema

end PatternScan.Script
