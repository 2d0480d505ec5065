import PatternScan.Script.RoleToken
import PatternScan.Script.PlotParameter

/-!
# Roles of a plot

A group may name what it contributes to a plot: an axis rectangle, its bounds and
labels, the data of a graph or the events of a timeline. The role's parameters follow
its identifier, separated by underscores.
-/

namespace PatternScan.Script

/-- The part of a capture group in a plot. -/
inductive PlotRole where
  | axisRectType
  | axisRectLabel
  | xMax
  | xMin
  | yMax
  | yMin
  | xName
  | yName
  | xUnit
  | yUnit
  | graphName
  | graphMetadata
  | xTimestamp
  | xData
  | yTimestamp
  | yData
  | ganttEventId
  | ganttEvent
  deriving DecidableEq, Repr, Ord, Inhabited

/-- How a role takes part in the schema of a record. -/
inductive PlotRoleKind where
  /-- The role may be absent. -/
  | optional
  /-- Axes that are no timelines need the role. -/
  | mandatoryNonGantt
  /-- Timelines need the role. -/
  | mandatoryGantt
  deriving DecidableEq, Repr

private def requiredSpec (name : String) (form : ParameterForm) : ParameterSpec :=
  ⟨name, true, form⟩

private def optionalSpec (name : String) (form : ParameterForm) : ParameterSpec :=
  ⟨name, false, form⟩

namespace PlotRole

/-- All roles in their order. -/
def all : List PlotRole :=
  [.axisRectType, .axisRectLabel, .xMax, .xMin, .yMax, .yMin, .xName, .yName, .xUnit, .yUnit,
    .graphName, .graphMetadata, .xTimestamp, .xData, .yTimestamp, .yData, .ganttEventId,
    .ganttEvent]

/-- The identifier used in group names. -/
def identifier : PlotRole → String
  | axisRectType => "PARType"
  | axisRectLabel => "PARL"
  | xMax => "PXMx"
  | xMin => "PXMn"
  | yMax => "PYMx"
  | yMin => "PYMn"
  | xName => "PXN"
  | yName => "PYN"
  | xUnit => "PXU"
  | yUnit => "PYU"
  | graphName => "PGN"
  | graphMetadata => "PGMD"
  | xTimestamp => "PXT"
  | xData => "PXData"
  | yTimestamp => "PYT"
  | yData => "PYData"
  | ganttEventId => "PGEID"
  | ganttEvent => "PGE"

/-- The name used in structured output. -/
def name : PlotRole → String
  | axisRectType => "AxisRectType"
  | axisRectLabel => "AxisRectLabel"
  | xMax => "XMax"
  | xMin => "XMin"
  | yMax => "YMax"
  | yMin => "YMin"
  | xName => "XName"
  | yName => "YName"
  | xUnit => "XUnit"
  | yUnit => "YUnit"
  | graphName => "GraphName"
  | graphMetadata => "GraphMetadata"
  | xTimestamp => "XTimestamp"
  | xData => "XData"
  | yTimestamp => "YTimestamp"
  | yData => "YData"
  | ganttEventId => "GanttEventId"
  | ganttEvent => "GanttEvent"

/-- How the role takes part in the schema. -/
def kind : PlotRole → PlotRoleKind
  | yData | graphName => .mandatoryNonGantt
  | ganttEvent => .mandatoryGantt
  | _ => .optional

/-- The role's parameters by position. -/
def parameters : PlotRole → List ParameterSpec
  | axisRectType => [requiredSpec "axisRectName" .free, requiredSpec "axisRectType" .axisType]
  | axisRectLabel => [requiredSpec "axisRectName" .free, requiredSpec "axisRectLabel" .free]
  | xMax | xMin | yMax | yMin =>
      [requiredSpec "axisRectName" .free, requiredSpec "integer_part_value" .integer,
        optionalSpec "real_part_value" .integer, optionalSpec "neg" .negation]
  | xName | yName => [requiredSpec "axisRectName" .free, requiredSpec "name" .free]
  | xUnit | yUnit => [requiredSpec "axisRectName" .free, requiredSpec "unit" .free]
  | graphName =>
      [requiredSpec "axisRectName" .free, requiredSpec "graphId" .integer,
        optionalSpec "name" .free]
  | graphMetadata =>
      [requiredSpec "axisRectName" .free, requiredSpec "graphId" .integer,
        requiredSpec "key" .free, optionalSpec "value" .free]
  | xTimestamp | yTimestamp => [requiredSpec "timeFormat" .timeFormat]
  | xData | yData =>
      [requiredSpec "axisRectName" .free, requiredSpec "graphId" .integer,
        optionalSpec "value" .number]
  | ganttEventId => [requiredSpec "axisRectName" .free, requiredSpec "graphId" .integer]
  | ganttEvent =>
      [requiredSpec "axisRectName" .free, requiredSpec "graphId" .integer,
        requiredSpec "eventType" .eventType]

/-- The parameters that must be given. -/
def requiredParameters (role : PlotRole) : List ParameterSpec :=
  role.parameters.filter ParameterSpec.required

/-- The position of a parameter by its name, in any case. -/
def parameterIndex? (role : PlotRole) (name : String) : Option Nat :=
  role.parameters.findIdx? fun spec => Text.sameAsciiText spec.name.toList name.toList

/-- The identifier with its parameters: required ones in angle brackets, optional ones in
square brackets. -/
def usage (role : PlotRole) : String :=
  let part (spec : ParameterSpec) : String :=
    if spec.required then "_<" ++ spec.name ++ ">" else "_[" ++ spec.name ++ "]"
  role.identifier ++ String.join (role.parameters.map part)

/-- The role of an identifier, in any case. -/
def ofIdentifier? (text : String) : Option PlotRole :=
  RoleToken.ofIdentifier? all identifier text

/-- The pieces of the characters between underscores; `piece` holds the piece begun, last
character first. -/
def splitPieces (piece : List Char) : List Char → List (List Char)
  | [] => [piece.reverse]
  | c :: cs => if c == '_' then piece.reverse :: splitPieces [] cs else splitPieces (c :: piece) cs

/-- The role that a token declares, with its parameters. -/
def ofToken? (token : List Char) : Option (PlotRole × List String) :=
  (RoleToken.read? all identifier token).map fun found =>
    let pieces := (splitPieces [] found.rest).filter fun piece => !piece.isEmpty
    (found.role, pieces.map String.ofList)

theorem mem_all (role : PlotRole) : role ∈ all := by cases role <;> decide

end PlotRole

/-- A plot role as one group name declares it. -/
structure PlotUse where
  /-- The whole name of the group. -/
  groupName : String
  /-- The parameters by position. -/
  params : List String
  deriving DecidableEq, Repr, Inhabited

/-- Why the parameters of a plot role do not fit it. -/
inductive ParameterFault where
  | missing (names : List String)
  | excess (given allowed : Nat)
  | malformed (name : String) (fault : FormFault)
  deriving DecidableEq, Repr

namespace PlotUse

/-- The parameter of a declared name. -/
def named? (use : PlotUse) (role : PlotRole) (name : String) : Option String :=
  (role.parameterIndex? name).bind fun i => use.params[i]?

/-- The axis rectangle that the role refers to, if it refers to one. -/
def axisRect? (use : PlotUse) (role : PlotRole) : Option String :=
  use.named? role "axisRectName"

/-- The first parameter, by position, that is not written in its form. -/
def malformed? : List ParameterSpec → List String → Option ParameterFault
  | spec :: specs, value :: values =>
      match spec.form.fault? value with
      | some fault => some (.malformed spec.name fault)
      | none => malformed? specs values
  | _, _ => none

/-- Why the parameters do not fit the role, if they do not: too few, too many, or one that
is not written in its form. -/
def fault? (use : PlotUse) (role : PlotRole) : Option ParameterFault :=
  let specs := role.parameters
  let required := role.requiredParameters
  let given := use.params.length
  if given < required.length then
    some (.missing ((required.drop given).map ParameterSpec.name))
  else if specs.length < given then
    some (.excess given specs.length)
  else
    malformed? specs use.params

end PlotUse

/-- The fault in words, for the group that has it. -/
def ParameterFault.message (groupName : String) : ParameterFault → String
  | missing names =>
      let quoted := names.map fun name => "'" ++ name ++ "'"
      let noun := if names.length > 1 then "mandatory parameters" else "mandatory parameter"
      "'" ++ groupName ++ "' has " ++ " and ".intercalate quoted ++ " " ++ noun ++ " missing"
  | excess given allowed =>
      "'" ++ groupName ++ "' has '" ++ toString given ++
        "' parameters. Expected maximum number of parameters - '" ++ toString allowed ++ "'"
  | malformed name fault =>
      "'" ++ groupName ++ "'. Parameter '" ++ name ++ "' did not pass validation: \"" ++
        fault.message ++ "\""

end PatternScan.Script
