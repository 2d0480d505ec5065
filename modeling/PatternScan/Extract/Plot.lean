import PatternScan.Match.Tree
import PatternScan.Script.PatternScript
import PatternScan.Extract.RoleValue
import PatternScan.Text.Blank

/-!
# Plot items

A record yields an item when the plot roles of the pattern are consistent and those of
its matched groups include a demanded family. Bounds and data also have a numeric
reading.
-/

namespace PatternScan.Extract

open Script (PlotRole PlotUse PatternScript)

/-- A plot role resolved against one match. -/
structure PlotEntry where
  role : PlotRole
  params : List String
  value : RoleValue
  numeric : Option Binary64
  deriving DecidableEq, Repr, Inhabited

/-- The plot entries of one record, in the order of the tree walk. -/
structure PlotItem where
  entries : List PlotEntry
  deriving DecidableEq, Repr, Inhabited

/-- The bound that parameters denote: the second is the whole part, the third the
fraction, and the fourth may make it negative. -/
def boundValue? (params : List String) : Option Binary64 :=
  params[1]?.bind fun whole =>
    (Script.joinDecimal? whole (params[2]?.getD "0")).map fun value =>
      if (params[3]?.map Script.isNegation).getD false then value.negate else value

/-- The datum of a match: the third parameter, or the matched text without blanks around
it. -/
def dataValue? (params : List String) (matched : String) : Option Binary64 :=
  match params[2]? with
  | some value => Number.readFloat? value
  | none => Number.readFloat? (Text.trim matched)

/-- The numeric reading of a role. -/
def numericValue? (role : PlotRole) (params : List String) (matched : String) : Option Binary64 :=
  match role with
  | .xMax | .xMin | .yMax | .yMin => boundValue? params
  | .xData | .yData => dataValue? params matched
  | _ => none

/-- The plot entries that a match carries. -/
def plotEntries (script : PatternScript) (fields : List Field) (m : Match) : List PlotEntry :=
  match script.annotation? m.group with
  | none => []
  | some annotation => annotation.plot.entries.map fun (role, use) =>
      ⟨role, use.params, RoleValue.locate m fields, numericValue? role use.params m.text⟩

/-- The plot entries of a record, in the order of the tree walk. -/
def allPlotEntries (t : MatchTree) (script : PatternScript) (fields : List Field) :
    List PlotEntry :=
  (t.preOrder.filterMap t.item?).flatMap (plotEntries script fields)

/-- Plot extraction from the matches of a record and their tree. -/
def extractPlot (t : MatchTree) (ms : List Match) (fields : List Field)
    (script : PatternScript) : Option PlotItem :=
  let schema := script.plotSchema
  if schema.isConsistent && schema.admits (script.plotRolesOf (matchedGroups ms)) then
    some ⟨allPlotEntries t script fields⟩
  else
    none

end PatternScan.Extract
