import PatternScan.SortedMap
import PatternScan.Script.SequenceRole
import PatternScan.Script.PlotRole

/-!
# Annotations

The tokens of a group name are read in order. The first token that gives a colour and
the first that gives a variable name count; a role declared twice keeps what its last
token says.
-/

namespace PatternScan.Script

/-- Which families of roles are read. -/
structure ParseOptions where
  sequence : Bool
  plot : Bool
  deriving DecidableEq, Repr, Inhabited

/-- Both families of roles are read. -/
def ParseOptions.standard : ParseOptions := ⟨true, true⟩

/-- What a group name says. -/
structure Annotation where
  color : Option Color
  variableName : Option String
  /-- The sequence roles, each with the literal that stands in for the captured text. -/
  sequence : SortedMap SequenceRole (Option String)
  plot : SortedMap PlotRole PlotUse
  deriving DecidableEq, Repr, Inhabited

namespace Annotation

/-- The annotation that says nothing. -/
def blank : Annotation := ⟨none, none, .empty, .empty⟩

/-- The annotation says nothing. -/
def isBlank (a : Annotation) : Bool :=
  a.color.isNone && a.variableName.isNone && a.sequence.isEmpty && a.plot.isEmpty

/-- Binds a key if there is something to bind. -/
def bindRole {R V : Type} [Ord R] (m : SortedMap R V) : Option (R × V) → SortedMap R V
  | some (role, value) => m.insert role value
  | none => m

/-- The annotation after one more token of the group name. -/
def addToken (options : ParseOptions) (groupName : String) (a : Annotation)
    (token : List Char) : Annotation where
  color := a.color <|> readColor? token
  variableName := a.variableName <|> readVariable? token
  sequence :=
    if options.sequence then bindRole a.sequence (SequenceRole.ofToken? token) else a.sequence
  plot :=
    if options.plot then
      bindRole a.plot
        ((PlotRole.ofToken? token).map fun (role, params) => (role, ⟨groupName, params⟩))
    else
      a.plot

/-- What a group name says. -/
def ofName (options : ParseOptions) (name : String) : Annotation :=
  (tokens name).foldl (addToken options name) blank

end Annotation

end PatternScan.Script
