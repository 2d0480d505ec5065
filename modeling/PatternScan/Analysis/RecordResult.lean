import PatternScan.Highlight.Coverage
import PatternScan.Extract.Sequence
import PatternScan.Extract.Plot
import PatternScan.Pattern.Compiled

/-!
# Analysis of one record

A compiled pattern is applied to a record's text; its matches are highlighted, and where
the group names ask for it, a sequence item and a plot item are extracted. Nothing but
the record, the pattern and the settings has an influence on the result.
-/

namespace PatternScan.Analysis

open Extract (SequenceOutcome PlotItem)
open Script (PatternScript)

/-- What a request takes over from the configuration. -/
structure Settings where
  palette : Palette
  /-- The number of records after which a worker reports. -/
  chunkSize : Nat
  /-- Milliseconds between two looks at a growing source. -/
  pollInterval : Nat
  sequence : Bool
  plot : Bool
  deriving DecidableEq, Repr, Inhabited

/-- The settings used unless others are asked for. -/
def Settings.standard : Settings := ⟨.standard, 4000, 50, true, true⟩

/-- What is needed to analyse records: the pattern, what its group names say, and which
items are extracted. -/
structure Context where
  pattern : CompiledPattern
  script : PatternScript
  palette : Palette
  sequenceActive : Bool
  plotActive : Bool
  deriving Repr, Inhabited

/-- The analysis of one matching record. -/
structure RecordResult where
  id : RecordId
  timestamp : Option String
  size : Nat
  found : List Match
  /-- The segments of the fields that some match meets. -/
  highlighting : List FieldHighlight
  sequence : Option SequenceOutcome
  plot : Option PlotItem
  /-- Matched groups that declare an ordering index, with that index. -/
  ordering : List (Nat × Nat)
  deriving DecidableEq, Repr, Inhabited

/-- The record tells the type of its call more than once. -/
def RecordResult.hasDuplicateRole (r : RecordResult) : Bool :=
  (r.sequence.map SequenceOutcome.duplicateRole).getD false

namespace Context

/-- Reads the group names of a pattern. An extractor runs only if it is asked for, some
group declares one of its roles, and the roles of all groups together are consistent. -/
def ofPattern (pattern : CompiledPattern) (settings : Settings) : Context :=
  let script := PatternScript.ofNames ⟨settings.sequence, settings.plot⟩ pattern.groupNames
  { pattern, script
    palette := settings.palette
    sequenceActive :=
      settings.sequence && script.hasSequenceRole && script.sequenceIssues.isEmpty
    plotActive := settings.plot && script.hasPlotRole && script.plotSchema.isConsistent }

/-- Compiles a pattern and reads its group names. -/
def compile (pattern : String) (settings : Settings) : Except PatternError Context :=
  (CompiledPattern.compile pattern).map fun p => ofPattern p settings

/-- A list without the entries that are equal to the one before them. -/
def dropRepeated {α : Type} [DecidableEq α] : List α → List α
  | a :: b :: rest =>
      if a = b then dropRepeated (b :: rest) else a :: dropRepeated (b :: rest)
  | items => items

/-- The ordering indices of the matched groups. -/
def orderingOf (script : PatternScript) (ms : List Match) : List (Nat × Nat) :=
  dropRepeated <| ms.filterMap fun m =>
    (script.orderingIndex? m.group).map fun index => (m.group, index)

/-- The analysis of a record with the given matches. -/
def resultOf (context : Context) (record : Record) (ms : List Match) : RecordResult :=
  let t := MatchTree.build ms
  { id := record.id
    timestamp := record.timestamp
    size := record.size
    found := ms
    highlighting :=
      highlightFields t ms (record.fields.map Field.span) context.script.color? context.palette
    sequence :=
      if context.sequenceActive then
        some (Extract.extractSequence t ms record.fields context.script)
      else none
    plot :=
      if context.plotActive then Extract.extractPlot t ms record.fields context.script else none
    ordering := orderingOf context.script ms }

/-- The analysis of a record, or nothing where the pattern does not match it. -/
def analyze? (context : Context) (record : Record) : Option RecordResult :=
  (context.pattern.find? record.text).map (context.resultOf record)

end Context

end PatternScan.Analysis
