import PatternScan.Extract.Plot
import PatternScan.Extract.Sequence
import PatternScan.Proofs.Script.JoinedName

/-!
# Families of roles

Sequence roles, plot roles and colours are read from a group name independently of one another:
whether a family of roles is read has no influence on what else the name says. What is computed
from one family is therefore the same for all scripts that agree on it.
-/

namespace PatternScan.Script

variable {options options' : ParseOptions} {annotations annotations' : List Annotation}
  {script script' : PatternScript}

/-! ## Reading names -/

theorem Annotation.color_ofName (name : String) :
    (ofName options name).color = (ofName options' name).color := by
  rw [ofName, ofName, foldl_addToken, foldl_addToken]

theorem Annotation.sequence_ofName (h : options.sequence = options'.sequence) (name : String) :
    (ofName options name).sequence = (ofName options' name).sequence := by
  have huse : sequenceUse? options = sequenceUse? options' :=
    funext fun token => by rw [sequenceUse?, sequenceUse?, h]
  rw [ofName, ofName, foldl_addToken, foldl_addToken, huse]

theorem Annotation.plot_ofName (h : options.plot = options'.plot) (name : String) :
    (ofName options name).plot = (ofName options' name).plot := by
  have huse : plotUse? options name = plotUse? options' name :=
    funext fun token => by rw [plotUse?, plotUse?, h]
  rw [ofName, ofName, foldl_addToken, foldl_addToken, huse]

/-- Scripts of the same names agree on what every single name agrees on. -/
theorem PatternScript.map_annotations_ofNames {α : Type} (f : Annotation → α)
    (h : ∀ name, f (.ofName options name) = f (.ofName options' name))
    (names : List (Option String)) :
    (ofNames options names).annotations.map f = (ofNames options' names).annotations.map f := by
  rw [ofNames, ofNames, List.map_map, List.map_map]
  refine List.map_congr_left fun name _ => ?_
  cases name with
  | none => rfl
  | some name => exact h name

/-! ## Scripts that agree -/

/-- What one group says, in scripts that agree. -/
theorem PatternScript.map_annotation? {α : Type} {f : Annotation → α}
    (h : script.annotations.map f = script'.annotations.map f) (group : Nat) :
    (script.annotation? group).map f = (script'.annotation? group).map f := by
  rw [annotation?, annotation?, ← List.getElem?_map, ← List.getElem?_map, h]

/-- What several groups say, in scripts that agree. -/
theorem PatternScript.map_filterMap_annotation? {α : Type} {f : Annotation → α}
    (h : script.annotations.map f = script'.annotations.map f) (groups : List Nat) :
    (groups.filterMap script.annotation?).map f = (groups.filterMap script'.annotation?).map f := by
  rw [List.map_filterMap, List.map_filterMap]
  exact List.filterMap_congr fun group _ => map_annotation? h group

theorem PatternScript.color?_congr
    (h : script.annotations.map Annotation.color = script'.annotations.map Annotation.color) :
    script.color? = script'.color? := by
  funext group
  have hgroup := congrArg (Option.bind · id) (map_annotation? h group)
  rwa [Option.bind_map, Option.bind_map] at hgroup

section Sequence

variable (h : script.annotations.map Annotation.sequence =
  script'.annotations.map Annotation.sequence)

include h

theorem PatternScript.sequenceRolesOf_congr (groups : List Nat) :
    script.sequenceRolesOf groups = script'.sequenceRolesOf groups := by
  have hkeys := congrArg (List.flatMap SortedMap.keys) (map_filterMap_annotation? h groups)
  rw [List.flatMap_map, List.flatMap_map] at hkeys
  rw [sequenceRolesOf, sequenceRolesOf, hkeys]

theorem PatternScript.hasSequenceRole_congr : script.hasSequenceRole = script'.hasSequenceRole := by
  have hany := congrArg (List.any · fun roles => !roles.isEmpty) h
  rwa [List.any_map, List.any_map] at hany

theorem PatternScript.sequenceIssues_congr : script.sequenceIssues = script'.sequenceIssues := by
  have hsize : script.size = script'.size := by simpa [size] using congrArg List.length h
  rw [sequenceIssues, sequenceIssues, hsize, sequenceRolesOf_congr h]

theorem sequenceHits_congr : Extract.sequenceHits script = Extract.sequenceHits script' := by
  funext fields m
  have hgroup := PatternScript.map_annotation? h m.group
  rw [Extract.sequenceHits, Extract.sequenceHits]
  match hfirst : script.annotation? m.group, hsecond : script'.annotation? m.group with
  | none, none => rfl
  | none, some _ => simp [hfirst, hsecond] at hgroup
  | some _, none => simp [hfirst, hsecond] at hgroup
  | some a, some b =>
      rw [hfirst, hsecond] at hgroup
      simp only [Option.some.inj hgroup]

/-- The sequence item of a record hangs on nothing but the sequence roles. -/
theorem extractSequence_congr (t : MatchTree) (ms : List Match) (fields : List Field) :
    Extract.extractSequence t ms fields script = Extract.extractSequence t ms fields script' := by
  rw [Extract.extractSequence, Extract.extractSequence, PatternScript.sequenceRolesOf_congr h,
    Extract.allSequenceHits, Extract.allSequenceHits, sequenceHits_congr h]

end Sequence

/-- A plot schema hangs on nothing but the plot roles. -/
theorem PlotSchema.ofAnnotations_congr
    (h : annotations.map Annotation.plot = annotations'.map Annotation.plot) :
    ofAnnotations annotations = ofAnnotations annotations' := by
  have huses : uses annotations = uses annotations' := by
    have hentries := congrArg (List.flatMap SortedMap.entries) h
    rwa [List.flatMap_map, List.flatMap_map] at hentries
  have hvalid : validUses annotations = validUses annotations' := by
    rw [validUses, validUses, huses]
  rw [ofAnnotations, ofAnnotations, parameterIssues, parameterIssues, axisTyping, axisTyping,
    referencedAxes, referencedAxes, huses, hvalid]

section Plot

variable (h : script.annotations.map Annotation.plot = script'.annotations.map Annotation.plot)

include h

theorem PatternScript.plotRolesOf_congr (groups : List Nat) :
    script.plotRolesOf groups = script'.plotRolesOf groups := by
  have hkeys := congrArg (List.flatMap SortedMap.keys) (map_filterMap_annotation? h groups)
  rw [List.flatMap_map, List.flatMap_map] at hkeys
  rw [plotRolesOf, plotRolesOf, hkeys]

theorem PatternScript.hasPlotRole_congr : script.hasPlotRole = script'.hasPlotRole := by
  have hany := congrArg (List.any · fun roles => !roles.isEmpty) h
  rwa [List.any_map, List.any_map] at hany

theorem plotEntries_congr : Extract.plotEntries script = Extract.plotEntries script' := by
  funext fields m
  have hgroup := PatternScript.map_annotation? h m.group
  rw [Extract.plotEntries, Extract.plotEntries]
  match hfirst : script.annotation? m.group, hsecond : script'.annotation? m.group with
  | none, none => rfl
  | none, some _ => simp [hfirst, hsecond] at hgroup
  | some _, none => simp [hfirst, hsecond] at hgroup
  | some a, some b =>
      rw [hfirst, hsecond] at hgroup
      simp only [Option.some.inj hgroup]

/-- The plot item of a record hangs on nothing but the plot roles and their schema. -/
theorem extractPlot_congr (hschema : script.plotSchema = script'.plotSchema) (t : MatchTree)
    (ms : List Match) (fields : List Field) :
    Extract.extractPlot t ms fields script = Extract.extractPlot t ms fields script' := by
  rw [Extract.extractPlot, Extract.extractPlot, hschema, PatternScript.plotRolesOf_congr h,
    Extract.allPlotEntries, Extract.allPlotEntries, plotEntries_congr h]

end Plot

end PatternScan.Script
