import PatternScan.Analysis.RecordResult
import PatternScan.Proofs.Extract.SequenceSchema

/-!
# Which extractors run

An extractor runs only if it is asked for and the pattern as a whole declares what its items
demand. A record cannot have more roles than its pattern, so an extractor that does not run
would not have found an item in any record.
-/

namespace PatternScan.Analysis.Context

open Extract (extractSequence extractPlot SequenceOutcome matchedGroups holds_iff holds_mono
  mem_sequenceRolesOf sequenceRolesOf_subset isSome_item_extractSequence)
open Script (PatternScript Annotation PlotSchema SequenceSchema.holds)

variable {pattern : CompiledPattern} {settings : Settings} {t : MatchTree} {ms : List Match}
  {fields : List Field}

/-- Where a record has a sequence item, sequence extraction runs. -/
theorem sequenceActive_of_isSome
    (h : (extractSequence t ms fields (ofPattern pattern settings).script).item.isSome = true) :
    (ofPattern pattern settings).sequenceActive = true := by
  have hrecord := isSome_item_extractSequence.1 h
  obtain ⟨hclient, -⟩ := holds_iff.1 hrecord
  obtain ⟨group, -, a, ha, hrole⟩ := mem_sequenceRolesOf.1 hclient
  have hmem := List.mem_of_getElem? ha
  have hasked : settings.sequence = true := by
    by_contra hoff
    rw [(PatternScript.unread_of_mem hmem).1 (Bool.not_eq_true _ ▸ hoff)] at hrole
    cases hrole
  have hdeclared : (ofPattern pattern settings).script.hasSequenceRole = true := by
    refine List.any_eq_true.2 ⟨a, hmem, ?_⟩
    cases hentries : a.sequence.entries with
    | nil => simp [SortedMap.keys, hentries] at hrole
    | cons e rest => simp [SortedMap.isEmpty, hentries]
  have hpattern : (ofPattern pattern settings).script.sequenceIssues.isEmpty = true :=
    holds_mono (sequenceRolesOf_subset _ _) hrecord
  exact Bool.and_eq_true_iff.2 ⟨Bool.and_eq_true_iff.2 ⟨hasked, hdeclared⟩, hpattern⟩

/-- A pattern whose plot roles are consistent declares one. -/
theorem exists_use_of_isConsistent {annotations : List Annotation}
    (h : (PlotSchema.ofAnnotations annotations).isConsistent = true) :
    ∃ a ∈ annotations, a.plot.entries ≠ [] := by
  by_contra hnone
  simp only [not_exists, not_and, not_not] at hnone
  have huses : PlotSchema.uses annotations = [] := List.flatMap_eq_nil_iff.2 hnone
  simp [PlotSchema.ofAnnotations, PlotSchema.isConsistent, huses] at h

/-- Where a record has a plot item, plot extraction runs. -/
theorem plotActive_of_isSome
    (h : (extractPlot t ms fields (ofPattern pattern settings).script).isSome = true) :
    (ofPattern pattern settings).plotActive = true := by
  have hconsistent : (ofPattern pattern settings).script.plotSchema.isConsistent = true := by
    rw [extractPlot] at h
    split at h
    · next hboth => exact (Bool.and_eq_true_iff.1 hboth).1
    · cases h
  obtain ⟨a, hmem, huses⟩ := exists_use_of_isConsistent hconsistent
  have hasked : settings.plot = true := by
    by_contra hoff
    rw [(PatternScript.unread_of_mem hmem).2 (Bool.not_eq_true _ ▸ hoff)] at huses
    exact huses rfl
  have hdeclared : (ofPattern pattern settings).script.hasPlotRole = true := by
    refine List.any_eq_true.2 ⟨a, hmem, ?_⟩
    simpa [SortedMap.isEmpty] using huses
  exact Bool.and_eq_true_iff.2 ⟨Bool.and_eq_true_iff.2 ⟨hasked, hdeclared⟩, hconsistent⟩

theorem item_extractSequence_of_inactive
    (h : (ofPattern pattern settings).sequenceActive = false) :
    (extractSequence t ms fields (ofPattern pattern settings).script).item = none := by
  rw [← Option.not_isSome_iff_eq_none]
  intro hitem
  exact absurd (h.symm.trans (sequenceActive_of_isSome hitem)) nofun

theorem extractPlot_of_inactive (h : (ofPattern pattern settings).plotActive = false) :
    extractPlot t ms fields (ofPattern pattern settings).script = none := by
  rw [← Option.not_isSome_iff_eq_none]
  intro hitem
  exact absurd (h.symm.trans (plotActive_of_isSome hitem)) nofun

/-- Checking the pattern first changes no plot item of a record. -/
theorem plot_resultOf (record : Record) :
    ((ofPattern pattern settings).resultOf record ms).plot =
      extractPlot (.build ms) ms record.fields (ofPattern pattern settings).script := by
  cases h : (ofPattern pattern settings).plotActive with
  | true => exact if_pos h
  | false =>
      rw [extractPlot_of_inactive h]
      exact if_neg (Bool.eq_false_iff.1 h)

theorem item_resultOf (record : Record) :
    ((ofPattern pattern settings).resultOf record ms).sequence.bind SequenceOutcome.item =
      (extractSequence (.build ms) ms record.fields
        (ofPattern pattern settings).script).item := by
  cases h : (ofPattern pattern settings).sequenceActive with
  | true => simp [resultOf, h]
  | false => simp [resultOf, h, item_extractSequence_of_inactive h]

/-- The checks on the pattern as a whole keep no item of any record back. Where sequence
extraction does not run, it would yield no item, whatever matches it were given; and the items
of a record are what both extractions find without regard to the checks. -/
theorem extractors_lose_no_item (pattern : CompiledPattern) (settings : Settings) :
    ((ofPattern pattern settings).sequenceActive = false → ∀ t ms fields,
      (extractSequence t ms fields (ofPattern pattern settings).script).item = none) ∧
    ∀ record : Record,
      (∀ ms,
        ((ofPattern pattern settings).resultOf record ms).plot =
          extractPlot (.build ms) ms record.fields (ofPattern pattern settings).script ∧
        ((ofPattern pattern settings).resultOf record ms).sequence.bind SequenceOutcome.item =
          (extractSequence (.build ms) ms record.fields
            (ofPattern pattern settings).script).item) ∧
      ((ofPattern pattern settings).analyze? record).map RecordResult.plot =
        (pattern.find? record.text).map fun ms =>
          extractPlot (.build ms) ms record.fields (ofPattern pattern settings).script := by
  refine ⟨fun h t ms fields => item_extractSequence_of_inactive h, fun record => ⟨fun ms => ?_, ?_⟩⟩
  · exact ⟨plot_resultOf record, item_resultOf record⟩
  · rw [analyze?, Option.map_map]
    refine congrArg (fun f => (pattern.find? record.text).map f) ?_
    funext ms
    exact plot_resultOf record

/-- A letter, and a digit behind it. The groups lack the method of a call, and their plot roles
would do for a graph. -/
def unmethodicalPattern : CompiledPattern where
  source := "(?P<UCL_and_PGN_ax_1>a)(?P<US_and_URT_and_PYData_ax_1>7)"
  groupNames := [none, some "UCL_and_PGN_ax_1", some "US_and_URT_and_PYData_ax_1"]
  program := (Pattern.Regex.cat (.capture 1 (.chars ⟨[(97, 97)]⟩))
    (.capture 2 (.chars ⟨[(55, 55)]⟩))).program.toArray

/-- Plots are not asked for. -/
def unplottedSettings : Settings := { Settings.standard with plot := false }

/-- With this pattern neither extraction runs, and neither would find an item in the record. -/
theorem extractors_lose_no_item_unmethodical :
    (ofPattern unmethodicalPattern unplottedSettings).sequenceActive = false ∧
      (∀ t ms fields, (extractSequence t ms fields
        (ofPattern unmethodicalPattern unplottedSettings).script).item = none) ∧
      (ofPattern unmethodicalPattern unplottedSettings).plotActive = false ∧
      unmethodicalPattern.find? "a7" = some [⟨"a", ⟨0, 0⟩, 1⟩, ⟨"7", ⟨1, 1⟩, 2⟩] ∧
      extractPlot (.build [⟨"a", ⟨0, 0⟩, 1⟩, ⟨"7", ⟨1, 1⟩, 2⟩])
        [⟨"a", ⟨0, 0⟩, 1⟩, ⟨"7", ⟨1, 1⟩, 2⟩] (Field.payload "a7")
        (ofPattern unmethodicalPattern unplottedSettings).script = none := by
  obtain ⟨hsequence, hrecord⟩ := extractors_lose_no_item unmethodicalPattern unplottedSettings
  have hinactive : (ofPattern unmethodicalPattern unplottedSettings).sequenceActive = false := by
    decide +kernel
  have hunplotted : (ofPattern unmethodicalPattern unplottedSettings).plotActive = false := by
    decide +kernel
  have hfound : unmethodicalPattern.find? "a7" =
      some (Match.scanOrder [⟨"a", ⟨0, 0⟩, 1⟩, ⟨"7", ⟨1, 1⟩, 2⟩]) := rfl
  rw [Match.scanOrder, List.mergeSort_of_pairwise (by decide)] at hfound
  refine ⟨hinactive, hsequence hinactive, hunplotted, hfound, ?_⟩
  rw [← ((hrecord ⟨7, "a7", 2, none, Field.payload "a7"⟩).1 _).1]
  simp [resultOf, hunplotted]

end PatternScan.Analysis.Context
