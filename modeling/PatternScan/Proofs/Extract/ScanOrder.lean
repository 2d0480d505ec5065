import PatternScan.Extract.Plot
import PatternScan.Extract.Sequence
import PatternScan.Proofs.Match.Arrival
import PatternScan.Proofs.Script.Annotation

/-!
# Extraction in scan order

Both extractors walk the nesting tree from the top down. What they gather is what one pass
over the matches in scan order finds: each match contributes what its own group declares, in
role order, whatever it lies inside of and whatever it crosses.
-/

namespace PatternScan.Extract

open Script (PatternScript ParseOptions SequenceRole PlotRole)

variable {options : ParseOptions} {names : List (Option String)} {script : PatternScript}
  {fields : List Field}

/-! ## What one match contributes -/

/-- The value of a sequence role in a match whose group declares it: the literal of the group
name if it gives one, else the parts of the match in the fields. -/
def sequenceValue? (script : PatternScript) (fields : List Field) (role : SequenceRole)
    (m : Match) : Option RoleValue :=
  ((script.annotation? m.group).bind fun a => a.sequence.get? role).map fun literal =>
    (literal.map RoleValue.literal).getD (RoleValue.locate m fields)

/-- The entry of a plot role in a match whose group declares it. -/
def plotted? (script : PatternScript) (fields : List Field) (m : Match) (role : PlotRole) :
    Option PlotEntry :=
  ((script.annotation? m.group).bind fun a => a.plot.get? role).map fun use =>
    ⟨role, use.params, RoleValue.locate m fields, numericValue? role use.params m.text⟩

/-- The value of a hit, if it is one of the role. -/
def RoleHit.valueFor? (role : SequenceRole) (hit : RoleHit) : Option RoleValue :=
  if hit.role = role then some hit.value else none

theorem filterMap_sequenceHits (role : SequenceRole) (m : Match) :
    (sequenceHits (.ofNames options names) fields m).filterMap (RoleHit.valueFor? role) =
      (sequenceValue? (.ofNames options names) fields role m).toList := by
  rw [sequenceHits, sequenceValue?]
  cases hannotation : (PatternScript.ofNames options names).annotation? m.group with
  | none => rfl
  | some a =>
      obtain ⟨hascending, -⟩ := PatternScript.ascending_annotation? hannotation
      simp only
      rw [Option.bind_some, Option.toList_map, ← hascending.filterMap_key role, List.filterMap_map,
        List.map_filterMap]
      refine List.filterMap_congr fun e _ => ?_
      obtain ⟨other, literal⟩ := e
      simp only [Function.comp_apply, RoleHit.valueFor?]
      split
      · cases literal <;> rfl
      · rfl

theorem plotEntries_eq (m : Match) :
    plotEntries (.ofNames options names) fields m =
      PlotRole.all.filterMap (plotted? (.ofNames options names) fields m) := by
  rw [plotEntries]
  cases hannotation : (PatternScript.ofNames options names).annotation? m.group with
  | none => simp [plotted?, hannotation]
  | some a =>
      obtain ⟨-, hascending⟩ := PatternScript.ascending_annotation? hannotation
      simp only
      rw [hascending.entries_eq_filterMap PlotRole.pairwise_all PlotRole.mem_all,
        List.map_filterMap]
      refine List.filterMap_congr fun role _ => ?_
      rw [plotted?, hannotation, Option.bind_some, Option.map_map]
      rfl

/-! ## What a record yields -/

/-- The values gathered for a role are those of its hits, in their order. -/
theorem get?_foldl_update (role : SequenceRole) (hits : List RoleHit)
    (values : SortedMap SequenceRole (List RoleValue)) :
    (hits.foldl (fun values hit => values.update hit.role [] (· ++ [hit.value])) values).get?
        role =
      if (hits.filterMap (RoleHit.valueFor? role)).isEmpty then values.get? role
      else some ((values.get? role).getD [] ++ hits.filterMap (RoleHit.valueFor? role)) := by
  induction hits generalizing values with
  | nil => rfl
  | cons hit rest ih =>
      rw [List.foldl_cons, ih, SortedMap.get?_update]
      by_cases h : hit.role = role
      · subst h
        cases hrest : rest.filterMap (RoleHit.valueFor? hit.role) <;>
          simp [RoleHit.valueFor?, hrest]
      · simp [RoleHit.valueFor?, h, Ne.symm h]

theorem get?_gatherHits (role : SequenceRole) (hits : List RoleHit) :
    (gatherHits hits).get? role =
      if (hits.filterMap (RoleHit.valueFor? role)).isEmpty then none
      else some (hits.filterMap (RoleHit.valueFor? role)) :=
  get?_foldl_update role hits .empty

theorem filterMap_allSequenceHits (ms : List Match) (role : SequenceRole) :
    (allSequenceHits (MatchTree.build ms) (.ofNames options names) fields).filterMap
        (RoleHit.valueFor? role) =
      (Match.scanOrder ms).filterMap (sequenceValue? (.ofNames options names) fields role) := by
  rw [allSequenceHits, MatchTree.filterMap_item?_preOrder, List.filterMap_flatMap,
    List.filterMap_eq_flatMap_toList]
  exact List.flatMap_congr fun m _ => filterMap_sequenceHits role m

theorem ascending_gatherHits (hits : List RoleHit) : (gatherHits hits).Ascending := by
  have hfold (values : SortedMap SequenceRole (List RoleValue)) (h : values.Ascending) :
      (hits.foldl (fun values hit => values.update hit.role [] (· ++ [hit.value]))
        values).Ascending := by
    induction hits generalizing values with
    | nil => exact h
    | cons hit rest ih => exact ih _ (h.insert _ _)
  exact hfold .empty SortedMap.ascending_empty

theorem item_of_extractSequence {t : MatchTree} {ms : List Match} {item : SequenceItem}
    (h : (extractSequence t ms fields script).item = some item) :
    item.values = gatherHits (allSequenceHits t script fields) := by
  rw [extractSequence] at h
  split at h
  · exact (congrArg SequenceItem.values (Option.some.inj h)).symm
  · cases h

theorem entries_of_extractPlot {t : MatchTree} {ms : List Match} {item : PlotItem}
    (h : extractPlot t ms fields script = some item) :
    item.entries = allPlotEntries t script fields := by
  rw [extractPlot] at h
  split at h
  · exact (congrArg PlotItem.entries (Option.some.inj h)).symm
  · cases h

/-- An item is read off the matches in scan order, however they nest or cross. The values of
a sequence role are those of the matches whose group declares it, one for each; the plot
entries are those of each match in turn, by the roles of its group in their order. -/
theorem extract_reads_scanOrder (options : ParseOptions) (names : List (Option String))
    (ms : List Match) (fields : List Field) :
    ((Match.scanOrder ms).Perm ms ∧
      (Match.scanOrder ms).Pairwise fun m n => m.precedes n = true) ∧
    (∀ item,
      (extractSequence (MatchTree.build ms) ms fields (.ofNames options names)).item = some item →
      item.values.Ascending ∧
      ∀ role, item.values.get? role =
        let values :=
          (Match.scanOrder ms).filterMap (sequenceValue? (.ofNames options names) fields role)
        if values.isEmpty then none else some values) ∧
    (∀ item, extractPlot (MatchTree.build ms) ms fields (.ofNames options names) = some item →
      item.entries = (Match.scanOrder ms).flatMap fun m =>
        PlotRole.all.filterMap (plotted? (.ofNames options names) fields m)) := by
  refine ⟨⟨Match.scanOrder_perm ms, Match.pairwise_scanOrder ms⟩, fun item hitem => ?_,
    fun item hitem => ?_⟩
  · rw [item_of_extractSequence hitem]
    refine ⟨ascending_gatherHits _, fun role => ?_⟩
    rw [get?_gatherHits, filterMap_allSequenceHits]
  · rw [entries_of_extractPlot hitem, allPlotEntries, MatchTree.filterMap_item?_preOrder]
    exact List.flatMap_congr fun m _ => plotEntries_eq m

/-- The group names of a pattern for calls to one service and the data of one graph. -/
def callNames : List (Option String) :=
  [none, some "UCL_and_PGN_ax_1", some "US_Billing_and_UM", some "URT_and_PYData_ax_1"]

/-- What these names say. -/
def callScript : PatternScript where
  annotations :=
    [.blank,
      ⟨none, none, ⟨[(.client, none)]⟩, ⟨[(.graphName, ⟨"UCL_and_PGN_ax_1", ["ax", "1"]⟩)]⟩⟩,
      ⟨none, none, ⟨[(.service, some "Billing"), (.method, none)]⟩, .empty⟩,
      ⟨none, none, ⟨[(.request, none)]⟩, ⟨[(.yData, ⟨"URT_and_PYData_ax_1", ["ax", "1"]⟩)]⟩⟩]
  ordering := [none, none, none, none]
  plotSchema := ⟨[], .empty, [[.graphName, .yData]]⟩

theorem ofNames_callNames : PatternScript.ofNames .standard callNames = callScript := rfl

/-- The first two matches cross, and the client is found once more where they do. -/
def crossingMatches : List Match :=
  [⟨"7", ⟨4, 4⟩, 3⟩, ⟨"cd", ⟨2, 3⟩, 1⟩, ⟨"cd7f", ⟨2, 5⟩, 2⟩, ⟨"abcd", ⟨0, 3⟩, 1⟩]

/-- The sequence item of the crossing matches. -/
def crossingCall : SequenceItem :=
  ((extractSequence (MatchTree.build crossingMatches) crossingMatches (Field.payload "abcd7f")
    callScript).item).getD ⟨.empty⟩

/-- Their plot item. -/
def crossingPlot : PlotItem :=
  ⟨allPlotEntries (MatchTree.build crossingMatches) callScript (Field.payload "abcd7f")⟩

theorem extract_crossingMatches :
    crossingCall.values.get? .client =
      some [.located [⟨0, 0, 3, false⟩], .located [⟨0, 2, 3, false⟩]] ∧
    crossingCall.values.get? .service = some [.literal "Billing"] ∧
    crossingPlot.entries.map (fun e => (e.role, e.numeric.isSome)) =
      [(.graphName, false), (.graphName, false), (.yData, true)] := by
  obtain ⟨-, hsequence, hplot⟩ := extract_reads_scanOrder .standard callNames crossingMatches
    (Field.payload "abcd7f")
  rw [ofNames_callNames] at hsequence hplot
  have hcall : (extractSequence (MatchTree.build crossingMatches) crossingMatches
      (Field.payload "abcd7f") callScript).item = some crossingCall := rfl
  have hentries : extractPlot (MatchTree.build crossingMatches) crossingMatches
      (Field.payload "abcd7f") callScript = some crossingPlot := by
    rw [extractPlot]
    exact if_pos rfl
  have hscan : Match.scanOrder crossingMatches =
      [⟨"abcd", ⟨0, 3⟩, 1⟩, ⟨"cd7f", ⟨2, 5⟩, 2⟩, ⟨"cd", ⟨2, 3⟩, 1⟩, ⟨"7", ⟨4, 4⟩, 3⟩] :=
    Match.scanOrder_eq_of_ordered (by decide) (by decide) (by decide)
  refine ⟨?_, ?_, ?_⟩
  · rw [(hsequence crossingCall hcall).2, hscan]
    decide
  · rw [(hsequence crossingCall hcall).2, hscan]
    decide
  · rw [hplot crossingPlot hentries, hscan]
    decide +kernel

end PatternScan.Extract
