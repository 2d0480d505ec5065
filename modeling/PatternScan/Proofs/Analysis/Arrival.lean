import PatternScan.Highlight.Coverage
import PatternScan.Proofs.Extract.SequenceSchema
import PatternScan.Proofs.Highlight.ColorIndex

/-!
# Results in any order of arrival

The matches of a record may be reported in any order. Indices of the palette are handed out
along a sort of their own, and its key tells the group of a match. The colours of a record, its
segments and its call are read off spans and groups only; the values of a plot are read off the
texts as well.
-/

namespace PatternScan

/-! ## Highlighting -/

namespace Coverage

variable {t u : MatchTree}

theorem nodeRange_congr (h : t.Alike u) (field : Span) (paint : Nat → Paint) (p : Nat) :
    nodeRange t field paint p = nodeRange u field paint p := by
  rw [nodeRange, nodeRange]
  congr 1
  exact h.bind_item? (fun site => (site.1.clip field).map fun range => (range, paint site.2)) p

theorem childRanges_congr (h : t.Alike u) (field : Span) (p : Nat) :
    childRanges t field p = childRanges u field p := by
  rw [childRanges, childRanges, h.children_eq]
  exact List.filterMap_congr fun child _ => h.bind_item? (fun site => site.1.clip field) child

theorem split_congr (h : t.Alike u) (field : Span) (paint : Nat → Paint) :
    split t field paint = split u field paint := by
  have hnode (p : Nat) : nodeSegments t field paint p = nodeSegments u field paint p := by
    rw [nodeSegments, nodeSegments, nodeRange_congr h, childRanges_congr h]
  rw [split, split, h.postOrder_eq, funext hnode]

end Coverage

variable {ms ns : List Match}

theorem highlightRecord_eq_of_perm (h : ms.Perm ns) (fields : List Span)
    (declared : Nat → Option Color) (palette : Palette) :
    highlightRecord ms fields declared palette = highlightRecord ns fields declared palette := by
  simp only [highlightRecord, highlightFields, ColorIndex.build_eq_of_perm h, h.any_eq,
    Coverage.split_congr (MatchTree.alike_build h)]

/-! ## Extraction -/

namespace Extract

open Script (PatternScript)

theorem matchedGroups_perm (h : ms.Perm ns) : (matchedGroups ms).Perm (matchedGroups ns) :=
  h.map Match.group

section Roles

variable {groups groups' : List Nat}

theorem sequenceRolesOf_eq_of_perm (script : PatternScript) (h : groups.Perm groups') :
    script.sequenceRolesOf groups = script.sequenceRolesOf groups' := by
  refine List.filter_congr fun role _ => ?_
  exact ((h.filterMap script.annotation?).flatMap_right _).contains_eq

theorem plotRolesOf_eq_of_perm (script : PatternScript) (h : groups.Perm groups') :
    script.plotRolesOf groups = script.plotRolesOf groups' := by
  refine List.filter_congr fun role _ => ?_
  exact ((h.filterMap script.annotation?).flatMap_right _).contains_eq

end Roles

/-- The roles of a match and their values depend on its span and group. -/
theorem sequenceHits_eq_site (script : PatternScript) (fields : List Field) (m : Match) :
    sequenceHits script fields m = sequenceHits script fields ⟨"", m.site.1, m.site.2⟩ := rfl

theorem allSequenceHits_eq_of_perm (h : ms.Perm ns) (script : PatternScript)
    (fields : List Field) :
    allSequenceHits (.build ms) script fields = allSequenceHits (.build ns) script fields := by
  have hsites (l : List Match) : allSequenceHits (.build l) script fields =
      ((Match.scanOrder l).map Match.site).flatMap fun site =>
        sequenceHits script fields ⟨"", site.1, site.2⟩ := by
    rw [allSequenceHits, MatchTree.filterMap_item?_preOrder, List.flatMap_map]
    exact List.flatMap_congr fun m _ => sequenceHits_eq_site script fields m
  rw [hsites, hsites, Match.map_site_scanOrder h]

theorem extractSequence_eq_of_perm (h : ms.Perm ns) (fields : List Field)
    (script : PatternScript) :
    extractSequence (.build ms) ms fields script =
      extractSequence (.build ns) ns fields script := by
  rw [extractSequence, extractSequence, allSequenceHits_eq_of_perm h,
    sequenceRolesOf_eq_of_perm script (matchedGroups_perm h)]

theorem extractPlot_eq_of_perm (htexts : Match.TextsAgree ms) (h : ms.Perm ns)
    (fields : List Field) (script : PatternScript) :
    extractPlot (.build ms) ms fields script = extractPlot (.build ns) ns fields script := by
  rw [extractPlot, extractPlot, MatchTree.build_eq_of_perm htexts h,
    plotRolesOf_eq_of_perm script (matchedGroups_perm h)]

end Extract

/-! ## Any order -/

/-- The order in which the matches of a record arrive is irrelevant. The trees have the same
spans, groups, parents and children node by node, the highlighting and the call are the same,
and the plot item is the same where span and group of a match tell its text. -/
theorem arrival_order_is_irrelevant (h : ms.Perm ns) (fields : List Field)
    (palette : Palette) (script : Script.PatternScript) :
    ((MatchTree.build ms).matchCount = (MatchTree.build ns).matchCount ∧
      ∀ p, ((MatchTree.build ms).item? p).map Match.site =
          ((MatchTree.build ns).item? p).map Match.site ∧
        (MatchTree.build ms).parent? p = (MatchTree.build ns).parent? p ∧
        (MatchTree.build ms).children p = (MatchTree.build ns).children p) ∧
    highlightRecord ms (fields.map Field.span) script.color? palette =
      highlightRecord ns (fields.map Field.span) script.color? palette ∧
    Extract.extractSequence (.build ms) ms fields script =
      Extract.extractSequence (.build ns) ns fields script ∧
    (Match.TextsAgree ms →
      Extract.extractPlot (.build ms) ms fields script =
        Extract.extractPlot (.build ns) ns fields script) := by
  have halike := MatchTree.alike_build h
  refine ⟨⟨halike.matchCount_eq, fun p => ⟨?_, ?_, ?_⟩⟩, ?_, ?_, fun htexts => ?_⟩
  · exact halike.site_item? p
  · exact halike.parent?_eq p
  · exact halike.children_eq p
  · exact highlightRecord_eq_of_perm h _ _ _
  · exact Extract.extractSequence_eq_of_perm h fields script
  · exact Extract.extractPlot_eq_of_perm htexts h fields script

/-- Matches that cross, one of them reported twice, and a span that two groups share. -/
def crowdedMatches : List Match :=
  [⟨"7", ⟨4, 4⟩, 3⟩, ⟨"cd", ⟨2, 3⟩, 3⟩, ⟨"cd", ⟨2, 3⟩, 1⟩, ⟨"cd7f", ⟨2, 5⟩, 2⟩,
    ⟨"cd", ⟨2, 3⟩, 1⟩, ⟨"abcd", ⟨0, 3⟩, 1⟩]

/-- Reported the other way round, the crowded matches give the same plot item, and the fourth
node lies below the third one, which has the same span and the same group. -/
theorem arrival_order_is_irrelevant_crowded :
    crowdedMatches.Perm crowdedMatches.reverse ∧ Match.TextsAgree crowdedMatches ∧
      (MatchTree.build crowdedMatches.reverse).parent? 4 = some 3 ∧
      Extract.extractPlot (.build crowdedMatches) crowdedMatches (Field.payload "abcd7f")
          Extract.callScript =
        Extract.extractPlot (.build crowdedMatches.reverse) crowdedMatches.reverse
          (Field.payload "abcd7f") Extract.callScript := by
  have hperm : crowdedMatches.Perm crowdedMatches.reverse := (List.reverse_perm _).symm
  have htexts : Match.TextsAgree crowdedMatches := by decide
  obtain ⟨⟨-, hnodes⟩, -, -, hplot⟩ := arrival_order_is_irrelevant hperm
    (Field.payload "abcd7f") .standard Extract.callScript
  refine ⟨hperm, htexts, ?_, hplot htexts⟩
  rw [← (hnodes 4).2.1]
  decide_cbv

end PatternScan
