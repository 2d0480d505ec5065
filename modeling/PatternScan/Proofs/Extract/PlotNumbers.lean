import PatternScan.Proofs.Extract.ScanOrder
import PatternScan.Proofs.Script.ParameterCheck

/-!
# Numbers that a checked pattern promises

The parameters of plot roles are checked once for a pattern, position by position, and read once
for every record. What passes the check can be read: bounds and literal data of a consistent
pattern have a number in every record.
-/

namespace PatternScan

namespace Script

/-! ## Consistent patterns -/

/-- All parameters of a consistent pattern fit their roles. -/
theorem PlotSchema.fault?_of_isConsistent {annotations : List Annotation} {a : Annotation}
    {role : PlotRole} {use : PlotUse} (h : (ofAnnotations annotations).isConsistent = true)
    (ha : a ∈ annotations) (huse : (role, use) ∈ a.plot.entries) : use.fault? role = none := by
  have hissues : parameterIssues annotations = [] := by
    rw [isConsistent, List.isEmpty_iff, ofAnnotations] at h
    split at h
    · exact (List.append_eq_nil_iff.1 h).1
    · exact (List.append_eq_nil_iff.1 h).1
  have hmem : (role, use) ∈ uses annotations := List.mem_flatMap.2 ⟨a, ha, huse⟩
  exact Option.map_eq_none_iff.1 (List.filterMap_eq_nil_iff.1 hissues _ hmem)

/-- The role gives an axis one of its ends. -/
def PlotRole.IsBound (role : PlotRole) : Prop := role ∈ [xMax, xMin, yMax, yMin]

/-- The role gives a graph a coordinate. -/
def PlotRole.IsDatum (role : PlotRole) : Prop := role ∈ [xData, yData]

theorem PlotRole.IsBound.parameters_eq {role : PlotRole} (h : role.IsBound) :
    role.parameters =
      [⟨"axisRectName", true, .free⟩, ⟨"integer_part_value", true, .integer⟩,
        ⟨"real_part_value", false, .integer⟩, ⟨"neg", false, .negation⟩] := by
  simp only [IsBound, List.mem_cons, List.not_mem_nil, or_false] at h
  obtain rfl | rfl | rfl | rfl := h <;> rfl

theorem PlotRole.IsDatum.parameters_eq {role : PlotRole} (h : role.IsDatum) :
    role.parameters =
      [⟨"axisRectName", true, .free⟩, ⟨"graphId", true, .integer⟩,
        ⟨"value", false, .number⟩] := by
  simp only [IsDatum, List.mem_cons, List.not_mem_nil, or_false] at h
  obtain rfl | rfl := h <;> rfl

/-- Two texts that are integers are a number with a fraction. -/
theorem exists_joinDecimal? {whole fraction : String}
    (hwhole : (Number.readInt? Number.maxInt32 whole).isSome = true)
    (hfraction : (Number.readInt? Number.maxInt32 fraction).isSome = true) :
    ∃ value, joinDecimal? whole fraction = some value := by
  obtain ⟨w, hw⟩ := Option.isSome_iff_exists.1 hwhole
  obtain ⟨f, hf⟩ := Option.isSome_iff_exists.1 hfraction
  rw [joinDecimal?, hw, hf]
  exact ⟨_, rfl⟩

end Script

namespace Extract

open Script

variable {role : PlotRole} {use : PlotUse}

/-! ## Reading what fits -/

/-- The absent fraction of a bound is nought, and its last parameter can only be the word that
makes it negative. -/
theorem numericValue?_of_isBound (hrole : role.IsBound) (hfits : use.fault? role = none)
    (matched : String) :
    ∃ whole value, use.params[1]? = some whole ∧
      joinDecimal? whole (use.params[2]?.getD "0") = some value ∧
      numericValue? role use.params matched =
        some (if use.params[3]?.isSome then value.negate else value) := by
  obtain ⟨hfew, -, hforms⟩ := PlotUse.fault?_eq_none_iff.1 hfits
  rw [hrole.parameters_eq] at hforms
  rw [PlotRole.requiredParameters, hrole.parameters_eq] at hfew
  have hfew : 1 < use.params.length := hfew
  obtain ⟨whole, hwhole⟩ : ∃ whole, use.params[1]? = some whole :=
    ⟨_, List.getElem?_eq_getElem hfew⟩
  have hinteger := ParameterForm.integer_fits_iff.1 (hforms 1 _ whole rfl hwhole)
  have hfraction :
      (Number.readInt? Number.maxInt32 (use.params[2]?.getD "0")).isSome = true := by
    cases hthird : use.params[2]? with
    | none => decide +kernel
    | some fraction => exact ParameterForm.integer_fits_iff.1 (hforms 2 _ fraction rfl hthird)
  have hnegation : (use.params[3]?.map isNegation).getD false = use.params[3]?.isSome := by
    cases hfourth : use.params[3]? with
    | none => rfl
    | some word => exact ParameterForm.negation_fits_iff.1 (hforms 3 _ word rfl hfourth)
  obtain ⟨value, hvalue⟩ := exists_joinDecimal? hinteger hfraction
  refine ⟨whole, value, hwhole, hvalue, ?_⟩
  have hbound : numericValue? role use.params matched = boundValue? use.params := by
    simp only [PlotRole.IsBound, List.mem_cons, List.not_mem_nil, or_false] at hrole
    obtain rfl | rfl | rfl | rfl := hrole <;> rfl
  rw [hbound, boundValue?, hwhole, Option.bind_some, hvalue, Option.map_some, hnegation]

theorem numericValue?_of_isDatum (hrole : role.IsDatum) (hfits : use.fault? role = none)
    {text : String} (htext : use.params[2]? = some text) (matched : String) :
    ∃ value, Number.readFloat? text = some value ∧
      numericValue? role use.params matched = some value := by
  obtain ⟨-, -, hforms⟩ := PlotUse.fault?_eq_none_iff.1 hfits
  rw [hrole.parameters_eq] at hforms
  obtain ⟨value, hvalue⟩ := Option.isSome_iff_exists.1
    (ParameterForm.number_fits_iff.1 (hforms 2 _ text rfl htext))
  refine ⟨value, hvalue, ?_⟩
  have hdatum : numericValue? role use.params matched = dataValue? use.params matched := by
    simp only [PlotRole.IsDatum, List.mem_cons, List.not_mem_nil, or_false] at hrole
    obtain rfl | rfl := hrole <;> rfl
  rw [hdatum, dataValue?, htext]
  exact hvalue

/-- Every entry of a record reads a role that some group declares. -/
theorem exists_use_of_mem_entries {t : MatchTree} {ms : List Match} {fields : List Field}
    {script : PatternScript} {item : PlotItem} {e : PlotEntry}
    (hitem : extractPlot t ms fields script = some item) (he : e ∈ item.entries) :
    ∃ a ∈ script.annotations, ∃ use matched, (e.role, use) ∈ a.plot.entries ∧
      e.params = use.params ∧ e.numeric = numericValue? e.role use.params matched := by
  rw [entries_of_extractPlot hitem, allPlotEntries, List.mem_flatMap] at he
  obtain ⟨m, -, he⟩ := he
  rw [plotEntries] at he
  split at he
  · cases he
  · next a ha =>
      obtain ⟨⟨role, use⟩, huse, rfl⟩ := List.mem_map.1 he
      exact ⟨a, List.mem_of_getElem? ha, use, m.text, huse, rfl, rfl⟩

/-- Where the plot roles of a pattern are consistent, every bound and every literal datum that a
record yields has a number. That of a bound is put together from its second and its third
parameter, of which the third may be absent and is then nought, and it is negative just if there is
a fourth one. -/
theorem consistent_numbers_are_read (options : ParseOptions) (names : List (Option String))
    (hconsistent : (PatternScript.ofNames options names).plotSchema.isConsistent = true)
    (ms : List Match) (fields : List Field) (item : PlotItem)
    (hitem : extractPlot (.build ms) ms fields (.ofNames options names) = some item)
    (e : PlotEntry) (he : e ∈ item.entries) :
    (e.role.IsBound →
      ∃ whole value, e.params[1]? = some whole ∧
        joinDecimal? whole (e.params[2]?.getD "0") = some value ∧
        e.numeric = some (if e.params[3]?.isSome then value.negate else value)) ∧
    (e.role.IsDatum →
      ∀ text, e.params[2]? = some text →
        ∃ value, Number.readFloat? text = some value ∧ e.numeric = some value) := by
  obtain ⟨a, ha, use, matched, huse, hparams, hnumeric⟩ := exists_use_of_mem_entries hitem he
  have hfits : use.fault? e.role = none :=
    PlotSchema.fault?_of_isConsistent hconsistent ha huse
  rw [hparams, hnumeric]
  exact ⟨fun hrole => numericValue?_of_isBound hrole hfits matched,
    fun hrole text htext => numericValue?_of_isDatum hrole hfits htext matched⟩

/-- The group names of a pattern for a graph with a literal datum and a negative bound. -/
def loadNames : List (Option String) :=
  [none, some "PGN_cpu_1", some "PYData_cpu_1_7", some "PYMn_cpu_2_25_neg"]

/-- What the groups of these names say. -/
def loadAnnotations : List Annotation :=
  [.blank, ⟨none, none, .empty, ⟨[(.graphName, ⟨"PGN_cpu_1", ["cpu", "1"]⟩)]⟩⟩,
    ⟨none, none, .empty, ⟨[(.yData, ⟨"PYData_cpu_1_7", ["cpu", "1", "7"]⟩)]⟩⟩,
    ⟨none, none, .empty, ⟨[(.yMin, ⟨"PYMn_cpu_2_25_neg", ["cpu", "2", "25", "neg"]⟩)]⟩⟩]

/-- Their script. -/
def loadScript : PatternScript :=
  ⟨loadAnnotations, [none, none, none, none], .ofAnnotations loadAnnotations⟩

theorem ofNames_loadNames : PatternScript.ofNames .standard loadNames = loadScript := by
  have hannotations : (PatternScript.ofNames .standard loadNames).annotations =
      loadAnnotations := by decide +kernel
  have hordering : (PatternScript.ofNames .standard loadNames).ordering =
      [none, none, none, none] := by decide +kernel
  rw [loadScript, ← hannotations, ← hordering]
  rfl

/-- No matched text is a number. -/
def loadMatches : List Match := [⟨"ab", ⟨0, 1⟩, 1⟩, ⟨"c", ⟨2, 2⟩, 2⟩, ⟨"d", ⟨3, 3⟩, 3⟩]

/-- Their plot item. -/
def loadPlot : PlotItem :=
  ⟨allPlotEntries (.build loadMatches) loadScript (Field.payload "abcd")⟩

theorem consistent_numbers_are_read_load :
    (∃ e ∈ loadPlot.entries, e.role = .yMin ∧
      ∃ value, joinDecimal? "2" "25" = some value ∧ e.numeric = some value.negate) ∧
    ∃ e ∈ loadPlot.entries, e.role = .yData ∧
      ∃ value, Number.readFloat? "7" = some value ∧ e.numeric = some value := by
  have hconsistent : (PatternScript.ofNames .standard loadNames).plotSchema.isConsistent = true :=
    by rw [ofNames_loadNames]; decide +kernel
  have hitem : extractPlot (.build loadMatches) loadMatches (Field.payload "abcd")
      (.ofNames .standard loadNames) = some loadPlot := by
    rw [ofNames_loadNames, extractPlot]
    exact if_pos (by decide +kernel)
  have hscan : Match.scanOrder loadMatches = loadMatches :=
    List.mergeSort_of_pairwise (by decide)
  have hentries : loadPlot.entries =
      loadMatches.flatMap (plotEntries loadScript (Field.payload "abcd")) := by
    rw [loadPlot, allPlotEntries, MatchTree.filterMap_item?_preOrder, hscan]
  have hmin : (⟨.yMin, ["cpu", "2", "25", "neg"],
      .locate ⟨"d", ⟨3, 3⟩, 3⟩ (Field.payload "abcd"),
      numericValue? .yMin ["cpu", "2", "25", "neg"] "d"⟩ : PlotEntry) ∈ loadPlot.entries := by
    rw [hentries]
    exact List.mem_flatMap.2 ⟨⟨"d", ⟨3, 3⟩, 3⟩, by decide, List.mem_singleton.2 rfl⟩
  have hdata : (⟨.yData, ["cpu", "1", "7"],
      .locate ⟨"c", ⟨2, 2⟩, 2⟩ (Field.payload "abcd"),
      numericValue? .yData ["cpu", "1", "7"] "c"⟩ : PlotEntry) ∈ loadPlot.entries := by
    rw [hentries]
    exact List.mem_flatMap.2 ⟨⟨"c", ⟨2, 2⟩, 2⟩, by decide, List.mem_singleton.2 rfl⟩
  obtain ⟨whole, value, hwhole, hvalue, hnumeric⟩ :=
    (consistent_numbers_are_read .standard loadNames hconsistent loadMatches _ loadPlot hitem
      _ hmin).1 (by simp [PlotRole.IsBound])
  obtain rfl : "2" = whole := Option.some.inj hwhole
  exact ⟨⟨_, hmin, rfl, value, hvalue, hnumeric⟩, _, hdata, rfl,
    (consistent_numbers_are_read .standard loadNames hconsistent loadMatches _ loadPlot hitem
      _ hdata).2 (by simp [PlotRole.IsDatum]) "7" rfl⟩

end Extract

end PatternScan
