import Mathlib.Data.List.Induction
import PatternScan.Extract.Plot
import PatternScan.Proofs.Script.Annotation

/-!
# What the plot roles of a pattern demand

An axis that some role refers to is of the type that the last group gives it, and of the
standard type if no group gives it one. The axes that are referred to tell which families of
roles the pattern must declare; a record of a consistent pattern yields an item just if its
matched groups declare all roles of one of these families.
-/

namespace PatternScan.Script.PlotSchema

open Annotation

variable {annotations : List Annotation} {a : Annotation} {axis : String} {type : AxisType}
  {group : Nat} {role : PlotRole} {use : PlotUse}

/-! ## Declared roles -/

/-- The group declares the role, with these parameters. -/
def Declares (annotations : List Annotation) (group : Nat) (role : PlotRole) (use : PlotUse) :
    Prop :=
  ∃ a, annotations[group]? = some a ∧ a.plot.get? role = some use

/-- Some role whose parameters fit refers to the axis. -/
def References (annotations : List Annotation) (axis : String) : Prop :=
  ∃ group role use, Declares annotations group role use ∧ use.fault? role = none ∧
    use.axisRect? role = some axis

/-- A group types the axis, with parameters that fit. -/
def TypesAxis (a : Annotation) (axis : String) (use : PlotUse) : Prop :=
  a.plot.get? .axisRectType = some use ∧ use.fault? .axisRectType = none ∧
    use.axisRect? .axisRectType = some axis

/-- The group with the number types the axis. -/
def Types (annotations : List Annotation) (group : Nat) (axis : String) (use : PlotUse) : Prop :=
  ∃ a, annotations[group]? = some a ∧ TypesAxis a axis use

/-- The type of an axis: the one given by the last group that types it, and else the standard
one. -/
def IsOfType (annotations : List Annotation) (axis : String) (type : AxisType) : Prop :=
  (∃ group use, Types annotations group axis use ∧
    (∀ later use', group < later → ¬ Types annotations later axis use') ∧
    use.params[1]?.bind AxisType.ofText? = some type) ∨
  (∀ group use, ¬ Types annotations group axis use) ∧ type = .linear

/-- The families of roles that the axes demand. -/
inductive Demands (annotations : List Annotation) : List PlotRole → Prop where
  | ofOther (h : (∃ axis type, References annotations axis ∧ IsOfType annotations axis type ∧
      type ≠ .gantt) ∨ ∀ axis, ¬ References annotations axis) :
      Demands annotations [.graphName, .yData]
  | ofGantt (axis : String) (h : References annotations axis)
      (htype : IsOfType annotations axis .gantt) : Demands annotations [.ganttEvent]

theorem mem_uses (hplot : ∀ a ∈ annotations, a.plot.Ascending) :
    (role, use) ∈ uses annotations ↔ ∃ group, Declares annotations group role use := by
  rw [uses, List.mem_flatMap]
  constructor
  · rintro ⟨a, ha, hentry⟩
    obtain ⟨group, hgroup⟩ := List.mem_iff_getElem?.1 ha
    exact ⟨group, a, hgroup, (hplot a ha).get?_eq_some_iff.2 hentry⟩
  · rintro ⟨group, a, hgroup, hget⟩
    have ha := List.mem_of_getElem? hgroup
    exact ⟨a, ha, (hplot a ha).get?_eq_some_iff.1 hget⟩

theorem mem_declared (hplot : ∀ a ∈ annotations, a.plot.Ascending) :
    role ∈ (uses annotations).map Prod.fst ↔ ∃ group use, Declares annotations group role use := by
  rw [List.mem_map]
  constructor
  · rintro ⟨⟨role, use⟩, huse, rfl⟩
    obtain ⟨group, hdeclares⟩ := (mem_uses hplot).1 huse
    exact ⟨group, use, hdeclares⟩
  · rintro ⟨group, use, hdeclares⟩
    exact ⟨(role, use), (mem_uses hplot).2 ⟨group, hdeclares⟩, rfl⟩

theorem mem_referencedAxes (hplot : ∀ a ∈ annotations, a.plot.Ascending) :
    axis ∈ referencedAxes annotations ↔ References annotations axis := by
  rw [referencedAxes, List.mem_filterMap]
  constructor
  · rintro ⟨⟨role, use⟩, hvalid, haxis⟩
    obtain ⟨huse, hfits⟩ := List.mem_filter.1 hvalid
    obtain ⟨group, hdeclares⟩ := (mem_uses hplot).1 huse
    exact ⟨group, role, use, hdeclares, Option.isNone_iff_eq_none.1 hfits, haxis⟩
  · rintro ⟨group, role, use, hdeclares, hfits, haxis⟩
    refine ⟨(role, use), List.mem_filter.2 ⟨(mem_uses hplot).2 ⟨group, hdeclares⟩, ?_⟩, haxis⟩
    exact Option.isNone_iff_eq_none.2 hfits

/-! ## Types of axes -/

/-- Parameters that fit the role that types an axis are the axis and a type. -/
theorem exists_type_of_fits (hfits : use.fault? .axisRectType = none) :
    ∃ axis type, use.axisRect? .axisRectType = some axis ∧
      use.params[1]?.bind AxisType.ofText? = some type := by
  obtain ⟨groupName, params⟩ := use
  match params with
  | [] | [_] | _ :: _ :: _ :: _ => cases hfits
  | [axis, text] =>
      have htype : (AxisType.ofText? text).isSome = true := by
        by_contra hnone
        have hform : ParameterForm.axisType.fault? text = some (.notAxisType text) := if_neg hnone
        have hfault : PlotUse.fault? ⟨groupName, [axis, text]⟩ .axisRectType =
            PlotUse.malformed? [⟨"axisRectType", true, .axisType⟩] [text] := rfl
        rw [hfault, PlotUse.malformed?, hform] at hfits
        cases hfits
      obtain ⟨type, htype⟩ := Option.isSome_iff_exists.1 htype
      exact ⟨axis, type, rfl, htype⟩

/-- The axis that a group types, and the type it gives. -/
def groupTyping? (a : Annotation) : Option (String × AxisType) :=
  (a.plot.get? .axisRectType).bind fun use =>
    if (use.fault? .axisRectType).isNone then typing? .axisRectType use else none

theorem groupTyping?_eq_some_iff :
    groupTyping? a = some (axis, type) ↔
      ∃ use, TypesAxis a axis use ∧ use.params[1]?.bind AxisType.ofText? = some type := by
  rw [groupTyping?, Option.bind_eq_some_iff]
  refine exists_congr fun use => ?_
  rw [TypesAxis, and_assoc, and_assoc, Option.ite_none_right_eq_some, Option.isNone_iff_eq_none]
  refine and_congr_right fun _ => and_congr_right fun _ => ?_
  cases haxis : use.axisRect? .axisRectType <;>
    cases htype : use.params[1]?.bind AxisType.ofText? <;> simp [typing?, haxis, htype]

theorem typing?_eq_none (h : role ≠ .axisRectType) : typing? role use = none := by
  simp [typing?, h]

theorem filterMap_typing? (h : a.plot.Ascending) :
    ((a.plot.entries.filter fun (role, use) => (use.fault? role).isNone).filterMap
      fun (role, use) => typing? role use) = (groupTyping? a).toList := by
  have hgroup : (groupTyping? a).toList =
      (a.plot.get? .axisRectType).toList.filterMap fun use =>
        if (use.fault? .axisRectType).isNone then typing? .axisRectType use else none := by
    rw [groupTyping?, Option.toList_bind, List.filterMap_eq_flatMap_toList]
    rfl
  rw [hgroup, ← h.filterMap_key, List.filterMap_filterMap, List.filterMap_filter]
  refine List.filterMap_congr fun e _ => ?_
  obtain ⟨role, use⟩ := e
  by_cases hrole : role = .axisRectType
  · subst hrole
    simp
  · simp [hrole, typing?_eq_none hrole]

/-- The last group types its axis anew. -/
theorem axisTyping_concat (annotations : List Annotation) (h : a.plot.Ascending) :
    axisTyping (annotations ++ [a]) =
      (groupTyping? a).elim (axisTyping annotations) fun (axis, type) =>
        (axisTyping annotations).insert axis type := by
  have huses : validUses (annotations ++ [a]) =
      validUses annotations ++
        a.plot.entries.filter fun (role, use) => (use.fault? role).isNone := by
    rw [validUses, uses, List.flatMap_append, List.flatMap_singleton, List.filter_append]
    rfl
  rw [axisTyping, huses, List.filterMap_append, filterMap_typing? h, List.foldl_append]
  cases groupTyping? a <;> rfl

theorem types_concat {later : Nat} :
    Types (annotations ++ [a]) later axis use ↔
      Types annotations later axis use ∨ later = annotations.length ∧ TypesAxis a axis use := by
  simp only [Types]
  rcases Nat.lt_trichotomy later annotations.length with hlt | rfl | hgt
  · simp [List.getElem?_append_left hlt, Nat.ne_of_lt hlt]
  · simp
  · have hnone : annotations[later]? = none := List.getElem?_eq_none (Nat.le_of_lt hgt)
    have hnone' : (annotations ++ [a])[later]? = none :=
      List.getElem?_eq_none (by rw [List.length_append, List.length_singleton]; omega)
    simp [hnone, hnone', Nat.ne_of_gt hgt]

theorem lt_of_types (h : Types annotations group axis use) : group < annotations.length := by
  obtain ⟨a, hgroup, -⟩ := h
  exact (List.getElem?_eq_some_iff.1 hgroup).1

/-- An axis that the last group types is of the type given there. -/
theorem isOfType_concat_of_types (huse : TypesAxis a axis use) :
    IsOfType (annotations ++ [a]) axis type ↔
      use.params[1]?.bind AxisType.ofText? = some type := by
  have hlast : Types (annotations ++ [a]) annotations.length axis use :=
    types_concat.2 (.inr ⟨rfl, huse⟩)
  constructor
  · rintro (⟨group, use', htypes, hfirst, htype⟩ | ⟨hnone, -⟩)
    · rcases types_concat.1 htypes with hold | ⟨-, hsame⟩
      · exact absurd hlast (hfirst _ _ (lt_of_types hold))
      · obtain rfl := Option.some.inj (huse.1.symm.trans hsame.1)
        exact htype
    · exact absurd hlast (hnone _ _)
  · intro htype
    refine .inl ⟨annotations.length, use, hlast, fun later use' hlt hlater => ?_, htype⟩
    have hbound := lt_of_types hlater
    rw [List.length_append, List.length_singleton] at hbound
    omega

theorem isOfType_concat_of_not_types (hnone : ∀ use, ¬ TypesAxis a axis use) :
    IsOfType (annotations ++ [a]) axis type ↔ IsOfType annotations axis type := by
  have hsame (group : Nat) (use : PlotUse) :
      Types (annotations ++ [a]) group axis use ↔ Types annotations group axis use := by
    rw [types_concat]
    exact or_iff_left fun hlast => hnone use hlast.2
  simp only [IsOfType, hsame]

/-- Each axis is of the one type that is looked up for it. -/
theorem isOfType_iff (hplot : ∀ a ∈ annotations, a.plot.Ascending) :
    IsOfType annotations axis type ↔ ((axisTyping annotations).get? axis).getD .linear = type := by
  induction annotations using List.reverseRecOn with
  | nil => simp [IsOfType, Types, axisTyping, validUses, uses, SortedMap.get?_empty, eq_comm]
  | append_singleton annotations a ih =>
      have hlast : a.plot.Ascending := hplot a (List.mem_append_right _ List.mem_cons_self)
      have ih := ih fun b hb => hplot b (List.mem_append_left _ hb)
      rw [axisTyping_concat annotations hlast]
      by_cases htypes : ∃ use, TypesAxis a axis use
      · obtain ⟨use, huse⟩ := htypes
        obtain ⟨axis', type', haxis, htype⟩ := exists_type_of_fits huse.2.1
        obtain rfl := Option.some.inj (huse.2.2.symm.trans haxis)
        have hgroup : groupTyping? a = some (axis, type') :=
          groupTyping?_eq_some_iff.2 ⟨use, huse, htype⟩
        rw [isOfType_concat_of_types huse, htype, hgroup, Option.elim_some,
          SortedMap.get?_insert, if_pos rfl, Option.getD_some, Option.some.injEq]
      · have hnone : ∀ use, ¬ TypesAxis a axis use := fun use huse => htypes ⟨use, huse⟩
        rw [isOfType_concat_of_not_types hnone, ih]
        cases hgroup : groupTyping? a with
        | none => rfl
        | some typed =>
            obtain ⟨other, type'⟩ := typed
            obtain ⟨use, huse, -⟩ := groupTyping?_eq_some_iff.1 hgroup
            have hother : axis ≠ other := by
              rintro rfl
              exact hnone use huse
            rw [Option.elim_some, SortedMap.get?_insert, if_neg hother]

/-! ## Demanded families -/

section Families

variable (hplot : ∀ a ∈ annotations, a.plot.Ascending)

include hplot

theorem any_gantt_iff :
    ((referencedAxes annotations).any fun axis =>
      ((axisTyping annotations).get? axis).getD .linear == .gantt) = true ↔
        ∃ axis, References annotations axis ∧ IsOfType annotations axis .gantt := by
  simp [mem_referencedAxes hplot, isOfType_iff hplot]

theorem any_other_iff :
    ((referencedAxes annotations).any fun axis =>
      !(((axisTyping annotations).get? axis).getD .linear == .gantt)) = true ↔
        ∃ axis type, References annotations axis ∧ IsOfType annotations axis type ∧
          type ≠ .gantt := by
  simp [mem_referencedAxes hplot, isOfType_iff hplot]

theorem mem_demandedFamilies {family : List PlotRole} :
    family ∈ demandedFamilies (axisTyping annotations) (referencedAxes annotations) ↔
      Demands annotations family := by
  have hother := any_other_iff hplot
  have hgantt := any_gantt_iff hplot
  have hseries : PlotSchema.family .mandatoryNonGantt = [.graphName, .yData] := by decide
  have htimeline : PlotSchema.family .mandatoryGantt = [.ganttEvent] := by decide
  simp only [demandedFamilies, List.mem_append, List.mem_ite_nil_right, List.mem_singleton,
    hseries, htimeline, Bool.or_eq_true, Bool.not_eq_true', ← Bool.not_eq_true, hother, hgantt]
  constructor
  · rintro (⟨h | h, rfl⟩ | ⟨⟨axis, haxis, htype⟩, rfl⟩)
    · exact .ofOther (.inl h)
    · -- No axis is a timeline, so one that is referred to is of another type.
      by_cases hnone : ∃ axis, References annotations axis
      · obtain ⟨axis, haxis⟩ := hnone
        have htype : IsOfType annotations axis
            (((axisTyping annotations).get? axis).getD .linear) := (isOfType_iff hplot).2 rfl
        exact .ofOther (.inl ⟨axis, _, haxis, htype, fun heq => h ⟨axis, haxis, heq ▸ htype⟩⟩)
      · exact .ofOther (.inr fun axis haxis => hnone ⟨axis, haxis⟩)
    · exact .ofGantt axis haxis htype
  · rintro (h | ⟨axis, haxis, htype⟩)
    · refine .inl ⟨h.imp_right fun hnone => ?_, rfl⟩
      rintro ⟨axis, haxis, -⟩
      exact hnone axis haxis
    · exact .inr ⟨⟨axis, haxis, htype⟩, rfl⟩

/-! ## The verdict on a pattern -/

theorem parameterIssues_eq_nil_iff :
    parameterIssues annotations = [] ↔
      ∀ group role use, Declares annotations group role use → use.fault? role = none := by
  rw [parameterIssues, List.filterMap_eq_nil_iff]
  constructor
  · intro hfits group role use hdeclares
    exact Option.map_eq_none_iff.1 (hfits (role, use) ((mem_uses hplot).2 ⟨group, hdeclares⟩))
  · rintro hfits ⟨role, use⟩ huse
    obtain ⟨group, hdeclares⟩ := (mem_uses hplot).1 huse
    exact Option.map_eq_none_iff.2 (hfits group role use hdeclares)

/-- A pattern is consistent just if some role is declared, all parameters fit, and all roles of
the demanded families are declared. -/
theorem isConsistent_iff :
    (ofAnnotations annotations).isConsistent = true ↔
      (∃ group role use, Declares annotations group role use) ∧
      (∀ group role use, Declares annotations group role use → use.fault? role = none) ∧
      ∀ family, Demands annotations family →
        ∀ role ∈ family, ∃ group use, Declares annotations group role use := by
  have hdeclared : ((uses annotations).map Prod.fst).isEmpty = true ↔
      ¬ ∃ group role use, Declares annotations group role use := by
    rw [List.isEmpty_iff, List.eq_nil_iff_forall_not_mem]
    simp only [mem_declared hplot]
    grind
  rw [isConsistent, List.isEmpty_iff, ofAnnotations]
  split
  · next hempty =>
      simp [hdeclared.1 hempty]
  · next hsome =>
      have hsome := not_not.1 (mt hdeclared.2 hsome)
      simp only [List.append_eq_nil_iff, List.map_eq_nil_iff, List.filter_eq_nil_iff,
        List.mem_flatten, parameterIssues_eq_nil_iff hplot, mem_demandedFamilies hplot]
      refine ⟨fun ⟨hfits, hall⟩ => ⟨hsome, hfits, fun family hfamily role hrole => ?_⟩,
        fun ⟨_, hfits, hall⟩ => ⟨hfits, fun role ⟨family, hfamily, hrole⟩ => ?_⟩⟩
      · have hmem := hall role ⟨family, hfamily, hrole⟩
        simpa [mem_declared hplot] using hmem
      · simpa [mem_declared hplot] using hall family hfamily role hrole

theorem mem_requiredSets (h : (ofAnnotations annotations).isConsistent = true)
    {family : List PlotRole} :
    family ∈ (ofAnnotations annotations).requiredSets ↔ Demands annotations family := by
  obtain ⟨⟨group, role, use, hdeclares⟩, -⟩ := (isConsistent_iff hplot).1 h
  have hsome : ¬ ((uses annotations).map Prod.fst).isEmpty = true := by
    rw [List.isEmpty_iff]
    exact List.ne_nil_of_mem ((mem_declared hplot).2 ⟨group, use, hdeclares⟩)
  rw [ofAnnotations, if_neg hsome]
  exact mem_demandedFamilies hplot

end Families

/-! ## The verdict on a record -/

open Extract (extractPlot matchedGroups)

variable {script : PatternScript} {groups : List Nat}

theorem mem_plotRolesOf :
    role ∈ script.plotRolesOf groups ↔
      ∃ group ∈ groups, ∃ use, Declares script.annotations group role use := by
  simp only [PatternScript.plotRolesOf, List.mem_filter, PlotRole.mem_all, true_and,
    List.contains_iff_mem, List.mem_flatMap, List.mem_filterMap, SortedMap.mem_keys]
  constructor
  · rintro ⟨a, ⟨group, hgroup, ha⟩, use, huse⟩
    exact ⟨group, hgroup, use, a, ha, huse⟩
  · rintro ⟨group, hgroup, use, a, ha, huse⟩
    exact ⟨a, ⟨group, hgroup, ha⟩, use, huse⟩

/-- The roles of a record meet the schema of a consistent pattern just if they include all roles
of some demanded family. -/
theorem admits_iff (hplot : ∀ a ∈ annotations, a.plot.Ascending)
    (h : (ofAnnotations annotations).isConsistent = true) {present : List PlotRole} :
    (ofAnnotations annotations).admits present = true ↔
      ∃ family, Demands annotations family ∧ ∀ role ∈ family, role ∈ present := by
  simp [admits, mem_requiredSets hplot h]

/-- The groups of a pattern demand one family of roles for its axes that are no timelines, and
for a pattern that refers to no axis, and another one for its timelines. The pattern is
consistent just if it declares some plot role, all parameters fit, and it declares all roles of
the demanded families. A record yields a plot item just if its pattern is consistent and its
matched groups declare all roles of one demanded family. -/
theorem demanded_families_decide (hplot : ∀ a ∈ annotations, a.plot.Ascending) :
    ((ofAnnotations annotations).isConsistent = true ↔
      (∃ group role use, Declares annotations group role use) ∧
      (∀ group role use, Declares annotations group role use → use.fault? role = none) ∧
      ∀ family, Demands annotations family →
        ∀ role ∈ family, ∃ group use, Declares annotations group role use) ∧
    ∀ (ordering : List (Option Nat)) (t : MatchTree) (ms : List Match) (fields : List Field),
      (extractPlot t ms fields ⟨annotations, ordering, ofAnnotations annotations⟩).isSome = true ↔
        (ofAnnotations annotations).isConsistent = true ∧
        ∃ family, Demands annotations family ∧
          ∀ role ∈ family, ∃ m ∈ ms, ∃ use, Declares annotations m.group role use := by
  refine ⟨isConsistent_iff hplot, fun ordering t ms fields => ?_⟩
  rw [extractPlot]
  split
  · next h =>
      obtain ⟨hconsistent, hadmits⟩ := Bool.and_eq_true_iff.1 h
      rw [admits_iff hplot hconsistent] at hadmits
      simpa [hconsistent, mem_plotRolesOf, matchedGroups] using hadmits
  · next h =>
      refine iff_of_false nofun fun ⟨hconsistent, hadmits⟩ => h ?_
      refine Bool.and_eq_true_iff.2 ⟨hconsistent, (admits_iff hplot hconsistent).2 ?_⟩
      simpa [mem_plotRolesOf, matchedGroups] using hadmits

/-- The groups of a pattern for a timeline, of which the last one says so. -/
def timelineGroups : List Annotation :=
  [.blank,
    { Annotation.blank with
      plot := ⟨[(.axisRectType, ⟨"PARType_g_linear", ["g", "linear"]⟩)]⟩ },
    { Annotation.blank with
      plot := ⟨[(.axisRectType, ⟨"PARType_g_gantt_and_PGE_g_1_start", ["g", "gantt"]⟩),
        (.ganttEvent, ⟨"PARType_g_gantt_and_PGE_g_1_start", ["g", "1", "start"]⟩)]⟩ }]

/-- The script of that pattern. -/
def timelineScript : PatternScript :=
  ⟨timelineGroups, [none, none, none], ofAnnotations timelineGroups⟩

/-- The event demanded by the timeline is declared, and a record without it yields nothing. -/
theorem demanded_families_decide_timeline :
    (Demands timelineGroups [.ganttEvent] ∧ ∃ group use,
      Declares timelineGroups group .ganttEvent use) ∧
    ¬ ∃ family, Demands timelineGroups family ∧ ∀ role ∈ family,
      ∃ m ∈ [(⟨"x", ⟨0, 0⟩, 1⟩ : Match)], ∃ use, Declares timelineGroups m.group role use := by
  have hplot : ∀ a ∈ timelineGroups, a.plot.Ascending := by decide
  have hconsistent : (ofAnnotations timelineGroups).isConsistent = true := by decide
  obtain ⟨hpattern, hrecord⟩ := demanded_families_decide hplot
  have hdemands : Demands timelineGroups [.ganttEvent] :=
    (mem_requiredSets hplot hconsistent).1 (by decide)
  obtain ⟨-, -, hall⟩ := hpattern.1 hconsistent
  refine ⟨⟨hdemands, hall _ hdemands .ganttEvent List.mem_cons_self⟩, fun hadmits => ?_⟩
  have hnone : (extractPlot (MatchTree.build [⟨"x", ⟨0, 0⟩, 1⟩]) [⟨"x", ⟨0, 0⟩, 1⟩]
      (Field.payload "x") timelineScript).isSome = false := by decide
  exact absurd ((hrecord _ _ _ _).2 ⟨hconsistent, hadmits⟩) (Bool.eq_false_iff.1 hnone)

end PatternScan.Script.PlotSchema
