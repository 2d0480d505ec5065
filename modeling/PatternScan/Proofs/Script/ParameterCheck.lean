import PatternScan.Script.PlotRole
import PatternScan.Proofs.Number.Notation

/-!
# Parameters that fit a role

The parameters of a plot role are checked for their number and then, position by position, for
their form. The forms are said here without the check, as notations of numbers, lists of words and
a set of characters. In every role the required parameters stand before the optional ones, so the
missing ones are the required ones from the first missing position on.
-/

namespace PatternScan.Script

open Text (Spells)

/-! ## Forms -/

namespace ParameterForm

variable {form : ParameterForm} {value : String}

/-- The value is written in the form. -/
def Written : ParameterForm → String → Prop
  | free, _ => True
  | integer, value => ∃ i : Int, Number.Writes value.toList i ∧ -2 ^ 31 ≤ i ∧ i < 2 ^ 31
  | number, value => Number.WritesFloat value.toList
  | axisType, value => Spells ["gantt", "point", "linear"] value.toList
  | negation, value => Spells ["neg"] value.toList
  | eventType, value => Spells ["start", "end"] value.toList
  | timeFormat, value =>
      value ≠ "" ∧ ∀ c ∈ value.toList, c.isDigit = true ∨ c ∈ "wyMdHmsf".toList

theorem integer_fits_iff :
    integer.fault? value = none ↔ (Number.readInt? Number.maxInt32 value).isSome = true := by
  simp only [fault?, ite_eq_left_iff, reduceCtorEq, imp_false, not_not]

theorem number_fits_iff :
    number.fault? value = none ↔ (Number.readFloat? value).isSome = true := by
  simp only [fault?, ite_eq_left_iff, reduceCtorEq, imp_false, not_not]

theorem negation_fits_iff : negation.fault? value = none ↔ isNegation value = true := by
  simp only [fault?, ite_eq_left_iff, reduceCtorEq, imp_false, not_not]

theorem isSome_ofText?_iff :
    (AxisType.ofText? value).isSome = true ↔ Spells ["gantt", "point", "linear"] value.toList := by
  have hword (word : String) :
      String.ofList (value.toList.map Text.lowerAscii) = word ↔
        value.toList.map Text.lowerAscii = word.toList := by
    rw [← String.toList_inj, String.toList_ofList]
  rw [Text.spells_iff (by decide), AxisType.ofText?, List.lookup_isSome_iff]
  simp only [List.mem_cons, List.not_mem_nil, or_false, exists_eq_or_imp, exists_eq_left,
    beq_iff_eq, hword]

theorem mem_timeFormatChars_iff {c : Char} :
    c ∈ timeFormatChars ↔ c.isDigit = true ∨ c ∈ "wyMdHmsf".toList := by
  have hsplit : timeFormatChars = "0123456789".toList ++ "wyMdHmsf".toList := by decide
  rw [hsplit, List.mem_append]
  refine or_congr_left ⟨fun h => ?_, fun h => ?_⟩
  · have hdigits : "0123456789".toList.all Char.isDigit = true := by decide
    exact List.all_eq_true.1 hdigits c h
  · -- There are ten code points from the first digit to the last.
    have hdigits : ∀ n < '9'.toNat + 1, '0'.toNat ≤ n → Char.ofNat n ∈ "0123456789".toList := by
      decide
    rw [Char.isDigit, Bool.and_eq_true, decide_eq_true_iff, decide_eq_true_iff] at h
    have hc := hdigits c.toNat (Nat.lt_succ_of_le h.2) h.1
    rwa [Char.ofNat_toNat] at hc

theorem redundantTimeChars_eq_nil_iff :
    redundantTimeChars value = [] ↔ ∀ c ∈ value.toList, c ∈ timeFormatChars := by
  rw [redundantTimeChars, List.eq_nil_iff_forall_not_mem]
  simp only [List.mem_eraseDups, List.mem_filter, Bool.not_eq_true', List.contains_eq_mem,
    decide_eq_false_iff_not, not_and, not_not]

/-- A value has no fault just if it is written in its form. -/
theorem fault?_eq_none_iff : form.fault? value = none ↔ form.Written value := by
  cases form with
  | free => exact iff_of_true rfl trivial
  | integer =>
      rw [integer_fits_iff, Option.isSome_iff_exists, Written]
      refine exists_congr fun i => ?_
      rw [Number.readInt?_eq_some_iff, Number.maxInt32]
      refine and_congr_right fun _ => ?_
      omega
  | number => rw [number_fits_iff, Number.isSome_readFloat?, Written]
  | axisType =>
      rw [Written, ← isSome_ofText?_iff]
      simp only [fault?, ite_eq_left_iff, reduceCtorEq, imp_false, not_not]
  | negation =>
      rw [negation_fits_iff, Written, Spells]
      simp only [List.mem_singleton, exists_eq_left, isNegation]
  | eventType =>
      simp only [fault?, ite_eq_left_iff, reduceCtorEq, imp_false, not_not, Written, Spells,
        List.mem_cons, List.not_mem_nil, or_false, exists_eq_or_imp, exists_eq_left,
        Bool.or_eq_true]
  | timeFormat =>
      have hform : timeFormat.fault? value = none ↔ value ≠ "" ∧ redundantTimeChars value = [] := by
        simp [fault?]
      simp only [hform, redundantTimeChars_eq_nil_iff, mem_timeFormatChars_iff, Written]

end ParameterForm

/-! ## Required parameters -/

namespace PlotRole

variable {role : PlotRole} {i : Nat} {spec : ParameterSpec}

/-- The required parameters come first. -/
theorem parameters_eq_append (role : PlotRole) :
    role.parameters =
      role.requiredParameters ++ role.parameters.filter fun spec => !spec.required := by
  cases role <;> rfl

theorem required_iff_lt (h : role.parameters[i]? = some spec) :
    spec.required = true ↔ i < role.requiredParameters.length := by
  rw [parameters_eq_append] at h
  rcases Nat.lt_or_ge i role.requiredParameters.length with hlt | hge
  · rw [List.getElem?_append_left hlt] at h
    exact iff_of_true (List.mem_filter.1 (List.mem_of_getElem? h)).2 hlt
  · rw [List.getElem?_append_right hge] at h
    have hoptional := (List.mem_filter.1 (List.mem_of_getElem? h)).2
    exact iff_of_false (by simpa using hoptional) (Nat.not_lt.2 hge)

theorem drop_requiredParameters (role : PlotRole) (given : Nat) :
    role.requiredParameters.drop given =
      (role.parameters.drop given).filter ParameterSpec.required := by
  have hrequired : (role.requiredParameters.drop given).filter ParameterSpec.required =
      role.requiredParameters.drop given :=
    List.filter_eq_self.2 fun spec hspec => (List.mem_filter.1 (List.mem_of_mem_drop hspec)).2
  have hoptional (n : Nat) : ((role.parameters.filter fun spec => !spec.required).drop n).filter
      ParameterSpec.required = [] := by
    refine List.filter_eq_nil_iff.2 fun spec hspec => ?_
    simpa using (List.mem_filter.1 (List.mem_of_mem_drop hspec)).2
  conv_rhs => rw [parameters_eq_append, List.drop_append, List.filter_append, hrequired, hoptional,
    List.append_nil]

end PlotRole

/-! ## The check -/

namespace PlotUse

variable {role : PlotRole} {use : PlotUse} {specs : List ParameterSpec} {values : List String}
  {i : Nat} {spec : ParameterSpec} {value : String} {fault : FormFault}

/-- No parameter is malformed just if each is written in the form of its position. -/
theorem malformed?_eq_none_iff :
    malformed? specs values = none ↔
      ∀ (i : Nat) (spec : ParameterSpec) (value : String), specs[i]? = some spec →
        values[i]? = some value → spec.form.fault? value = none := by
  induction specs generalizing values with
  | nil => simp [malformed?]
  | cons spec specs ih =>
      cases values with
      | nil => simp [malformed?]
      | cons value values =>
          rw [malformed?]
          cases hform : spec.form.fault? value with
          | some fault =>
              refine iff_of_false (Option.some_ne_none _) fun hfits => ?_
              exact absurd (hfits 0 spec value rfl rfl) (by simp [hform])
          | none =>
              refine ih.trans ⟨fun hfits i => ?_, fun hfits i => hfits (i + 1)⟩
              cases i with
              | zero =>
                  rintro s v hs hv
                  obtain rfl := Option.some.inj hs
                  obtain rfl := Option.some.inj hv
                  exact hform
              | succ i => exact hfits i

/-- Of several malformed parameters the first one is told. -/
theorem malformed?_eq_some (hspec : specs[i]? = some spec) (hvalue : values[i]? = some value)
    (hfault : spec.form.fault? value = some fault)
    (hbefore : ∀ j < i, ∀ (s : ParameterSpec) (v : String), specs[j]? = some s →
      values[j]? = some v → s.form.fault? v = none) :
    malformed? specs values = some (.malformed spec.name fault) := by
  induction i generalizing specs values with
  | zero =>
      obtain ⟨specs, rfl⟩ := List.head?_eq_some_iff.1 (List.head?_eq_getElem? ▸ hspec)
      obtain ⟨values, rfl⟩ := List.head?_eq_some_iff.1 (List.head?_eq_getElem? ▸ hvalue)
      rw [malformed?, hfault]
  | succ i ih =>
      obtain ⟨s, specs, rfl⟩ := List.exists_cons_of_ne_nil (l := specs) (by rintro rfl; cases hspec)
      obtain ⟨v, values, rfl⟩ :=
        List.exists_cons_of_ne_nil (l := values) (by rintro rfl; cases hvalue)
      rw [malformed?, hbefore 0 (Nat.succ_pos i) s v rfl rfl]
      exact ih hspec hvalue fun j hj => hbefore (j + 1) (Nat.succ_lt_succ hj)

/-- Parameters fit a role just if there are neither too few nor too many of them and each is
written in the form of its position. -/
theorem fault?_eq_none_iff :
    use.fault? role = none ↔
      role.requiredParameters.length ≤ use.params.length ∧
      use.params.length ≤ role.parameters.length ∧
      ∀ (i : Nat) (spec : ParameterSpec) (value : String), role.parameters[i]? = some spec →
        use.params[i]? = some value → spec.form.fault? value = none := by
  rw [fault?, ← malformed?_eq_none_iff]
  split
  · next hfew => exact iff_of_false (Option.some_ne_none _) fun h => Nat.not_le.2 hfew h.1
  · next hfew =>
      split
      · next hmany => exact iff_of_false (Option.some_ne_none _) fun h => Nat.not_le.2 hmany h.2.1
      · next hmany => simp [Nat.not_lt.1 hfew, Nat.not_lt.1 hmany]

/-- What is said of the parameters, if they do not fit the role. -/
def complaint? (use : PlotUse) (role : PlotRole) : Option String :=
  (use.fault? role).map (ParameterFault.message use.groupName)

/-- What is given at the position, if anything, is written in the form that the role asks for
there. -/
def FitsAt (use : PlotUse) (role : PlotRole) (i : Nat) : Prop :=
  ∀ (spec : ParameterSpec) (value : String), role.parameters[i]? = some spec →
    use.params[i]? = some value → spec.form.Written value

theorem fitsAt_iff : use.FitsAt role i ↔
    ∀ (spec : ParameterSpec) (value : String), role.parameters[i]? = some spec →
      use.params[i]? = some value → spec.form.fault? value = none := by
  simp only [FitsAt, ParameterForm.fault?_eq_none_iff]

theorem complaint?_of_few (h : use.params.length < role.requiredParameters.length) :
    use.complaint? role = some ("'" ++ use.groupName ++ "' has " ++
      " and ".intercalate (((role.parameters.drop use.params.length).filter
        ParameterSpec.required).map fun spec => "'" ++ spec.name ++ "'") ++ " " ++
      (if use.params.length + 1 < role.requiredParameters.length then
        "mandatory parameters" else "mandatory parameter") ++ " missing") := by
  have hcount : 1 < ((role.requiredParameters.drop use.params.length).map
      ParameterSpec.name).length ↔ use.params.length + 1 < role.requiredParameters.length := by
    rw [List.length_map, List.length_drop]
    omega
  rw [complaint?, fault?, if_pos h, Option.map_some, ParameterFault.message]
  simp only [gt_iff_lt, hcount]
  rw [List.map_map, role.drop_requiredParameters]
  rfl

theorem complaint?_of_many (h : role.parameters.length < use.params.length) :
    use.complaint? role = some ("'" ++ use.groupName ++ "' has '" ++
      toString use.params.length ++ "' parameters. Expected maximum number of parameters - '" ++
      toString role.parameters.length ++ "'") := by
  have hrequired : role.requiredParameters.length ≤ role.parameters.length :=
    List.length_filter_le _ _
  rw [complaint?, fault?, if_neg (Nat.not_lt.2 (Nat.le_trans hrequired (Nat.le_of_lt h))),
    if_pos h, Option.map_some, ParameterFault.message]

/-- Where the number is right, the first parameter that is not written in its form is told. -/
theorem complaint?_of_misfit (hfew : role.requiredParameters.length ≤ use.params.length)
    (hmany : use.params.length ≤ role.parameters.length) (hmisfit : ¬ use.FitsAt role i)
    (hfirst : ∀ j < i, use.FitsAt role j) :
    ∃ spec value fault, role.parameters[i]? = some spec ∧ use.params[i]? = some value ∧
      spec.form.fault? value = some fault ∧
      use.complaint? role = some ("'" ++ use.groupName ++ "'. Parameter '" ++ spec.name ++
        "' did not pass validation: \"" ++ fault.message ++ "\"") := by
  simp only [fitsAt_iff] at hmisfit hfirst
  push Not at hmisfit
  obtain ⟨spec, value, hspec, hvalue, hfault⟩ := hmisfit
  obtain ⟨fault, hfault⟩ := Option.ne_none_iff_exists'.1 hfault
  refine ⟨spec, value, fault, hspec, hvalue, hfault, ?_⟩
  rw [complaint?, fault?, if_neg (Nat.not_lt.2 hfew), if_neg (Nat.not_lt.2 hmany),
    malformed?_eq_some hspec hvalue hfault hfirst, Option.map_some, ParameterFault.message]

/-- The parameters of a role are accepted just if there are no fewer than it requires, no more
than it has, and each is written in the form of its position. If there are too few, the required
parameters from the first missing position on are named, in their order; if the number is right,
the first parameter that is not written in its form is named. Required parameters stand before
optional ones. -/
theorem parameters_are_checked (role : PlotRole) (use : PlotUse) :
    (∀ i spec, role.parameters[i]? = some spec →
      (spec.required = true ↔ i < role.requiredParameters.length)) ∧
    (use.complaint? role = none ↔
      role.requiredParameters.length ≤ use.params.length ∧
      use.params.length ≤ role.parameters.length ∧ ∀ i, use.FitsAt role i) ∧
    (use.params.length < role.requiredParameters.length →
      use.complaint? role = some ("'" ++ use.groupName ++ "' has " ++
        " and ".intercalate (((role.parameters.drop use.params.length).filter
          ParameterSpec.required).map fun spec => "'" ++ spec.name ++ "'") ++ " " ++
        (if use.params.length + 1 < role.requiredParameters.length then
          "mandatory parameters" else "mandatory parameter") ++ " missing")) ∧
    (role.parameters.length < use.params.length →
      use.complaint? role = some ("'" ++ use.groupName ++ "' has '" ++
        toString use.params.length ++
        "' parameters. Expected maximum number of parameters - '" ++
        toString role.parameters.length ++ "'")) ∧
    (role.requiredParameters.length ≤ use.params.length →
      use.params.length ≤ role.parameters.length →
      ∀ i, ¬ use.FitsAt role i → (∀ j < i, use.FitsAt role j) →
        ∃ spec value fault, role.parameters[i]? = some spec ∧ use.params[i]? = some value ∧
          spec.form.fault? value = some fault ∧
          use.complaint? role = some ("'" ++ use.groupName ++ "'. Parameter '" ++ spec.name ++
            "' did not pass validation: \"" ++ fault.message ++ "\"")) := by
  refine ⟨fun i spec hspec => PlotRole.required_iff_lt hspec, ?_, complaint?_of_few,
    complaint?_of_many, fun hfew hmany i => complaint?_of_misfit hfew hmany⟩
  rw [complaint?, Option.map_eq_none_iff, fault?_eq_none_iff]
  simp only [fitsAt_iff]

/-- Two of the three parameters of an event are missing, or the second one is no number and the
third no word for an end of the event. -/
theorem parameters_are_checked_event :
    (⟨"PGE_x", ["x"]⟩ : PlotUse).complaint? .ganttEvent =
      some "'PGE_x' has 'graphId' and 'eventType' mandatory parameters missing" ∧
    (⟨"PGE_x_y_z", ["x", "y", "z"]⟩ : PlotUse).complaint? .ganttEvent =
      some ("'PGE_x_y_z'. Parameter 'graphId' did not pass validation: " ++
        "\"Wrong literal 'y' provided. It is not convertible to integer.\"") := by
  obtain ⟨-, -, hfew, -⟩ := parameters_are_checked .ganttEvent ⟨"PGE_x", ["x"]⟩
  obtain ⟨-, -, -, -, hmisfit⟩ :=
    parameters_are_checked .ganttEvent ⟨"PGE_x_y_z", ["x", "y", "z"]⟩
  refine ⟨hfew (by decide), ?_⟩
  have hfault : ParameterForm.integer.fault? "y" = some (.notInteger "y") := by decide
  have hsecond : ¬ FitsAt ⟨"PGE_x_y_z", ["x", "y", "z"]⟩ .ganttEvent 1 := fun h => by
    have hwritten := ParameterForm.fault?_eq_none_iff.2 (h ⟨"graphId", true, .integer⟩ "y" rfl rfl)
    rw [hfault] at hwritten
    cases hwritten
  have hfirst : ∀ j < 1, FitsAt ⟨"PGE_x_y_z", ["x", "y", "z"]⟩ .ganttEvent j := by
    intro j hj
    obtain rfl := Nat.lt_one_iff.1 hj
    rintro spec value ⟨⟩ -
    trivial
  obtain ⟨spec, value, fault, hspec, hvalue, htold, hcomplaint⟩ :=
    hmisfit (by decide) (by decide) 1 hsecond hfirst
  obtain rfl := Option.some.inj hspec
  obtain rfl := Option.some.inj hvalue
  obtain rfl := Option.some.inj (hfault.symm.trans htold)
  exact hcomplaint

end PlotUse

end PatternScan.Script
