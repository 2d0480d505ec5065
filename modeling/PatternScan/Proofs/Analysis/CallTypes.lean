import PatternScan.Analysis.Notification
import PatternScan.Proofs.Extract.SequenceSchema

/-!
# How often the type of a call is told

A match declares the roles of its group, so a group that is found twice declares them twice. The
walk of the match tree meets the roles that tell the type of a call as often as the matches
declare them, however the matches nest. A record that tells the type more than once is reported
only if it also names the caller, the service and the method, and a batch is reported just if it
holds a record that is.
-/

namespace PatternScan.Extract

open Script (PatternScript SequenceRole SequenceSchema.holds)

variable {script : PatternScript} {ms : List Match} {fields : List Field}

/-! ## Declared types -/

/-- The roles that a match declares are those of its group. -/
def declaredBy (script : PatternScript) (m : Match) : List SequenceRole :=
  ((script.annotation? m.group).map fun a => a.sequence.keys).getD []

/-- The types of a call that the matches declare, each as often as they do. -/
def typesTold (script : PatternScript) (ms : List Match) : List SequenceRole :=
  (ms.flatMap (declaredBy script)).filter fun role => role ∈ [.request, .response, .event]

/-- The matches declare who calls, and which method of which service. -/
def NamesCall (script : PatternScript) (ms : List Match) : Prop :=
  Carries script ms .client ∧ Carries script ms .service ∧ Carries script ms .method

instance : Decidable (NamesCall script ms) := inferInstanceAs (Decidable (_ ∧ _))

theorem map_role_sequenceHits (m : Match) :
    (sequenceHits script fields m).map RoleHit.role = declaredBy script m := by
  rw [sequenceHits, declaredBy]
  cases script.annotation? m.group with
  | none => rfl
  | some a =>
      simp only [List.map_map, Option.map_some, Option.getD_some]
      rfl

/-- The walk of the tree meets each role as often as the matches declare it. -/
theorem map_role_allSequenceHits_perm :
    ((allSequenceHits (.build ms) script fields).map RoleHit.role).Perm
      (ms.flatMap (declaredBy script)) := by
  rw [allSequenceHits, MatchTree.filterMap_item?_preOrder, List.map_flatMap]
  simp only [map_role_sequenceHits]
  exact (Match.scanOrder_perm ms).flatMap_right _

theorem length_typed_allSequenceHits :
    ((allSequenceHits (.build ms) script fields).filter fun hit =>
      hit.role.isRequestType).length = (typesTold script ms).length := by
  have htype (role : SequenceRole) :
      role.isRequestType = decide (role ∈ [SequenceRole.request, .response, .event]) := by
    rw [Bool.eq_iff_iff, isRequestType_iff, decide_eq_true_iff]
  calc ((allSequenceHits (.build ms) script fields).filter fun hit =>
        hit.role.isRequestType).length
      = (((allSequenceHits (.build ms) script fields).map RoleHit.role).filter
          SequenceRole.isRequestType).length := by
        rw [List.filter_map, List.length_map]
        rfl
    _ = (typesTold script ms).length := by
        rw [typesTold, funext htype]
        exact (map_role_allSequenceHits_perm.filter _).length_eq

theorem exists_carried_of_typesTold (h : typesTold script ms ≠ []) :
    Carries script ms .request ∨ Carries script ms .response ∨ Carries script ms .event := by
  obtain ⟨role, hrole⟩ := List.exists_mem_of_ne_nil _ h
  obtain ⟨hdeclared, htype⟩ := List.mem_filter.1 hrole
  obtain ⟨m, hm, hmatch⟩ := List.mem_flatMap.1 hdeclared
  have hcarries : Carries script ms role := by
    cases hannotation : script.annotation? m.group with
    | none => simp [declaredBy, hannotation] at hmatch
    | some a =>
        simp only [declaredBy, hannotation, Option.map_some, Option.getD_some] at hmatch
        exact ⟨m, hm, a, hannotation, hmatch⟩
  simp only [List.mem_cons, List.not_mem_nil, or_false, decide_eq_true_eq] at htype
  rcases htype with rfl | rfl | rfl
  · exact .inl hcarries
  · exact .inr (.inl hcarries)
  · exact .inr (.inr hcarries)

/-- A record that tells the type of its call more than once is reported just if it names the
call. -/
theorem duplicateRole_extractSequence_iff :
    (extractSequence (.build ms) ms fields script).duplicateRole = true ↔
      1 < (typesTold script ms).length ∧ NamesCall script ms := by
  rw [extractSequence]
  simp only
  split
  · next hholds =>
      obtain ⟨hclient, hservice, hmethod, -⟩ := holds_iff.1 hholds
      simp only [mem_sequenceRolesOf_matchedGroups] at hclient hservice hmethod
      rw [decide_eq_true_iff, length_typed_allSequenceHits]
      exact ⟨fun htwice => ⟨htwice, hclient, hservice, hmethod⟩, And.left⟩
  · next hfails =>
      refine iff_of_false Bool.false_ne_true ?_
      rintro ⟨htwice, hclient, hservice, hmethod⟩
      have htold : typesTold script ms ≠ [] :=
        List.ne_nil_of_length_pos (Nat.zero_lt_of_lt htwice)
      apply hfails
      rw [holds_iff]
      simp only [mem_sequenceRolesOf_matchedGroups]
      exact ⟨hclient, hservice, hmethod, exists_carried_of_typesTold htold⟩

end PatternScan.Extract

namespace PatternScan.Analysis

open Extract (extractSequence typesTold NamesCall duplicateRole_extractSequence_iff)
open Script (PatternScript)

/-! ## Reported batches -/

theorem RecordResult.hasDuplicateRole_iff {r : RecordResult} :
    r.hasDuplicateRole = true ↔
      ∃ outcome, r.sequence = some outcome ∧ outcome.duplicateRole = true := by
  cases hsequence : r.sequence <;> simp [hasDuplicateRole, hsequence]

/-- The result of a record is reported just if its call is looked for, and its matches name the
call and tell its type more than once. -/
theorem Context.hasDuplicateRole_resultOf_iff {context : Context} {record : Record}
    {ms : List Match} :
    (context.resultOf record ms).hasDuplicateRole = true ↔
      context.sequenceActive = true ∧
        1 < (typesTold context.script ms).length ∧ NamesCall context.script ms := by
  rw [RecordResult.hasDuplicateRole_iff, ← duplicateRole_extractSequence_iff]
  cases hactive : context.sequenceActive with
  | false => simp [resultOf, hactive]
  | true =>
      simp only [resultOf, hactive, if_true, Option.some.injEq, true_and]
      exact ⟨fun ⟨_, hsame, hreported⟩ => hsame ▸ hreported, fun hreported => ⟨_, rfl, hreported⟩⟩

/-- A record is reported to tell the type of its call more than once just if its matches, each
with the roles of its group, declare more than one type and also the caller, the service and the
method. So the report is right just where no type is told twice or all of these are declared. A
batch is reported just if a result in it has an outcome that is; of the results of analysed
records these are those of the records whose matches declare all this, where the call is looked
for. -/
theorem call_type_told_twice (script : PatternScript) (ms : List Match) (fields : List Field)
    (context : Context) (request : RequestId) (percent : Nat) (batch : List RecordResult)
    (records : List Record) :
    ((extractSequence (.build ms) ms fields script).duplicateRole = true ↔
      1 < (typesTold script ms).length ∧ NamesCall script ms) ∧
    (((extractSequence (.build ms) ms fields script).duplicateRole = true ↔
        1 < (typesTold script ms).length) ↔
      (1 < (typesTold script ms).length → NamesCall script ms)) ∧
    ((Notification.progress request percent batch).duplicateRole = true ↔
      ∃ r ∈ batch, ∃ outcome, r.sequence = some outcome ∧ outcome.duplicateRole = true) ∧
    ((Notification.progress request percent
        (records.filterMap context.analyze?)).duplicateRole = true ↔
      context.sequenceActive = true ∧
        ∃ record ∈ records, ∃ ms, context.pattern.find? record.text = some ms ∧
          1 < (typesTold context.script ms).length ∧ NamesCall context.script ms) := by
  have hreported : (extractSequence (.build ms) ms fields script).duplicateRole = true ↔
      1 < (typesTold script ms).length ∧ NamesCall script ms := duplicateRole_extractSequence_iff
  refine ⟨hreported, ?_, ?_, ?_⟩
  · rw [hreported, and_iff_left_iff_imp]
  · rw [Notification.progress, List.any_eq_true]
    simp only [RecordResult.hasDuplicateRole_iff]
  · rw [Notification.progress, List.any_eq_true]
    constructor
    · rintro ⟨r, hr, hreported⟩
      obtain ⟨record, hrecord, hresult⟩ := List.mem_filterMap.1 hr
      obtain ⟨ms, hfound, rfl⟩ := Option.map_eq_some_iff.1 hresult
      obtain ⟨hactive, htold⟩ := Context.hasDuplicateRole_resultOf_iff.1 hreported
      exact ⟨hactive, record, hrecord, ms, hfound, htold⟩
    · rintro ⟨hactive, record, hrecord, ms, hfound, htold⟩
      refine ⟨context.resultOf record ms, List.mem_filterMap.2 ⟨record, hrecord, ?_⟩,
        Context.hasDuplicateRole_resultOf_iff.2 ⟨hactive, htold⟩⟩
      rw [Context.analyze?, hfound]
      rfl

/-- Two groups that tell the type of a call, and none that names it. -/
def unnamedCallScript : PatternScript :=
  .ofNames .standard [none, some "URT", some "URS"]

/-- A request and its response. -/
def unnamedCallMatches : List Match := [⟨"RQ", ⟨0, 1⟩, 1⟩, ⟨"RP", ⟨3, 4⟩, 2⟩]

/-- A record that does not name its call is not reported, though it tells the type of the call
twice. -/
theorem unnamed_call_not_reported :
    typesTold unnamedCallScript unnamedCallMatches = [.request, .response] ∧
      ¬ ((extractSequence (.build unnamedCallMatches) unnamedCallMatches
          (Field.payload "RQ RP") unnamedCallScript).duplicateRole = true ↔
        1 < (typesTold unnamedCallScript unnamedCallMatches).length) := by
  have htold : typesTold unnamedCallScript unnamedCallMatches = [.request, .response] := by
    decide +kernel
  have hunreported : (extractSequence (.build unnamedCallMatches) unnamedCallMatches
      (Field.payload "RQ RP") unnamedCallScript).duplicateRole = false := rfl
  refine ⟨htold, fun hiff => ?_⟩
  rw [hunreported, htold] at hiff
  exact absurd (hiff.2 (by decide)) Bool.false_ne_true

end PatternScan.Analysis
