import PatternScan.Proofs.Extract.ScanOrder

/-!
# What a call-sequence item demands

A record yields a sequence item just if the groups of its matches declare who calls, what is
called and the type of the call. The report on what is missing, the list of missing roles and
the values gathered along the match tree all come to the same verdict, whichever groups the
roles are spread over.
-/

namespace PatternScan.Extract

open Script (PatternScript ParseOptions SequenceRole SequenceSchema.missing SequenceSchema.issues
  SequenceSchema.holds)

variable {script : PatternScript} {ms : List Match} {fields : List Field} {role : SequenceRole}
  {present : List SequenceRole}

/-! ## Roles of a record -/

/-- Some match of the record is one of a group that declares the role. -/
def Carries (script : PatternScript) (ms : List Match) (role : SequenceRole) : Prop :=
  ∃ m ∈ ms, ∃ a, script.annotation? m.group = some a ∧ role ∈ a.sequence.keys

theorem mem_sequenceRolesOf {groups : List Nat} :
    role ∈ script.sequenceRolesOf groups ↔
      ∃ group ∈ groups, ∃ a, script.annotation? group = some a ∧ role ∈ a.sequence.keys := by
  simp only [PatternScript.sequenceRolesOf, List.mem_filter, SequenceRole.mem_all, true_and,
    List.contains_iff_mem, List.mem_flatMap, List.mem_filterMap]
  constructor
  · rintro ⟨a, ⟨group, hgroup, ha⟩, hrole⟩
    exact ⟨group, hgroup, a, ha, hrole⟩
  · rintro ⟨group, hgroup, a, ha, hrole⟩
    exact ⟨a, ⟨group, hgroup, ha⟩, hrole⟩

/-- No group declares a role that its pattern does not declare. -/
theorem sequenceRolesOf_subset (script : PatternScript) (groups : List Nat) :
    script.sequenceRolesOf groups ⊆ script.sequenceRolesOf (List.range script.size) := by
  intro role hrole
  obtain ⟨group, -, a, ha, hdeclared⟩ := mem_sequenceRolesOf.1 hrole
  have hlt : group < script.size := (List.getElem?_eq_some_iff.1 ha).1
  exact mem_sequenceRolesOf.2 ⟨group, List.mem_range.2 hlt, a, ha, hdeclared⟩

theorem mem_sequenceRolesOf_matchedGroups :
    role ∈ script.sequenceRolesOf (matchedGroups ms) ↔ Carries script ms role := by
  simp [mem_sequenceRolesOf, matchedGroups, Carries]

instance : Decidable (Carries script ms role) :=
  decidable_of_iff _ mem_sequenceRolesOf_matchedGroups

/-! ## The schema -/

theorem isRequestType_iff :
    role.isRequestType = true ↔ role ∈ [SequenceRole.request, .response, .event] := by
  cases role <;> decide

theorem any_isRequestType_iff :
    present.any SequenceRole.isRequestType = true ↔
      SequenceRole.request ∈ present ∨ .response ∈ present ∨ .event ∈ present := by
  simp only [List.any_eq_true, isRequestType_iff, List.mem_cons, List.not_mem_nil, or_false]
  constructor
  · rintro ⟨role, hrole, rfl | rfl | rfl⟩
    · exact .inl hrole
    · exact .inr (.inl hrole)
    · exact .inr (.inr hrole)
  · rintro (h | h | h)
    · exact ⟨_, h, .inl rfl⟩
    · exact ⟨_, h, .inr (.inl rfl)⟩
    · exact ⟨_, h, .inr (.inr rfl)⟩

/-- Of the mandatory roles those are missing that are absent, in role order. -/
theorem missing_eq_filter (present : List SequenceRole) :
    SequenceSchema.missing present =
      [SequenceRole.client, .service, .method].filter fun role => role ∉ present := by
  have hmandatory : SequenceRole.all.filter SequenceRole.isMandatory =
      [.client, .service, .method] := by decide
  rw [← hmandatory, List.filter_filter, SequenceSchema.missing]
  refine List.filter_congr fun role _ => ?_
  simp [Bool.and_comm]

theorem missing_eq_nil_iff :
    SequenceSchema.missing present = [] ↔
      SequenceRole.client ∈ present ∧ .service ∈ present ∧ .method ∈ present := by
  simp [missing_eq_filter]

theorem holds_iff :
    SequenceSchema.holds present = true ↔
      SequenceRole.client ∈ present ∧ .service ∈ present ∧ .method ∈ present ∧
        (SequenceRole.request ∈ present ∨ .response ∈ present ∨ .event ∈ present) := by
  rw [SequenceSchema.holds, List.isEmpty_iff, SequenceSchema.issues, List.append_eq_nil_iff,
    List.map_eq_nil_iff, missing_eq_nil_iff, ← any_isRequestType_iff]
  simp [and_assoc]

/-- More roles than those that suffice suffice, too. -/
theorem holds_mono {present' : List SequenceRole} (hsub : present ⊆ present')
    (h : SequenceSchema.holds present = true) : SequenceSchema.holds present' = true := by
  obtain ⟨hclient, hservice, hmethod, htype⟩ := holds_iff.1 h
  refine holds_iff.2 ⟨hsub hclient, hsub hservice, hsub hmethod, ?_⟩
  exact htype.imp (@hsub _) (Or.imp (@hsub _) (@hsub _))

theorem missingRoles_eq (present : List SequenceRole) :
    missingRoles present =
      [SequenceRole.client, .service, .method].filter (fun role => role ∉ present) ++
        if SequenceRole.request ∈ present ∨ .response ∈ present ∨ .event ∈ present then []
        else [.request, .response, .event] := by
  have htypes : SequenceRole.all.filter SequenceRole.isRequestType =
      [.request, .response, .event] := by decide
  simp only [missingRoles, missing_eq_filter, any_isRequestType_iff, htypes]

theorem missingRoles_eq_nil_iff :
    missingRoles present = [] ↔ SequenceSchema.holds present = true := by
  rw [missingRoles_eq, ← missing_eq_filter, List.append_eq_nil_iff, missing_eq_nil_iff, holds_iff,
    and_assoc, and_assoc]
  refine and_congr_right fun _ => and_congr_right fun _ => and_congr_right fun _ => ?_
  split
  · next h => exact iff_of_true rfl h
  · next h => exact iff_of_false nofun h

/-! ## Values of roles -/

theorem get?_gatherHits_getD (role : SequenceRole) (hits : List RoleHit) :
    ((gatherHits hits).get? role).getD [] = hits.filterMap (RoleHit.valueFor? role) := by
  rw [get?_gatherHits]
  split
  · next h => exact (List.isEmpty_iff.1 h).symm
  · rfl

theorem filterMap_valueFor?_ne_nil {hits : List RoleHit} :
    hits.filterMap (RoleHit.valueFor? role) ≠ [] ↔ ∃ hit ∈ hits, hit.role = role := by
  simp [RoleHit.valueFor?]

theorem mem_keys_gatherHits {hits : List RoleHit} :
    role ∈ (gatherHits hits).keys ↔ ∃ hit ∈ hits, hit.role = role := by
  rw [SortedMap.mem_keys, ← filterMap_valueFor?_ne_nil, get?_gatherHits]
  split
  · next h => simp [List.isEmpty_iff.1 h]
  · next h => simpa [List.isEmpty_iff] using h

/-- A role that is gathered has some value. -/
theorem ne_nil_of_get?_gatherHits {hits : List RoleHit} {values : List RoleValue}
    (h : (gatherHits hits).get? role = some values) : values ≠ [] := by
  have hrole : role ∈ (gatherHits hits).keys := SortedMap.mem_keys.2 ⟨values, h⟩
  rw [mem_keys_gatherHits, ← filterMap_valueFor?_ne_nil, ← get?_gatherHits_getD] at hrole
  rwa [h] at hrole

/-- The roles that the walk of the tree meets are those that the matches carry. -/
theorem exists_mem_allSequenceHits :
    (∃ hit ∈ allSequenceHits (MatchTree.build ms) script fields, hit.role = role) ↔
      Carries script ms role := by
  rw [allSequenceHits, MatchTree.filterMap_item?_preOrder]
  simp only [List.mem_flatMap, Match.mem_scanOrder, Carries]
  constructor
  · rintro ⟨hit, ⟨m, hm, hhit⟩, rfl⟩
    rw [sequenceHits] at hhit
    split at hhit
    · cases hhit
    · next a ha =>
        obtain ⟨e, he, rfl⟩ := List.mem_map.1 hhit
        exact ⟨m, hm, a, ha, List.mem_map_of_mem he⟩
  · rintro ⟨m, hm, a, ha, hrole⟩
    obtain ⟨⟨role, literal⟩, he, rfl⟩ := List.mem_map.1 hrole
    have hhit : (sequenceHits script fields m).any (fun hit => hit.role = role) = true := by
      rw [sequenceHits, ha, List.any_map]
      exact List.any_eq_true.2 ⟨_, he, decide_eq_true rfl⟩
    obtain ⟨hit, hmem, hrole⟩ := List.any_eq_true.1 hhit
    exact ⟨hit, ⟨m, hm, hmem⟩, of_decide_eq_true hrole⟩

/-- The hits that tell the type of the call are counted by their roles. -/
theorem length_filter_isRequestType (hits : List RoleHit) :
    (hits.filter fun hit => hit.role.isRequestType).length =
      (hits.filterMap (RoleHit.valueFor? .request)).length +
        (hits.filterMap (RoleHit.valueFor? .response)).length +
        (hits.filterMap (RoleHit.valueFor? .event)).length := by
  induction hits with
  | nil => rfl
  | cons hit rest ih =>
      obtain ⟨role, value⟩ := hit
      rw [List.filter_cons]
      cases role with
      | request | response | event =>
          rw [if_pos (isRequestType_iff.2 (by simp))]
          simp only [List.filterMap_cons, RoleHit.valueFor?, List.length_cons, ih, reduceCtorEq,
            if_true, if_false]
          omega
      | sequenceId | client | service | method | arguments =>
          rw [if_neg (mt isRequestType_iff.1 (by simp)), ih]
          rfl

/-! ## The verdict on a record -/

theorem isSome_item_extractSequence {t : MatchTree} :
    (extractSequence t ms fields script).item.isSome = true ↔
      SequenceSchema.holds (script.sequenceRolesOf (matchedGroups ms)) = true := by
  rw [extractSequence]
  split
  · next h => exact iff_of_true rfl h
  · next h => exact iff_of_false Bool.false_ne_true h

/-- A record yields an item just if its matches carry the caller, the service, the method and a
role that tells the type of the call. What is missing is told in role order: the mandatory roles
that no match carries, and all roles of the last kind if no match carries one of them. An item
holds the roles that the matches carry, each with some value, and the type of the call is told
twice just if its roles have more than one value together. -/
theorem sequence_schema_decides (script : PatternScript) (ms : List Match) (fields : List Field) :
    let outcome := extractSequence (MatchTree.build ms) ms fields script
    (outcome.item.isSome = true ↔
      Carries script ms .client ∧ Carries script ms .service ∧ Carries script ms .method ∧
        (Carries script ms .request ∨ Carries script ms .response ∨ Carries script ms .event)) ∧
    (outcome.missing = [] ↔ outcome.item.isSome = true) ∧
    outcome.missing =
      [SequenceRole.client, .service, .method].filter (fun role => ¬ Carries script ms role) ++
        (if Carries script ms .request ∨ Carries script ms .response ∨ Carries script ms .event
          then [] else [.request, .response, .event]) ∧
    ∀ item, outcome.item = some item →
      item.values.Ascending ∧
      (∀ role, role ∈ item.values.keys ↔ Carries script ms role) ∧
      (∀ role values, item.values.get? role = some values → values ≠ []) ∧
      (outcome.duplicateRole = true ↔
        1 < ((item.values.get? .request).getD []).length +
          ((item.values.get? .response).getD []).length +
          ((item.values.get? .event).getD []).length) := by
  intro outcome
  have hpresent (role : SequenceRole) :
      role ∈ script.sequenceRolesOf (matchedGroups ms) ↔ Carries script ms role :=
    mem_sequenceRolesOf_matchedGroups
  have hmissing := missingRoles_eq (script.sequenceRolesOf (matchedGroups ms))
  have hnil := @missingRoles_eq_nil_iff (script.sequenceRolesOf (matchedGroups ms))
  simp only [hpresent] at hmissing
  by_cases h : SequenceSchema.holds (script.sequenceRolesOf (matchedGroups ms)) = true
  · have houtcome : outcome =
        ⟨some ⟨gatherHits (allSequenceHits (MatchTree.build ms) script fields)⟩, [],
          1 < ((allSequenceHits (MatchTree.build ms) script fields).filter
            fun hit => hit.role.isRequestType).length⟩ := if_pos h
    rw [hnil.2 h] at hmissing
    simp only [holds_iff, hpresent] at h
    rw [houtcome]
    refine ⟨iff_of_true rfl h, iff_of_true rfl rfl, hmissing, ?_⟩
    intro item hitem
    obtain rfl := Option.some.inj hitem
    refine ⟨ascending_gatherHits _, fun role => ?_, fun role values hvalues => ?_, ?_⟩
    · rw [mem_keys_gatherHits, exists_mem_allSequenceHits]
    · exact ne_nil_of_get?_gatherHits hvalues
    · simp only [get?_gatherHits_getD, length_filter_isRequestType, decide_eq_true_eq]
  · have houtcome : outcome =
        ⟨none, missingRoles (script.sequenceRolesOf (matchedGroups ms)), false⟩ := if_neg h
    rw [houtcome]
    refine ⟨iff_of_false nofun ?_, iff_of_false (mt hnil.1 h) nofun, hmissing, nofun⟩
    simpa only [holds_iff, hpresent] using h

/-- Group names that spread the roles of a call and of its reply over three groups. -/
def replyScript : PatternScript :=
  .ofNames .standard [none, some "UCL_and_URT", some "US_Billing_and_UM", some "URS"]

/-- The call and its reply are both found, and so is a group that the names do not reach. -/
def replyMatches : List Match :=
  [⟨"ok", ⟨6, 7⟩, 3⟩, ⟨"cd", ⟨2, 3⟩, 7⟩, ⟨"abcd", ⟨0, 3⟩, 1⟩, ⟨"cde", ⟨2, 4⟩, 2⟩]

/-- The item of the reply. -/
def replyItem : SequenceItem :=
  ⟨⟨[(.client, [.located [⟨0, 0, 3, false⟩]]), (.request, [.located [⟨0, 0, 3, false⟩]]),
    (.response, [.located [⟨0, 6, 7, false⟩]]), (.service, [.literal "Billing"]),
    (.method, [.located [⟨0, 2, 4, false⟩]])]⟩⟩

/-- The reply tells the type of the call twice. Without the second group it would lack the
service and the method. -/
theorem sequence_schema_decides_reply :
    (extractSequence (MatchTree.build replyMatches) replyMatches (Field.payload "abcde ok")
        replyScript).item.isSome = true ∧
      (extractSequence (MatchTree.build replyMatches) replyMatches (Field.payload "abcde ok")
        replyScript).duplicateRole = true ∧
      (∀ role, role ∈ replyItem.values.keys ↔ Carries replyScript replyMatches role) ∧
      (extractSequence (MatchTree.build (replyMatches.take 3)) (replyMatches.take 3)
        (Field.payload "abcde ok") replyScript).missing = [.service, .method] := by
  obtain ⟨hyields, -, -, hitem⟩ :=
    sequence_schema_decides replyScript replyMatches (Field.payload "abcde ok")
  obtain ⟨-, -, hmissing, -⟩ :=
    sequence_schema_decides replyScript (replyMatches.take 3) (Field.payload "abcde ok")
  have hreply : (extractSequence (MatchTree.build replyMatches) replyMatches
      (Field.payload "abcde ok") replyScript).item = some replyItem := by
    have hscan : Match.scanOrder replyMatches =
        [⟨"abcd", ⟨0, 3⟩, 1⟩, ⟨"cde", ⟨2, 4⟩, 2⟩, ⟨"cd", ⟨2, 3⟩, 7⟩, ⟨"ok", ⟨6, 7⟩, 3⟩] :=
      Match.scanOrder_eq_of_ordered (by decide) (by decide) (by decide)
    rw [extractSequence, if_pos (by decide), allSequenceHits, MatchTree.filterMap_item?_preOrder,
      hscan]
    rfl
  obtain ⟨-, hroles, -, hduplicate⟩ := hitem replyItem hreply
  exact ⟨hyields.2 (by decide), hduplicate.2 (by decide), hroles, hmissing.trans (by decide)⟩

end PatternScan.Extract
