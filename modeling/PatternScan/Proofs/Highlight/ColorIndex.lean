import PatternScan.Highlight.ColorIndex
import PatternScan.Palette
import PatternScan.Proofs.Match.Arrival

/-!
# Indices handed out in rotation

Along a sort by first offset, length and group, each match that is not empty uses up one index of
the palette. A group keeps the index of its least match, so it is told by a count: the matches
that are less than this one. The count reads off the matches their order and nothing else, so
neither the order of arrival, nor empty matches, nor the way in which spans nest have any
influence.
-/

namespace PatternScan

namespace ColorIndex

variable {ms ns : List Match} {group count : Nat}

/-! ## The order of claims -/

/-- The key by which matches take their indices: first offset, length, group. -/
def claimKey (m : Match) : Nat ×ₗ Nat ×ₗ Nat :=
  toLex (m.span.first, toLex (m.span.last - m.span.first, m.group))

theorem comesFirst_iff_claimKey_le (m n : Match) :
    comesFirst m n = true ↔ claimKey m ≤ claimKey n := by
  simp [comesFirst, claimKey, Prod.Lex.toLex_le_toLex]

theorem group_eq_of_claimKey_eq {m n : Match} (h : claimKey m = claimKey n) :
    m.group = n.group := congrArg (fun key => (ofLex (ofLex key).2).2) h

theorem mem_claimants {m : Match} : m ∈ claimants ms ↔ m ∈ ms ∧ m.text ≠ "" := by
  rw [claimants, List.mem_mergeSort, List.mem_filter]
  simp

theorem pairwise_claimants (ms : List Match) :
    (claimants ms).Pairwise fun m n => claimKey m ≤ claimKey n := by
  refine (List.pairwise_mergeSort (fun m n o hmn hno => ?_) (fun m n => ?_) _).imp
    (comesFirst_iff_claimKey_le _ _).1
  · rw [comesFirst_iff_claimKey_le] at *
    exact hmn.trans hno
  · rw [Bool.or_eq_true, comesFirst_iff_claimKey_le, comesFirst_iff_claimKey_le]
    exact le_total _ _

/-- Two arrangements of the same matches, empty ones left aside, claim by the same groups in
turn. -/
theorem map_group_claimants
    (h : (ms.filter fun m => !m.text.isEmpty).Perm (ns.filter fun m => !m.text.isEmpty)) :
    (claimants ms).map Match.group = (claimants ns).map Match.group :=
  Match.map_mergeSort_eq_of_perm comesFirst_iff_claimKey_le
    (fun _ _ _ _ => group_eq_of_claimKey_eq) h

/-- A change of the matches that keeps their groups, which of them are empty, and the order in
which the others claim. The ends of two matches may change so that one comes to lie within the
other, or no longer does. -/
structure KeepsClaims (ms : List Match) (move : Match → Match) : Prop where
  group : ∀ m ∈ ms, (move m).group = m.group
  text : ∀ m ∈ ms, (move m).text = "" ↔ m.text = ""
  order : ∀ m ∈ ms, ∀ n ∈ ms, m.text ≠ "" → n.text ≠ "" →
    (claimKey (move m) ≤ claimKey (move n) ↔ claimKey m ≤ claimKey n)

theorem KeepsClaims.claimants_map {move : Match → Match} (h : KeepsClaims ms move) :
    claimants (ms.map move) = (claimants ms).map move := by
  have hkept : ms.filter ((fun m => !m.text.isEmpty) ∘ move) =
      ms.filter fun m => !m.text.isEmpty := by
    refine List.filter_congr fun m hm => ?_
    rw [Function.comp_apply, Bool.eq_iff_iff]
    simpa using not_congr (h.text m hm)
  rw [claimants, claimants, List.filter_map, hkept, List.map_mergeSort]
  intro m hm n hn
  simp only [List.mem_filter, Bool.not_eq_true', String.isEmpty_eq_false_iff] at hm hn
  rw [Bool.eq_iff_iff, comesFirst_iff_claimKey_le, comesFirst_iff_claimKey_le]
  exact (h.order m hm.1 n hn.1 hm.2 hn.2).symm

/-! ## The indices handed out -/

/-- Indices are handed out by group. -/
theorem assign_congr (h : ms.map Match.group = ns.map Match.group) (count next : Nat)
    (taken : List Nat) : assign count next taken ms = assign count next taken ns := by
  induction ms generalizing ns next taken with
  | nil =>
      rw [List.map_nil, eq_comm, List.map_eq_nil_iff] at h
      rw [h]
  | cons m ms ih =>
      rw [List.map_cons, eq_comm, List.map_eq_cons_iff] at h
      obtain ⟨n, ns, rfl, hgroup, hrest⟩ := h
      simp only [assign, hgroup, ih hrest.symm]

theorem build_congr (h : (claimants ms).map Match.group = (claimants ns).map Match.group)
    (count : Nat) : build ms count = build ns count := by
  rw [build, build, assign_congr h]

theorem build_eq_of_perm (h : ms.Perm ns) (count : Nat) : build ms count = build ns count :=
  build_congr (map_group_claimants (h.filter _)) count

theorem KeepsClaims.build_map {move : Match → Match} (h : KeepsClaims ms move) (count : Nat) :
    build (ms.map move) count = build ms count := by
  apply build_congr
  rw [h.claimants_map, List.map_map]
  refine List.map_congr_left fun m hm => ?_
  exact h.group m (mem_claimants.1 hm).1

/-- A group gets the index that is up when its first match has its turn. -/
theorem lookup_assign (count next : Nat) (taken : List Nat) (ms : List Match) (group : Nat) :
    (assign count next taken ms).lookup group =
      if group ∈ taken then none
      else (ms.findIdx? fun m => m.group = group).map fun i => (next + i) % count := by
  induction ms generalizing next taken with
  | nil => simp [assign]
  | cons m ms ih =>
      rw [assign, List.findIdx?_cons]
      by_cases htaken : m.group ∈ taken
      · -- A turn that goes to waste moves the others on.
        rw [if_pos (List.contains_iff_mem.2 htaken), ih]
        by_cases hgroup : group ∈ taken
        · rw [if_pos hgroup, if_pos hgroup]
        · have hne : m.group ≠ group := fun h => hgroup (h ▸ htaken)
          simp only [hgroup, hne, if_false, decide_false, Bool.false_eq_true, Option.map_map]
          refine congrArg (fun f => (ms.findIdx? _).map f) (funext fun i => ?_)
          rw [Function.comp_apply, Nat.add_right_comm, Nat.add_assoc]
      · rw [if_neg (mt List.contains_iff_mem.1 htaken), List.lookup_cons]
        by_cases hgroup : m.group = group
        · subst hgroup
          simp [htaken]
        · have hne : (group == m.group) = false := beq_false_of_ne (Ne.symm hgroup)
          rw [hne, ih]
          simp only [List.mem_cons, Ne.symm hgroup, false_or, hgroup, decide_false,
            Bool.false_eq_true, if_false, Option.map_map]
          split
          · rfl
          · refine congrArg (fun f => (ms.findIdx? _).map f) (funext fun i => ?_)
            rw [Function.comp_apply, Nat.add_right_comm, Nat.add_assoc]

theorem mem_assign {count next : Nat} {taken : List Nat} {e : Nat × Nat}
    (h : e ∈ assign count next taken ms) : e.1 ∉ taken ∧ ∃ i, e.2 = i % count := by
  induction ms generalizing next taken with
  | nil => cases h
  | cons m ms ih =>
      rw [assign] at h
      split at h
      · exact ih h
      · next hfree =>
          rcases List.mem_cons.1 h with rfl | hrest
          · exact ⟨mt List.contains_iff_mem.2 hfree, next, rfl⟩
          · obtain ⟨hout, hindex⟩ := ih hrest
            exact ⟨fun hin => hout (List.mem_cons_of_mem _ hin), hindex⟩

/-- A group gets one index. -/
theorem nodup_assign (count next : Nat) (taken : List Nat) (ms : List Match) :
    ((assign count next taken ms).map Prod.fst).Nodup := by
  induction ms generalizing next taken with
  | nil => exact List.nodup_nil
  | cons m ms ih =>
      rw [assign]
      split
      · exact ih _ _
      · rw [List.map_cons, List.nodup_cons]
        refine ⟨fun hmem => ?_, ih _ _⟩
        obtain ⟨e, he, hgroup⟩ := List.mem_map.1 hmem
        exact (mem_assign he).1 (hgroup ▸ List.mem_cons_self)

/-! ## The index as a count -/

/-- The match is not empty, and it is the least such match of its group. -/
structure ClaimsFirst (ms : List Match) (m : Match) : Prop where
  mem : m ∈ ms
  text : m.text ≠ ""
  least : ∀ n ∈ ms, n.group = m.group → n.text ≠ "" → claimKey m ≤ claimKey n

/-- How many matches that are not empty are less than the match. -/
def claimsBefore (ms : List Match) (m : Match) : Nat :=
  ms.countP fun n => n.text ≠ "" ∧ claimKey n < claimKey m

theorem claimsBefore_eq_countP (ms : List Match) (m : Match) :
    claimsBefore ms m = (claimants ms).countP fun n => claimKey n < claimKey m := by
  rw [claimsBefore, claimants, (List.mergeSort_perm _ _).countP_eq, List.countP_filter]
  refine List.countP_congr fun n _ => ?_
  simp [and_comm]

/-- In a sorted list as many elements are less than the first of a group as stand before it, and
this one is the least of its group. -/
theorem countP_eq_of_findIdx? {l : List Match}
    (hsorted : l.Pairwise fun m n => claimKey m ≤ claimKey n) {i : Nat}
    (hfirst : l.findIdx? (fun m => m.group = group) = some i) :
    ∃ m ∈ l, m.group = group ∧ (∀ n ∈ l, n.group = group → claimKey m ≤ claimKey n) ∧
      l.countP (fun n => claimKey n < claimKey m) = i := by
  obtain ⟨hlt, hgroup, hbefore⟩ := List.findIdx?_eq_some_iff_getElem.1 hfirst
  simp only [decide_eq_true_eq] at hgroup hbefore
  have hcut : l = l.take i ++ l[i] :: l.drop (i + 1) := by
    rw [← List.drop_eq_getElem_cons hlt, List.take_append_drop]
  have hothers : ∀ n ∈ l.take i, n.group ≠ group := by
    intro n hn
    obtain ⟨j, hj, rfl⟩ := List.mem_take_iff_getElem.1 hn
    exact hbefore j (by omega)
  rw [hcut, List.pairwise_append, List.pairwise_cons] at hsorted
  obtain ⟨-, ⟨hlater, -⟩, hearlier⟩ := hsorted
  have hle : ∀ n ∈ l[i] :: l.drop (i + 1), claimKey l[i] ≤ claimKey n := by
    intro n hn
    rcases List.mem_cons.1 hn with rfl | hn
    · exact le_rfl
    · exact hlater n hn
  -- What stands before is not of the group, and equal keys would tell the same group.
  have hless : ∀ n ∈ l.take i, claimKey n < claimKey l[i] := by
    intro n hn
    refine lt_of_le_of_ne (hearlier n hn _ List.mem_cons_self) fun heq => hothers n hn ?_
    rw [group_eq_of_claimKey_eq heq, hgroup]
  refine ⟨l[i], List.getElem_mem hlt, hgroup, ?_, ?_⟩
  · intro n hn hngroup
    rw [hcut, List.mem_append] at hn
    exact hle n (hn.resolve_left fun hn => hothers n hn hngroup)
  · have htake : (l.take i).countP (fun n => claimKey n < claimKey l[i]) = i := by
      rw [List.countP_eq_length.2 fun n hn => decide_eq_true (hless n hn), List.length_take,
        min_eq_left hlt.le]
    have hdrop : (l[i] :: l.drop (i + 1)).countP (fun n => claimKey n < claimKey l[i]) = 0 :=
      List.countP_eq_zero.2 fun n hn h => (of_decide_eq_true h).not_ge (hle n hn)
    calc
      l.countP (fun n => claimKey n < claimKey l[i])
          = (l.take i).countP (fun n => claimKey n < claimKey l[i]) +
              (l[i] :: l.drop (i + 1)).countP (fun n => claimKey n < claimKey l[i]) := by
        rw [← List.countP_append, ← hcut]
      _ = i := by rw [htake, hdrop, Nat.add_zero]

theorem get?_build (hcount : 0 < count) (ms : List Match) (group : Nat) :
    (build ms count).get? group =
      ((claimants ms).findIdx? fun m => m.group = group).map (· % count) := by
  rw [build, if_neg hcount.ne', get?, lookup_assign, if_neg List.not_mem_nil]
  simp only [Nat.zero_add]

theorem isSome_get?_build (hcount : 0 < count) :
    ((build ms count).get? group).isSome ↔ ∃ m ∈ ms, m.group = group ∧ m.text ≠ "" := by
  rw [get?_build hcount, Option.isSome_map, List.findIdx?_isSome, List.any_eq_true]
  simp only [mem_claimants, decide_eq_true_eq, and_assoc, and_comm]

/-- The index of a group is the number of claims before its least match, wrapped. -/
theorem get?_build_of_claimsFirst (hcount : 0 < count) {m : Match} (hm : ClaimsFirst ms m) :
    (build ms count).get? m.group = some (claimsBefore ms m % count) := by
  have hsome := (isSome_get?_build hcount).2 ⟨m, hm.mem, rfl, hm.text⟩
  rw [get?_build hcount, Option.isSome_map] at hsome
  obtain ⟨i, hi⟩ := Option.isSome_iff_exists.1 hsome
  obtain ⟨n, hn, hgroup, hleast, hbefore⟩ := countP_eq_of_findIdx? (pairwise_claimants ms) hi
  have hkey : claimKey m = claimKey n := by
    obtain ⟨hmem, htext⟩ := mem_claimants.1 hn
    apply le_antisymm
    · exact hm.least n hmem hgroup htext
    · exact hleast m (mem_claimants.2 ⟨hm.mem, hm.text⟩) rfl
  rw [get?_build hcount, hi, claimsBefore_eq_countP, hkey, hbefore, Option.map_some]

theorem exists_claimsFirst {m : Match} (hm : m ∈ ms) (htext : m.text ≠ "") :
    ∃ n, ClaimsFirst ms n ∧ n.group = m.group := by
  have hsome : ((build ms 1).get? m.group).isSome :=
    (isSome_get?_build Nat.one_pos).2 ⟨m, hm, rfl, htext⟩
  rw [get?_build Nat.one_pos, Option.isSome_map] at hsome
  obtain ⟨i, hi⟩ := Option.isSome_iff_exists.1 hsome
  obtain ⟨n, hn, hgroup, hleast, -⟩ := countP_eq_of_findIdx? (pairwise_claimants ms) hi
  obtain ⟨hmem, hntext⟩ := mem_claimants.1 hn
  refine ⟨n, ⟨hmem, hntext, ?_⟩, hgroup⟩
  intro o ho hogroup hotext
  exact hleast o (mem_claimants.2 ⟨ho, hotext⟩) (hogroup.trans hgroup)

theorem lt_of_get?_build {i : Nat} (h : (build ms count).get? group = some i) : i < count := by
  rcases Nat.eq_zero_or_pos count with rfl | hcount
  · cases h
  · rw [get?_build hcount, Option.map_eq_some_iff] at h
    obtain ⟨j, -, rfl⟩ := h
    exact Nat.mod_lt j hcount

/-! ## The table -/

/-- A group has an entry when one of its matches is not empty, and its index is the number of
claims that come strictly before its least match, wrapped at the length of the palette. So the
palette has a colour at every index, and without colours there is no entry. Empty matches, the
order of the matches and their nesting have no influence. -/
theorem color_index_rotates (ms : List Match) :
    (∀ count, 0 < count →
      (∀ group, ((build ms count).get? group).isSome ↔
        ∃ m ∈ ms, m.group = group ∧ m.text ≠ "") ∧
      (∀ m ∈ ms, m.text ≠ "" → ∃ n, ClaimsFirst ms n ∧ n.group = m.group) ∧
      ∀ m, ClaimsFirst ms m →
        (build ms count).get? m.group = some (claimsBefore ms m % count)) ∧
    (∀ count, ((build ms count).entries.map Prod.fst).Nodup) ∧
    (∀ palette : Palette, ∀ group i, (build ms palette.size).get? group = some i →
      i < palette.size ∧ (palette.get? i).isSome) ∧
    (build ms 0).entries = [] ∧
    (∀ ns : List Match,
      (ms.filter fun m => !m.text.isEmpty).Perm (ns.filter fun m => !m.text.isEmpty) →
        ∀ count, build ns count = build ms count) ∧
    ∀ move : Match → Match, KeepsClaims ms move →
      ∀ count, build (ms.map move) count = build ms count := by
  refine ⟨?_, ?_, ?_, rfl, ?_, ?_⟩
  · intro count hcount
    refine ⟨fun group => isSome_get?_build hcount, ?_, fun m => get?_build_of_claimsFirst hcount⟩
    intro m hm htext
    exact exists_claimsFirst hm htext
  · intro count
    rw [build]
    split
    · exact List.nodup_nil
    · exact nodup_assign count 0 [] _
  · intro palette group i hi
    have hlt := lt_of_get?_build hi
    refine ⟨hlt, ?_⟩
    rw [Palette.get?, List.getElem?_eq_getElem hlt, Option.isSome_some]
  · intro ns hperm count
    exact (build_congr (map_group_claimants hperm) count).symm
  · intro move hmove count
    exact hmove.build_map count

/-- A match with three matches below it, one of them of the same group, and an empty match. -/
def nestedClaims : List Match :=
  [⟨"abcd", ⟨0, 3⟩, 1⟩, ⟨"d", ⟨3, 3⟩, 3⟩, ⟨"", ⟨3, 2⟩, 4⟩, ⟨"b", ⟨1, 1⟩, 2⟩, ⟨"c", ⟨2, 2⟩, 1⟩]

/-- The second match of the first group uses up the index that the last group would have got. Cut
off behind its first character, the outer match no longer holds the others, and nothing
changes. -/
theorem color_index_rotates_nested :
    (build nestedClaims 2).get? 1 = some 0 ∧ (build nestedClaims 2).get? 2 = some 1 ∧
      (build nestedClaims 2).get? 3 = some 1 ∧ ¬ ((build nestedClaims 2).get? 4).isSome ∧
      build (nestedClaims.map fun m => ⟨m.text, ⟨m.span.first, m.span.first⟩, m.group⟩) 2 =
        build nestedClaims.reverse 2 := by
  obtain ⟨htable, -, -, -, hperm, hmove⟩ := color_index_rotates nestedClaims
  obtain ⟨hentry, -, hindex⟩ := htable 2 (by decide)
  refine ⟨?_, ?_, ?_, ?_, ?_⟩
  · exact hindex ⟨"abcd", ⟨0, 3⟩, 1⟩ ⟨by decide, by decide, by decide⟩
  · exact hindex ⟨"b", ⟨1, 1⟩, 2⟩ ⟨by decide, by decide, by decide⟩
  · exact hindex ⟨"d", ⟨3, 3⟩, 3⟩ ⟨by decide, by decide, by decide⟩
  · rw [hentry]
    decide
  · rw [hmove _ ⟨by decide, by decide, by decide⟩, hperm nestedClaims.reverse]
    exact ((List.reverse_perm _).symm).filter _

end ColorIndex

end PatternScan
