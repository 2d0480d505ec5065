import Mathlib.Data.List.Basic
import Mathlib.Data.List.Permutation
import Mathlib.Data.List.TakeWhile
import Mathlib.Data.Nat.Find
import Mathlib.Logic.Relation
import PatternScan.Match.Tree

/-!
# Nesting of matches

The tree is built with a stack of open matches, and a match that does not contain the
next one is closed for good. Crossing matches make this delicate: a closed match may
still contain matches that come later. Whatever closed it ends later, though, and starts
early enough to contain these matches too. So the innermost open match that contains the
next one is the last of all earlier matches that contain it.
-/

namespace PatternScan

/-- One span lies inside the other, or they have no offset in common. -/
def Span.NestedOrDisjoint (s t : Span) : Prop :=
  s.contains t = true ∨ t.contains s = true ∨ s.meets t = false

instance (s t : Span) : Decidable (s.NestedOrDisjoint t) :=
  inferInstanceAs (Decidable (_ ∨ _))

namespace Match

/-- Every match starts no later than it ends. -/
def WellPlaced (ms : List Match) : Prop := ∀ m ∈ ms, m.span.first ≤ m.span.last

instance (ms : List Match) : Decidable (WellPlaced ms) :=
  inferInstanceAs (Decidable (∀ m ∈ ms, _))

/-- No two of the matches cross. -/
def NonCrossing (ms : List Match) : Prop :=
  ∀ m ∈ ms, ∀ n ∈ ms, m.span.NestedOrDisjoint n.span

instance (ms : List Match) : Decidable (NonCrossing ms) :=
  inferInstanceAs (Decidable (∀ m ∈ ms, ∀ n ∈ ms, _))

theorem mem_scanOrder {ms : List Match} {m : Match} : m ∈ scanOrder ms ↔ m ∈ ms :=
  (scanOrder_perm ms).mem_iff

theorem length_scanOrder (ms : List Match) : (scanOrder ms).length = ms.length :=
  (scanOrder_perm ms).length_eq

/-- A match that precedes another starts no later. -/
theorem first_le_of_precedes {m n : Match} (h : m.precedes n = true) :
    m.span.first ≤ n.span.first := by
  rw [precedes_iff] at h
  omega

/-- Matches of one span and group stand in scan order as they stood in the input. -/
theorem filter_scanOrder (ms : List Match) (span : Span) (group : Nat) :
    (scanOrder ms).filter (fun m => m.span = span ∧ m.group = group) =
      ms.filter (fun m => m.span = span ∧ m.group = group) := by
  have hequal : (ms.filter fun m => m.span = span ∧ m.group = group).Pairwise
      fun m n => m.precedes n = true := by
    apply List.pairwise_of_forall_mem_list
    intro m hm n hn
    simp only [List.mem_filter, decide_eq_true_eq] at hm hn
    rw [precedes_iff, hm.2.1, hn.2.1, hm.2.2, hn.2.2]
    omega
  have hsub : (ms.filter fun m => m.span = span ∧ m.group = group).Sublist (scanOrder ms) :=
    @List.sublist_mergeSort _ precedes ms (fun _ _ _ => precedes_trans) precedes_total _ hequal
      List.filter_sublist
  have hkept := hsub.filter fun m => m.span = span ∧ m.group = group
  rw [List.filter_filter] at hkept
  simp only [Bool.and_self] at hkept
  exact (hkept.eq_of_length (((scanOrder_perm ms).filter _).length_eq.symm)).symm

end Match

namespace MatchTree

/-! ## The naive parent -/

/-- Node `p` stands before node `q` and its match contains the match of `q`. -/
def encloses (t : MatchTree) (p q : Nat) : Bool :=
  p < q && (t.item? p).any fun m => (t.item? q).any fun n => m.span.contains n.span

/-- The last node before `q` whose match contains the match of `q`, or the root where
there is none. -/
def lastEncloser (t : MatchTree) (q : Nat) : Nat :=
  Nat.findGreatest (fun p => t.encloses p q = true) q

theorem encloses_iff {t : MatchTree} {p q : Nat} :
    t.encloses p q = true ↔
      p < q ∧ ∃ m n, t.item? p = some m ∧ t.item? q = some n ∧ m.span.contains n.span = true := by
  simp only [encloses, Bool.and_eq_true, decide_eq_true_eq, Option.any_eq_true]
  constructor
  · rintro ⟨hlt, m, hm, n, hn, hc⟩
    exact ⟨hlt, m, n, hm, hn, hc⟩
  · rintro ⟨hlt, m, n, hm, hn, hc⟩
    exact ⟨hlt, m, hm, n, hn, hc⟩

theorem lastEncloser_eq_iff {t : MatchTree} {p q : Nat} :
    t.lastEncloser q = p ↔
      (p = root ∨ t.encloses p q = true) ∧ ∀ r, p < r → t.encloses r q = false := by
  rw [lastEncloser, Nat.findGreatest_eq_iff]
  constructor
  · rintro ⟨-, hp, hlast⟩
    refine ⟨?_, ?_⟩
    · by_cases h : p = 0
      · exact Or.inl h
      · exact Or.inr (hp h)
    · intro r hr
      by_cases hq : r ≤ q
      · exact Bool.eq_false_iff.2 (hlast hr hq)
      · refine Bool.eq_false_iff.2 fun h => ?_
        have := (encloses_iff.1 h).1
        omega
  · rintro ⟨hp, hlast⟩
    refine ⟨?_, ?_, ?_⟩
    · rcases hp with rfl | h
      · exact Nat.zero_le q
      · exact Nat.le_of_lt (encloses_iff.1 h).1
    · intro hne
      exact hp.resolve_left hne
    · intro r hr _
      rw [hlast r hr]
      exact Bool.false_ne_true

theorem lastEncloser_lt {t : MatchTree} {q : Nat} (h : 0 < q) : t.lastEncloser q < q := by
  rcases (lastEncloser_eq_iff.1 (rfl : t.lastEncloser q = _)).1 with h0 | henc
  · rw [h0]
    exact h
  · exact (encloses_iff.1 henc).1

/-! ## The stack of open matches -/

/-- What holds of the stack once the matches in `done` are placed. Nothing is lost by
closing a match: some later one ends after it. -/
structure OpenStack (done : List Match) (stack : List OpenMatch) : Prop where
  carried : ∀ o ∈ stack, ∃ i m, o.id = i + 1 ∧ done[i]? = some m ∧ o.span = m.span
  descending : stack.Pairwise fun a b => b.id < a.id
  outlasted : ∀ i m, done[i]? = some m →
    (∃ o ∈ stack, o.id = i + 1) ∨
      ∃ j n, i < j ∧ done[j]? = some n ∧ m.span.last < n.span.last

theorem OpenStack.nil : OpenStack [] [] :=
  ⟨by simp, List.Pairwise.nil, by simp⟩

theorem OpenStack.id_le {done : List Match} {stack : List OpenMatch} (h : OpenStack done stack)
    {o : OpenMatch} (ho : o ∈ stack) : o.id ≤ done.length := by
  obtain ⟨i, m, hid, hm, -⟩ := h.carried o ho
  have := (List.getElem?_eq_some_iff.1 hm).1
  omega

/-- A placed match that contains the next one gives an open match that contains it and
stands no earlier. -/
theorem OpenStack.exists_open {done : List Match} {stack : List OpenMatch}
    (h : OpenStack done stack) {next : Match}
    (hnext : ∀ m ∈ done, m.span.first ≤ next.span.first) {i : Nat} {m : Match}
    (hm : done[i]? = some m) (hc : m.span.contains next.span = true) :
    ∃ o ∈ stack, i + 1 ≤ o.id ∧ o.span.contains next.span = true := by
  -- Induction on the number of matches placed after `m`.
  induction hd : done.length - i using Nat.strongRecOn generalizing i m with
  | ind d ih =>
      rcases h.outlasted i m hm with ⟨o, ho, hid⟩ | ⟨j, n, hij, hn, hlast⟩
      · obtain ⟨i', m', hid', hm', hspan⟩ := h.carried o ho
        have hi : i' = i := by omega
        subst hi
        rw [hm, Option.some.injEq] at hm'
        refine ⟨o, ho, by omega, ?_⟩
        rw [hspan, ← hm']
        exact hc
      · have hjlt := (List.getElem?_eq_some_iff.1 hn).1
        have hcn : n.span.contains next.span = true := by
          have hfirst := hnext n (List.mem_of_getElem? hn)
          rw [Span.contains_iff] at hc ⊢
          omega
        obtain ⟨o, ho, hid, hco⟩ := ih (done.length - j) (by omega) hn hcn rfl
        exact ⟨o, ho, by omega, hco⟩

theorem stillOpen_head? (stack : List OpenMatch) (span : Span) :
    (stillOpen stack span).head? = stack.find? fun o => o.span.contains span := by
  simp [stillOpen, List.find?_eq_head?_dropWhile_not]

/-- A match closed by the next one ends before it, unless it starts after it. -/
theorem mem_stillOpen_or {stack : List OpenMatch} {o : OpenMatch} (ho : o ∈ stack)
    (span : Span) : o ∈ stillOpen stack span ∨ o.span.contains span = false := by
  have hparts : (stack.takeWhile fun o => !o.span.contains span) ++ stillOpen stack span =
      stack := List.takeWhile_append_dropWhile
  rw [← hparts, List.mem_append] at ho
  rcases ho with hclosed | hopen
  · have := List.mem_takeWhile_imp hclosed
    exact Or.inr (by simpa using this)
  · exact Or.inl hopen

/-- Placing the next match keeps what holds of the stack. -/
theorem OpenStack.push {done : List Match} {stack : List OpenMatch} (h : OpenStack done stack)
    {next : Match} (hnext : ∀ m ∈ done, m.span.first ≤ next.span.first) :
    OpenStack (done ++ [next])
      (⟨done.length + 1, next.span⟩ :: stillOpen stack next.span) := by
  have hsub : (stillOpen stack next.span).Sublist stack := List.dropWhile_sublist _
  refine ⟨?_, ?_, ?_⟩
  · intro o ho
    rcases List.mem_cons.1 ho with rfl | ho
    · exact ⟨done.length, next, rfl, by simp, rfl⟩
    · obtain ⟨i, m, hid, hm, hspan⟩ := h.carried o (hsub.mem ho)
      refine ⟨i, m, hid, ?_, hspan⟩
      rw [List.getElem?_append_left (List.getElem?_eq_some_iff.1 hm).1, hm]
  · refine List.pairwise_cons.2 ⟨?_, h.descending.sublist hsub⟩
    intro o ho
    have := h.id_le (hsub.mem ho)
    exact Nat.lt_succ_of_le this
  · intro i m hm
    rcases Nat.lt_or_ge i done.length with hi | hi
    · rw [List.getElem?_append_left hi] at hm
      rcases h.outlasted i m hm with ⟨o, ho, hid⟩ | ⟨j, n, hij, hn, hlast⟩
      · rcases mem_stillOpen_or ho next.span with hopen | hclosed
        · exact Or.inl ⟨o, List.mem_cons_of_mem _ hopen, hid⟩
        · obtain ⟨i', m', hid', hm', hspan⟩ := h.carried o ho
          have hii : i' = i := by omega
          subst hii
          rw [hm, Option.some.injEq] at hm'
          subst hm'
          refine Or.inr ⟨done.length, next, hi, by simp, ?_⟩
          have hfirst := hnext m (List.mem_of_getElem? hm)
          rw [hspan] at hclosed
          have hnot := mt Span.contains_iff.2 (Bool.eq_false_iff.1 hclosed)
          omega
      · refine Or.inr ⟨j, n, hij, ?_, hlast⟩
        rw [List.getElem?_append_left (List.getElem?_eq_some_iff.1 hn).1, hn]
    · have hlen := (List.getElem?_eq_some_iff.1 hm).1
      rw [List.length_append, List.length_singleton] at hlen
      exact Or.inl ⟨_, List.mem_cons_self, by simp; omega⟩

/-- The innermost open match that contains the next one is the last placed match that
does. -/
theorem OpenStack.parent_eq {t : MatchTree} {done rest : List Match} {next : Match}
    {stack : List OpenMatch} (h : OpenStack done stack)
    (hitems : t.items = done ++ next :: rest)
    (hnext : ∀ m ∈ done, m.span.first ≤ next.span.first) :
    ((stillOpen stack next.span).head?.map OpenMatch.id).getD root =
      t.lastEncloser (done.length + 1) := by
  have hitem : t.item? (done.length + 1) = some next := by
    simp [item?, hitems]
  have hplaced : ∀ {i : Nat}, i < done.length → t.item? (i + 1) = done[i]? := by
    intro i hi
    rw [item?, hitems, List.getElem?_append_left hi]
  have hopen : ∀ r, t.encloses r (done.length + 1) = true →
      ∃ o ∈ stack, r ≤ o.id ∧ o.span.contains next.span = true := by
    intro r hr
    obtain ⟨hlt, m, n, hm, hn, hc⟩ := encloses_iff.1 hr
    rw [hitem, Option.some.injEq] at hn
    subst hn
    cases r with
    | zero => simp [item?] at hm
    | succ i =>
        rw [hplaced (by omega)] at hm
        exact h.exists_open hnext hm hc
  rw [stillOpen_head?]
  refine (lastEncloser_eq_iff.2 ?_).symm
  cases hfind : stack.find? fun o => o.span.contains next.span with
  | none =>
      refine ⟨Or.inl rfl, fun r _ => Bool.eq_false_iff.2 fun hr => ?_⟩
      obtain ⟨o, ho, -, hc⟩ := hopen r hr
      exact List.find?_eq_none.1 hfind o ho hc
  | some o =>
      obtain ⟨hc, inner, outer, hstack, hinner⟩ := List.find?_eq_some_iff_append.1 hfind
      have ho : o ∈ stack := List.mem_of_find?_eq_some hfind
      obtain ⟨i, m, hid, hm, hspan⟩ := h.carried o ho
      have hi : i < done.length := (List.getElem?_eq_some_iff.1 hm).1
      refine ⟨Or.inr ?_, fun r hr => Bool.eq_false_iff.2 fun henc => ?_⟩
      · refine encloses_iff.2 ⟨?_, m, next, ?_, hitem, hspan ▸ hc⟩
        · change o.id < done.length + 1
          omega
        · change t.item? o.id = some m
          rw [hid, hplaced hi, hm]
      · -- Open matches further in carry greater numbers but do not contain the next one.
        obtain ⟨o', ho', hro', hc'⟩ := hopen r henc
        change o.id < r at hr
        have hdesc := h.descending
        rw [hstack] at ho' hdesc
        rcases List.mem_append.1 ho' with hin | hout
        · simpa [hc'] using hinner o' hin
        · rcases List.mem_cons.1 hout with rfl | hout
          · omega
          · have := List.rel_of_pairwise_cons (List.pairwise_append.1 hdesc).2.1 hout
            omega

/-- The stack yields the naive parents of all matches still to be placed. -/
theorem parentsFrom_eq {t : MatchTree} {done rest : List Match} {stack : List OpenMatch}
    (h : OpenStack done stack) (hitems : t.items = done ++ rest)
    (hsorted : t.items.Pairwise fun m n => m.span.first ≤ n.span.first) :
    parentsFrom stack (done.length + 1) rest =
      (List.range' (done.length + 1) rest.length).map t.lastEncloser := by
  induction rest generalizing done stack with
  | nil => rfl
  | cons next rest ih =>
      have hnext : ∀ m ∈ done, m.span.first ≤ next.span.first := by
        rw [hitems] at hsorted
        exact fun m hm => (List.pairwise_append.1 hsorted).2.2 m hm next List.mem_cons_self
      have htail := ih (h.push hnext) (by rw [hitems, List.append_assoc]; rfl)
      rw [List.length_append, List.length_singleton] at htail
      simp only [parentsFrom, List.length_cons, List.range'_succ, List.map_cons]
      rw [h.parent_eq hitems hnext, htail]

/-! ## The built tree -/

/-- The parents that the builder finds are the naive ones. -/
theorem build_parents (ms : List Match) :
    (build ms).parents = (List.range' 1 ms.length).map (build ms).lastEncloser := by
  have hsorted : (build ms).items.Pairwise fun m n => m.span.first ≤ n.span.first :=
    (Match.pairwise_scanOrder ms).imp Match.first_le_of_precedes
  rw [← Match.length_scanOrder ms]
  exact parentsFrom_eq OpenStack.nil rfl hsorted

section Built

variable {ms : List Match} {p q : Nat} {m n : Match}

theorem build_items (ms : List Match) : (build ms).items = Match.scanOrder ms := rfl

theorem build_matchCount (ms : List Match) : (build ms).matchCount = ms.length :=
  Match.length_scanOrder ms

theorem build_item?_succ (ms : List Match) (k : Nat) :
    (build ms).item? (k + 1) = (Match.scanOrder ms)[k]? := rfl

theorem mem_of_item? (h : (build ms).item? p = some m) : m ∈ ms := by
  cases p with
  | zero => simp [item?] at h
  | succ k => exact Match.mem_scanOrder.1 (List.mem_of_getElem? h)

theorem item?_bounds (h : (build ms).item? p = some m) : 0 < p ∧ p ≤ ms.length := by
  cases p with
  | zero => simp [item?] at h
  | succ k =>
      have := (List.getElem?_eq_some_iff.1 h).1
      rw [build_items, Match.length_scanOrder] at this
      omega

theorem precedes_of_lt (hpq : p < q) (hm : (build ms).item? p = some m)
    (hn : (build ms).item? q = some n) : m.precedes n = true := by
  cases p with
  | zero => simp [item?] at hm
  | succ i =>
      obtain ⟨j, rfl⟩ : ∃ j, q = j + 1 := ⟨q - 1, by omega⟩
      obtain ⟨hi, rfl⟩ := List.getElem?_eq_some_iff.1 hm
      obtain ⟨hj, rfl⟩ := List.getElem?_eq_some_iff.1 hn
      exact List.pairwise_iff_getElem.1 (Match.pairwise_scanOrder ms) i j hi hj (by omega)

theorem build_parent?_eq_some_iff :
    (build ms).parent? q = some p ↔ 0 < q ∧ q ≤ ms.length ∧ (build ms).lastEncloser q = p := by
  cases q with
  | zero => simp [parent?]
  | succ k =>
      rw [parent?, build_parents, List.getElem?_map]
      rcases Nat.lt_or_ge k ms.length with hk | hk
      · rw [List.getElem?_range' hk]
        simp only [Nat.one_mul, Nat.add_comm 1 k, Option.map_some, Option.some.injEq]
        exact ⟨fun h => ⟨k.succ_pos, hk, h⟩, fun h => h.2.2⟩
      · rw [List.getElem?_eq_none (by simpa using hk)]
        simp
        omega

theorem parent_lt (h : (build ms).parent? q = some p) : p < q := by
  obtain ⟨hq, -, rfl⟩ := build_parent?_eq_some_iff.1 h
  exact lastEncloser_lt hq

/-- A node lists exactly the nodes that name it as their parent. -/
theorem mem_build_children : q ∈ (build ms).children p ↔ (build ms).parent? q = some p := by
  rw [mem_children]
  constructor
  · exact fun h => h.2.2
  · intro h
    refine ⟨parent_lt h, ?_, h⟩
    rw [build_matchCount]
    exact (build_parent?_eq_some_iff.1 h).2.1

theorem pairwise_children (t : MatchTree) (p : Nat) : (t.children p).Pairwise (· < ·) :=
  List.Pairwise.filter _ List.pairwise_lt_range'

/-- A node other than the root contains its children. -/
theorem encloses_of_parent (hp : 0 < p) (h : (build ms).parent? q = some p) :
    (build ms).encloses p q = true := by
  obtain ⟨-, -, hlast⟩ := build_parent?_eq_some_iff.1 h
  exact (lastEncloser_eq_iff.1 hlast).1.resolve_left (by simp [root]; omega)

/-- No child encloses a sibling: both ends grow from each child to the next. -/
theorem siblings_increase {c d : Nat} (hc : (build ms).parent? c = some p)
    (hd : (build ms).parent? d = some p) (hcd : c < d) (hm : (build ms).item? c = some m)
    (hn : (build ms).item? d = some n) :
    m.span.first < n.span.first ∧ m.span.last < n.span.last := by
  obtain ⟨-, -, hlast⟩ := build_parent?_eq_some_iff.1 hd
  have hnot := (lastEncloser_eq_iff.1 hlast).2 c (parent_lt hc)
  have hncontains : m.span.contains n.span ≠ true := fun h =>
    Bool.eq_false_iff.1 hnot (encloses_iff.2 ⟨hcd, m, n, hm, hn, h⟩)
  have hprec := Match.precedes_iff.1 (precedes_of_lt hcd hm hn)
  rw [Ne, Span.contains_iff] at hncontains
  omega

/-! ## Ancestors -/

/-- Node `p` lies on the way from node `q` up to the root, `q` itself not counted. -/
def IsAncestor (t : MatchTree) (p q : Nat) : Prop :=
  Relation.TransGen (fun above below => t.parent? below = some above) p q

theorem IsAncestor.lt (h : (build ms).IsAncestor p q) : p < q := by
  induction h with
  | single h => exact parent_lt h
  | tail _ h ih => exact ih.trans (parent_lt h)

theorem encloses_trans {r : Nat} {t : MatchTree} (hpq : t.encloses p q = true)
    (hqr : t.encloses q r = true) : t.encloses p r = true := by
  obtain ⟨hlt, m, n, hm, hn, hmn⟩ := encloses_iff.1 hpq
  obtain ⟨hlt', n', o, hn', ho, hno⟩ := encloses_iff.1 hqr
  rw [hn, Option.some.injEq] at hn'
  subst hn'
  exact encloses_iff.2 ⟨hlt.trans hlt', m, o, hm, ho, Span.contains_trans hmn hno⟩

theorem IsAncestor.encloses (hp : 0 < p) (h : (build ms).IsAncestor p q) :
    (build ms).encloses p q = true := by
  induction h with
  | single h => exact encloses_of_parent hp h
  | tail hpr h ih =>
      have hpos := Nat.lt_trans hp (IsAncestor.lt hpr)
      exact encloses_trans ih (encloses_of_parent hpos h)

/-- Of two matches that do not cross but have an offset in common, the earlier one in
scan order encloses the later one. -/
theorem encloses_of_meets (hcross : Match.NonCrossing ms) (hpq : p < q)
    (hm : (build ms).item? p = some m) (hn : (build ms).item? q = some n)
    (hmeets : m.span.meets n.span = true) : (build ms).encloses p q = true := by
  have hprec := Match.precedes_iff.1 (precedes_of_lt hpq hm hn)
  refine encloses_iff.2 ⟨hpq, m, n, hm, hn, ?_⟩
  rcases hcross m (mem_of_item? hm) n (mem_of_item? hn) with h | h | h
  · exact h
  · rw [Span.contains_iff] at h ⊢
    omega
  · exact absurd hmeets (Bool.eq_false_iff.1 h)

/-- Without crossing matches a node is above each node that it encloses, as long as the match
of this node does not end before it starts. -/
theorem isAncestor_of_encloses_placed (hcross : Match.NonCrossing ms)
    (hn : (build ms).item? q = some n) (hplaced : n.span.first ≤ n.span.last)
    (h : (build ms).encloses p q = true) : (build ms).IsAncestor p q := by
  induction q using Nat.strongRecOn generalizing n with
  | ind q ih =>
      obtain ⟨hlt, m, n', hm, hn', hmn⟩ := encloses_iff.1 h
      rw [hn, Option.some.injEq] at hn'
      subst hn'
      have hparent := build_parent?_eq_some_iff.2 ⟨(item?_bounds hn).1, (item?_bounds hn).2, rfl⟩
      have hle : p ≤ (build ms).lastEncloser q :=
        Nat.le_findGreatest (Nat.le_of_lt hlt) h
      rcases Nat.eq_or_lt_of_le hle with heq | hlt'
      · rw [← heq] at hparent
        exact .single hparent
      · -- The parent and `p` both contain the match of `q`, so they meet and are nested.
        have hpos : 0 < (build ms).lastEncloser q := by omega
        obtain ⟨-, o, n', ho, hn', hon⟩ := encloses_iff.1 (encloses_of_parent hpos hparent)
        rw [hn, Option.some.injEq] at hn'
        subst hn'
        rw [Span.contains_iff] at hmn hon
        have hmeets : m.span.meets o.span = true := by
          rw [Span.meets_iff]
          omega
        have habove := encloses_of_meets hcross hlt' hm ho hmeets
        exact .tail (ih _ (parent_lt hparent) ho (by omega) habove) hparent

/-- Without crossing matches a node is above all nodes that it encloses. -/
theorem isAncestor_of_encloses (hplaced : Match.WellPlaced ms) (hcross : Match.NonCrossing ms)
    (h : (build ms).encloses p q = true) : (build ms).IsAncestor p q := by
  obtain ⟨-, -, n, -, hn, -⟩ := encloses_iff.1 h
  exact isAncestor_of_encloses_placed hcross hn (hplaced n (mem_of_item? hn)) h

end Built

/-- Two matches of one span and a match inside them, given out of order. -/
def nestedSample : List Match :=
  [⟨"c", ⟨2, 2⟩, 3⟩, ⟨"abc", ⟨0, 2⟩, 2⟩, ⟨"de", ⟨3, 4⟩, 4⟩, ⟨"abc", ⟨0, 2⟩, 1⟩]

end MatchTree

end PatternScan
