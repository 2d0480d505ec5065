import Mathlib.Data.Set.Card
import PatternScan.Proofs.Match.StackWalk

/-!
# Order and depth in a built tree

Of two nodes the one with the greater number comes first from the bottom up exactly when it
lies below the other. So every node comes after all that lies below it, and what lies below one
child comes before what lies below the next.

The depth of a node counts the nodes above it. Where no two matches cross these are the root
and the nodes of all earlier matches around the match of the node.
-/

namespace PatternScan.MatchTree

/-- Node `p` is done with before node `q` from the bottom up: it lies below `q`, or it has the
smaller number and does not lie above `q`. -/
def DoneBefore (t : MatchTree) (p q : Nat) : Prop :=
  t.IsAncestor q p ∨ (p < q ∧ ¬ t.IsAncestor p q)

/-- A list of all nodes, the root last, in which each node comes after the nodes below it and
the nodes below one child come before those below the later children of the same node. -/
structure GoesBottomUp (t : MatchTree) (order : List Nat) : Prop where
  perm : order.Perm (List.range (t.matchCount + 1))
  root_last : order.getLast? = some root
  descendants_first : ∀ p q, t.IsAncestor p q → order.idxOf q < order.idxOf p
  siblings_in_turn : ∀ p c d, c ∈ t.children p → d ∈ t.children p → c < d →
    ∀ q r, t.IsBelow c q → t.IsBelow d r → order.idxOf q < order.idxOf r

section Built

variable {ms : List Match} {m : Match} {p q r : Nat}

/-! ## Nodes above and below -/

theorem isBelow_iff : (build ms).IsBelow p q ↔ q = p ∨ (build ms).IsAncestor p q := by
  have hlink : (fun above below => below ∈ (build ms).children above) =
      fun above below => (build ms).parent? below = some above := by
    ext above below
    exact mem_build_children
  rw [IsBelow, hlink]
  exact Relation.reflTransGen_iff_eq_or_transGen

/-- The nodes above a node are its parent and the nodes above the parent. -/
theorem isAncestor_iff :
    (build ms).IsAncestor p q ↔
      ∃ o, (build ms).parent? q = some o ∧ (p = o ∨ (build ms).IsAncestor p o) := by
  constructor
  · intro h
    cases h with
    | single h => exact ⟨p, h, Or.inl rfl⟩
    | @tail o _ hpo h => exact ⟨o, h, Or.inr hpo⟩
  · rintro ⟨o, h, rfl | hpo⟩
    · exact .single h
    · exact .tail hpo h

theorem isAncestor_root (hpos : 0 < q) (hq : q ≤ ms.length) : (build ms).IsAncestor root q := by
  rcases isBelow_iff.1 (isBelow_root hq) with rfl | h
  · exact absurd hpos (Nat.lt_irrefl _)
  · exact h

theorem le_of_isAncestor (h : (build ms).IsAncestor p q) : q ≤ ms.length := by
  obtain ⟨o, hparent, -⟩ := isAncestor_iff.1 h
  exact (build_parent?_eq_some_iff.1 hparent).2.1

theorem le_of_isBelow_child {c : Nat} (hc : c ∈ (build ms).children p)
    (h : (build ms).IsBelow c q) : q ≤ ms.length := by
  rcases isBelow_iff.1 h with rfl | hcq
  · exact (build_parent?_eq_some_iff.1 (mem_build_children.1 hc)).2.1
  · exact le_of_isAncestor hcq

/-! ## The order from the bottom up -/

theorem DoneBefore.asymm (h : (build ms).DoneBefore p q) : ¬ (build ms).DoneBefore q p := by
  rintro (hpq | ⟨hlt, hnot⟩)
  · rcases h with hqp | ⟨-, hnot⟩
    · exact Nat.lt_asymm hpq.lt hqp.lt
    · exact hnot hpq
  · rcases h with hqp | ⟨hlt', -⟩
    · exact hnot hqp
    · exact Nat.lt_asymm hlt hlt'

/-- What lies below one child is done with before what lies below a later one. -/
theorem doneBefore_of_siblings {c d : Nat} (hc : c ∈ (build ms).children p)
    (hd : d ∈ (build ms).children p) (hcd : c < d) (hq : (build ms).IsBelow c q)
    (hr : (build ms).IsBelow d r) : (build ms).DoneBefore q r := by
  have hlt : q < d :=
    lt_sibling_of_isBelow (mem_build_children.1 hc) (mem_build_children.1 hd) hcd hq
  refine Or.inr ⟨Nat.lt_of_lt_of_le hlt hr.le, fun hqr => ?_⟩
  have hcr : (build ms).IsBelow c r := hq.trans (isBelow_iff.2 (Or.inr hqr))
  exact not_isBelow_siblings hc hd hcd hcr hr

theorem pairwise_postOrderFrom (ms : List Match) (p : Nat) :
    ((build ms).postOrderFrom p).Pairwise (build ms).DoneBefore := by
  induction p using postOrderFrom.induct (build ms) with
  | case1 p ih =>
      rw [postOrderFrom_eq, List.pairwise_append, List.pairwise_flatMap]
      refine ⟨⟨fun c hc => ih ⟨c, hc⟩, ?siblings⟩, List.pairwise_singleton _ _, ?parent⟩
      case siblings =>
        apply (pairwise_children _ p).imp_of_mem
        intro c d hc hd hcd q hq r hr
        exact doneBefore_of_siblings hc hd hcd (mem_postOrderFrom.1 hq) (mem_postOrderFrom.1 hr)
      case parent =>
        intro q hq r hr
        obtain ⟨c, hc, hqc⟩ := List.mem_flatMap.1 hq
        have hpc : (build ms).IsAncestor p c := .single (mem_build_children.1 hc)
        rw [List.mem_singleton.1 hr]
        rcases isBelow_iff.1 (mem_postOrderFrom.1 hqc) with rfl | hcq
        · exact Or.inl hpc
        · exact Or.inl (hpc.trans hcq)

/-- Two nodes stand in the bottom-up walk in the order in which they are done with. -/
theorem idxOf_postOrder_lt (hp : p ≤ ms.length) (hq : q ≤ ms.length)
    (h : (build ms).DoneBefore p q) :
    (build ms).postOrder.idxOf p < (build ms).postOrder.idxOf q := by
  have hip := List.idxOf_lt_length_of_mem (mem_build_postOrder.2 hp)
  have hiq := List.idxOf_lt_length_of_mem (mem_build_postOrder.2 hq)
  rcases Nat.lt_trichotomy ((build ms).postOrder.idxOf p) ((build ms).postOrder.idxOf q) with
    hlt | heq | hgt
  · exact hlt
  · have hpq : p = q := (List.idxOf_inj (mem_build_postOrder.2 hp)).1 heq
    subst hpq
    exact absurd h h.asymm
  · have hback := List.pairwise_iff_getElem.1 (pairwise_postOrderFrom ms root) _ _ hiq hip hgt
    change (build ms).DoneBefore (build ms).postOrder[_] (build ms).postOrder[_] at hback
    rw [List.getElem_idxOf, List.getElem_idxOf] at hback
    exact absurd hback h.asymm

theorem goesBottomUp_postOrder (ms : List Match) :
    (build ms).GoesBottomUp (build ms).postOrder where
  perm := by
    rw [build_matchCount]
    exact build_postOrder_perm ms
  root_last := by
    rw [postOrder, postOrderFrom_eq]
    exact List.getLast?_concat
  descendants_first := by
    intro p q h
    have hq := le_of_isAncestor h
    exact idxOf_postOrder_lt hq (Nat.le_trans (Nat.le_of_lt h.lt) hq) (Or.inl h)
  siblings_in_turn := by
    intro p c d hc hd hcd q r hq hr
    apply idxOf_postOrder_lt (le_of_isBelow_child hc hq) (le_of_isBelow_child hd hr)
    exact doneBefore_of_siblings hc hd hcd hq hr

/-! ## Depth -/

/-- The depth of a node is the number of nodes above it. -/
theorem encard_ancestors (ms : List Match) (q : Nat) :
    {p | (build ms).IsAncestor p q}.encard = (build ms).depth q := by
  induction q using Nat.strongRecOn with
  | ind q ih =>
      cases hparent : (build ms).parent? q with
      | none =>
          have hempty : {p | (build ms).IsAncestor p q} = ∅ := by
            ext p
            rw [Set.mem_ofPred_eq, isAncestor_iff]
            simp [hparent]
          rw [hempty, depth_of_no_parent hparent, Set.encard_empty]
          rfl
      | some o =>
          have hinsert : {p | (build ms).IsAncestor p q} =
              insert o {p | (build ms).IsAncestor p o} := by
            ext p
            rw [Set.mem_ofPred_eq, isAncestor_iff]
            simp [hparent]
          have hnew : o ∉ {p | (build ms).IsAncestor p o} := fun h => Nat.lt_irrefl o h.lt
          rw [hinsert, Set.encard_insert_of_notMem hnew, ih o (parent_lt hparent),
            depth_of_parent hparent, Nat.cast_succ]

/-- A count over the first elements of a list goes by their positions. -/
theorem countP_take_eq_card {α : Type} (f : α → Bool) (l : List α) (k : Nat) :
    (l.take k).countP f = ((Finset.range k).filter fun i => l[i]?.any f = true).card := by
  induction k with
  | zero => rfl
  | succ k ih =>
      rw [List.take_add_one, List.countP_append, ih, Finset.range_add_one, Finset.filter_insert]
      cases l[k]? with
      | none => simp
      | some a =>
          cases h : f a with
          | true => simp [h]
          | false => simp [h]

/-- Where no two matches cross, the nodes above a node are the root and the nodes of all earlier
matches that contain its match. -/
theorem ancestors_eq (hcross : Match.NonCrossing ms) {k : Nat}
    (hm : (Match.scanOrder ms)[k]? = some m) (hplaced : m.span.first ≤ m.span.last) :
    {p | (build ms).IsAncestor p (k + 1)} =
      insert root (((Finset.range k).filter fun i =>
        (Match.scanOrder ms)[i]?.any (fun n => n.span.contains m.span) = true).image
          (· + 1) : Finset Nat) := by
  have hk : k + 1 ≤ ms.length := by
    rw [← Match.length_scanOrder ms]
    exact (List.getElem?_eq_some_iff.1 hm).1
  ext p
  cases p with
  | zero => simpa [root] using isAncestor_root (Nat.succ_pos k) hk
  | succ i =>
      have habove : (build ms).IsAncestor (i + 1) (k + 1) ↔
          (build ms).encloses (i + 1) (k + 1) = true :=
        ⟨IsAncestor.encloses (Nat.succ_pos i), isAncestor_of_encloses_placed hcross hm hplaced⟩
      simp [habove, root, encloses, build_item?_succ, hm]

/-- Where no two matches cross, the depth of a node counts the root and all earlier matches that
contain its match. A span whose ends are reversed covers no offset, so two matches that lie
apart may both contain it; the match of the node must not be such a one. -/
theorem depth_eq_countP (hcross : Match.NonCrossing ms) {k : Nat}
    (hm : (Match.scanOrder ms)[k]? = some m) (hplaced : m.span.first ≤ m.span.last) :
    (build ms).depth (k + 1) =
      1 + ((Match.scanOrder ms).take k).countP fun n => n.span.contains m.span := by
  have hcount := encard_ancestors ms (k + 1)
  have hroot : root ∉ ((Finset.range k).filter fun i =>
      (Match.scanOrder ms)[i]?.any (fun n => n.span.contains m.span) = true).image (· + 1) := by
    simp [root]
  rw [ancestors_eq hcross hm hplaced, Set.encard_coe_eq_coe_finsetCard,
    Finset.card_insert_of_notMem hroot, Finset.card_image_of_injective _ Nat.succ_injective,
    ← countP_take_eq_card] at hcount
  have hdepth : (build ms).depth (k + 1) =
      ((Match.scanOrder ms).take k).countP (fun n => n.span.contains m.span) + 1 := by
    exact_mod_cast hcount.symm
  rw [hdepth, Nat.add_comm]

theorem depth_root (ms : List Match) : (build ms).depth root = 0 := depth_of_no_parent rfl

end Built

/-- Every loop over the table of a built tree comes to its end. The walk from the top down
meets the nodes in the order of their numbers; the walk from the bottom up is the recursive one
and goes child by child; and the way up from a node passes the nodes above it, which without
crossing matches are the root and the nodes of all earlier matches around its match. -/
theorem table_loops_end (ms : List Match) :
    table ms = (build ms).nodes ∧
    (rounds (descend (table ms)) (ms.length + 1) topDown = some ⟨[], (build ms).preOrder⟩ ∧
      (build ms).preOrder = List.range (ms.length + 1)) ∧
    (rounds (ascend (table ms)) (2 * (ms.length + 1)) bottomUp =
        some ⟨[], (build ms).postOrder⟩ ∧
      (build ms).postOrder = (build ms).postOrderFrom root ∧
      (∀ p, (build ms).postOrderFrom p =
        ((build ms).children p).flatMap (build ms).postOrderFrom ++ [p]) ∧
      (build ms).GoesBottomUp (build ms).postOrder) ∧
    (∀ q, rounds (climb (table ms)) ((build ms).depth q) (upFrom (table ms) q) =
        some ⟨none, (build ms).depth q⟩ ∧
      {p | (build ms).IsAncestor p q}.encard = (build ms).depth q) ∧
    ((build ms).depth root = 0 ∧
      (Match.NonCrossing ms → ∀ k m, (Match.scanOrder ms)[k]? = some m →
        m.span.first ≤ m.span.last →
        (build ms).depth (k + 1) =
          1 + ((Match.scanOrder ms).take k).countP fun n => n.span.contains m.span)) := by
  refine ⟨table_eq_nodes ms, ⟨topDown_ends ms, build_preOrder ms⟩, ?_, ?_, depth_root ms, ?_⟩
  · exact ⟨bottomUp_ends ms, rfl, postOrderFrom_eq _, goesBottomUp_postOrder ms⟩
  · intro q
    exact ⟨upFrom_ends ms q, encard_ancestors ms q⟩
  · intro hcross k m hm hplaced
    exact depth_eq_countP hcross hm hplaced

theorem table_loops_end_nestedSample :
    Match.NonCrossing nestedSample ∧
      (Match.scanOrder nestedSample)[2]? = some ⟨"c", ⟨2, 2⟩, 3⟩ ∧
      (build nestedSample).depth 3 = 3 := by
  have hcross : Match.NonCrossing nestedSample := by decide
  have hmatch : (Match.scanOrder nestedSample)[2]? = some ⟨"c", ⟨2, 2⟩, 3⟩ := by decide_cbv
  have hdepth := (table_loops_end nestedSample).2.2.2.2.2 hcross 2 _ hmatch (by decide)
  refine ⟨hcross, hmatch, hdepth.trans ?_⟩
  decide_cbv

end PatternScan.MatchTree
