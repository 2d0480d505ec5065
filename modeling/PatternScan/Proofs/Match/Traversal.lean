import Mathlib.Data.List.Nodup
import PatternScan.Proofs.Match.Nesting

/-!
# Walks over the nesting tree

The bottom-up walk lists the nodes below a node before the node itself. Every child has
its parent noted once and a greater number than its parent, so the subtrees of different
children have no node in common and no node is listed twice. A built tree has all its
nodes below the root.

The top-down walk lists a node before the nodes below it. A built tree grows at its right
edge only: once a sibling is placed, nothing is placed below the nodes before it. So the
walk meets the nodes in the order of their numbers, and the matches in scan order, also
where matches cross.
-/

namespace PatternScan.MatchTree

/-- Node `q` is node `p` or one of the nodes below it. -/
def IsBelow (t : MatchTree) (p q : Nat) : Prop :=
  Relation.ReflTransGen (fun above below => below ∈ t.children above) p q

section

variable {t : MatchTree} {p q r : Nat}

theorem IsBelow.le (h : t.IsBelow p q) : p ≤ q := by
  induction h with
  | refl => exact Nat.le_refl p
  | tail _ h ih => exact Nat.le_trans ih (Nat.le_of_lt (mem_children.1 h).1)

/-- Two nodes that have a node below them in common lie one below the other. -/
theorem IsBelow.comparable (hp : t.IsBelow p r) (hq : t.IsBelow q r) :
    t.IsBelow p q ∨ t.IsBelow q p := by
  have hunique : Relator.RightUnique fun below above => below ∈ t.children above := by
    intro child a b ha hb
    have hparent := (mem_children.1 ha).2.2
    rw [(mem_children.1 hb).2.2] at hparent
    exact (Option.some.inj hparent).symm
  rcases Relation.ReflTransGen.total_of_right_unique hunique hp.swap hq.swap with h | h
  · exact Or.inr h.swap
  · exact Or.inl h.swap

/-- No node lies below two different children of one node. -/
theorem not_isBelow_siblings {c d : Nat} (hc : c ∈ t.children p) (hd : d ∈ t.children p)
    (hcd : c < d) (hcq : t.IsBelow c q) : ¬ t.IsBelow d q := by
  intro hdq
  rcases hcq.comparable hdq with h | h
  · -- The way down to `d` comes through its parent `p`, which stands before `c`.
    rcases Relation.ReflTransGen.cases_tail h with heq | ⟨x, hcx, hx⟩
    · omega
    · have hparent := (mem_children.1 hx).2.2
      rw [(mem_children.1 hd).2.2, Option.some.injEq] at hparent
      subst hparent
      have hle := IsBelow.le hcx
      have hlt := (mem_children.1 hc).1
      omega
  · have := h.le
    omega

/-! ## The bottom-up walk -/

theorem postOrderFrom_eq (t : MatchTree) (p : Nat) :
    t.postOrderFrom p = (t.children p).flatMap t.postOrderFrom ++ [p] := by
  rw [postOrderFrom]
  simp

theorem mem_postOrderFrom : q ∈ t.postOrderFrom p ↔ t.IsBelow p q := by
  induction p using postOrderFrom.induct t with
  | case1 p ih =>
      rw [postOrderFrom_eq, List.mem_append, List.mem_flatMap, List.mem_singleton]
      constructor
      · rintro (⟨c, hc, hq⟩ | rfl)
        · exact .head hc ((ih ⟨c, hc⟩).1 hq)
        · exact .refl
      · intro h
        rcases Relation.ReflTransGen.cases_head h with rfl | ⟨c, hc, hq⟩
        · exact Or.inr rfl
        · exact Or.inl ⟨c, hc, (ih ⟨c, hc⟩).2 hq⟩

theorem nodup_postOrderFrom (t : MatchTree) (p : Nat) : (t.postOrderFrom p).Nodup := by
  induction p using postOrderFrom.induct t with
  | case1 p ih =>
      rw [postOrderFrom_eq]
      refine List.Nodup.append ?_ (List.nodup_singleton p) ?_
      · refine List.nodup_flatMap.2 ⟨fun c hc => ih ⟨c, hc⟩, ?_⟩
        refine (pairwise_children t p).imp_of_mem fun hc hd hcd => ?_
        intro q hqc hqd
        exact not_isBelow_siblings hc hd hcd (mem_postOrderFrom.1 hqc) (mem_postOrderFrom.1 hqd)
      · intro q hq hqp
        obtain ⟨c, hc, hqc⟩ := List.mem_flatMap.1 hq
        have hle := (mem_postOrderFrom.1 hqc).le
        have hlt := (mem_children.1 hc).1
        rw [List.mem_singleton] at hqp
        omega

theorem nodup_postOrder (t : MatchTree) : t.postOrder.Nodup := nodup_postOrderFrom t root

/-! ## The top-down walk -/

theorem preOrderFrom_eq (t : MatchTree) (p : Nat) :
    t.preOrderFrom p = p :: (t.children p).flatMap t.preOrderFrom := by
  rw [preOrderFrom]
  simp

theorem mem_preOrderFrom : q ∈ t.preOrderFrom p ↔ t.IsBelow p q := by
  induction p using preOrderFrom.induct t with
  | case1 p ih =>
      rw [preOrderFrom_eq, List.mem_cons, List.mem_flatMap]
      constructor
      · rintro (rfl | ⟨c, hc, hq⟩)
        · exact .refl
        · exact .head hc ((ih ⟨c, hc⟩).1 hq)
      · intro h
        rcases Relation.ReflTransGen.cases_head h with rfl | ⟨c, hc, hq⟩
        · exact Or.inl rfl
        · exact Or.inr ⟨c, hc, (ih ⟨c, hc⟩).2 hq⟩

end

/-! ## Built trees -/

section Built

variable {ms : List Match} {p q : Nat}

/-- All nodes of a built tree lie below its root. -/
theorem isBelow_root (hq : q ≤ ms.length) : (build ms).IsBelow root q := by
  induction q using Nat.strongRecOn with
  | ind q ih =>
      rcases Nat.eq_zero_or_pos q with rfl | hpos
      · exact .refl
      · have hparent := build_parent?_eq_some_iff.2 ⟨hpos, hq, rfl⟩
        have hlt := parent_lt hparent
        exact .tail (ih _ hlt (by omega)) (mem_build_children.2 hparent)

theorem isBelow_root_iff : (build ms).IsBelow root q ↔ q ≤ ms.length := by
  constructor
  · intro h
    rcases Relation.ReflTransGen.cases_tail h with heq | ⟨a, -, hq⟩
    · rw [heq]
      exact Nat.zero_le _
    · exact (build_parent?_eq_some_iff.1 (mem_build_children.1 hq)).2.1
  · exact isBelow_root

/-- The bottom-up walk of a built tree lists its nodes and nothing else. -/
theorem mem_build_postOrder : p ∈ (build ms).postOrder ↔ p ≤ ms.length := by
  rw [postOrder, mem_postOrderFrom, isBelow_root_iff]

/-- The nodes below a child stand before its next siblings. -/
theorem lt_sibling_of_isBelow {c d : Nat} (hc : (build ms).parent? c = some p)
    (hd : (build ms).parent? d = some p) (hcd : c < d) (hq : (build ms).IsBelow c q) : q < d := by
  induction hq with
  | refl => exact hcd
  | @tail b q hb hq hbd =>
      have hparent := mem_build_children.1 hq
      have hcb := IsBelow.le hb
      have hpc := parent_lt hc
      have hpos : 0 < b := by omega
      rcases Nat.lt_trichotomy q d with hlt | heq | hgt
      · exact hlt
      · rw [heq, hd, Option.some.injEq] at hparent
        omega
      · -- Node `d` stands between `b` and its child. It does not enclose the child, so it ends
        -- before it and inside `b`. Then its parent does not stand before `b`.
        obtain ⟨-, m, o, hm, ho, hmo⟩ := encloses_iff.1 (encloses_of_parent hpos hparent)
        obtain ⟨-, hdle, hdlast⟩ := build_parent?_eq_some_iff.1 hd
        obtain ⟨-, -, hqlast⟩ := build_parent?_eq_some_iff.1 hparent
        obtain ⟨n, hn⟩ : ∃ n, (build ms).item? d = some n := by
          obtain ⟨k, rfl⟩ : ∃ k, d = k + 1 := ⟨d - 1, by omega⟩
          have hk : k < (Match.scanOrder ms).length := by
            rw [Match.length_scanOrder]
            exact hdle
          exact ⟨_, List.getElem?_eq_getElem hk⟩
        have hfirst := Match.first_le_of_precedes (precedes_of_lt hbd hm hn)
        have hfirst' := Match.first_le_of_precedes (precedes_of_lt hgt hn ho)
        have hnot : ¬ n.span.contains o.span = true := fun h =>
          Bool.eq_false_iff.1 ((lastEncloser_eq_iff.1 hqlast).2 d hbd)
            (encloses_iff.2 ⟨hgt, n, o, hn, ho, h⟩)
        have hin : m.span.contains n.span = true := by
          rw [Span.contains_iff] at hmo hnot ⊢
          omega
        exact absurd (encloses_iff.2 ⟨hbd, m, n, hm, hn, hin⟩)
          (Bool.eq_false_iff.1 ((lastEncloser_eq_iff.1 hdlast).2 b (by omega)))

theorem pairwise_preOrderFrom (ms : List Match) (p : Nat) :
    ((build ms).preOrderFrom p).Pairwise (· < ·) := by
  induction p using preOrderFrom.induct (build ms) with
  | case1 p ih =>
      rw [preOrderFrom_eq, List.pairwise_cons, List.pairwise_flatMap]
      refine ⟨fun q hq => ?_, fun c hc => ih ⟨c, hc⟩, ?_⟩
      · obtain ⟨c, hc, hqc⟩ := List.mem_flatMap.1 hq
        exact Nat.lt_of_lt_of_le (mem_children.1 hc).1 (mem_preOrderFrom.1 hqc).le
      · refine (pairwise_children _ p).imp_of_mem fun hc hd hcd x hx y hy => ?_
        have hxd := lt_sibling_of_isBelow (mem_build_children.1 hc) (mem_build_children.1 hd) hcd
          (mem_preOrderFrom.1 hx)
        exact Nat.lt_of_lt_of_le hxd (mem_preOrderFrom.1 hy).le

/-- The top-down walk of a built tree meets the nodes in the order of their numbers. -/
theorem build_preOrder (ms : List Match) :
    (build ms).preOrder = List.range (ms.length + 1) := by
  have hwalk : (build ms).preOrder.Pairwise (· < ·) := pairwise_preOrderFrom ms root
  have hperm : (build ms).preOrder.Perm (List.range (ms.length + 1)) := by
    refine (List.perm_ext_iff_of_nodup (hwalk.imp Nat.ne_of_lt) List.nodup_range).2 fun q => ?_
    rw [preOrder, mem_preOrderFrom, isBelow_root_iff, List.mem_range, Nat.lt_succ_iff]
  exact hperm.eq_of_pairwise (fun a b _ _ hab hba => absurd hab (Nat.lt_asymm hba)) hwalk
    List.pairwise_lt_range

/-- A list is what its positions hold. -/
theorem filterMap_getElem?_range {α : Type} (l : List α) :
    (List.range l.length).filterMap (fun k => l[k]?) = l := by
  induction l with
  | nil => rfl
  | cons a l ih => simpa [List.range_succ_eq_map, List.filterMap_map, Function.comp_def] using ih

/-- The top-down walk of a built tree meets the matches in scan order. -/
theorem filterMap_item?_preOrder (ms : List Match) :
    (build ms).preOrder.filterMap (build ms).item? = Match.scanOrder ms := by
  rw [build_preOrder, List.range_succ_eq_map, List.filterMap_cons_none rfl, List.filterMap_map,
    ← Match.length_scanOrder ms]
  exact filterMap_getElem?_range (Match.scanOrder ms)

/-- Below an ancestor the way leads through one of its children. -/
theorem IsAncestor.exists_child (h : (build ms).IsAncestor p q) :
    ∃ c ∈ (build ms).children p, c = q ∨ (build ms).IsAncestor c q := by
  obtain ⟨c, hc, hcq⟩ := Relation.TransGen.head'_iff.1 h
  refine ⟨c, mem_build_children.2 hc, ?_⟩
  rcases Relation.reflTransGen_iff_eq_or_transGen.1 hcq with heq | hcq
  · exact Or.inl heq.symm
  · exact Or.inr hcq

end Built

end PatternScan.MatchTree
