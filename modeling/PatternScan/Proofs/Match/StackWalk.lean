import PatternScan.Proofs.Match.NodeTable

/-!
# Loops over the table of a built tree

A walk with a stack does away with the entries on top before it comes to those below, whatever
these are. So what it does with one entry can be told apart from all others, and what it does
with several entries is one after the other. From the top down each node costs one round, from
the bottom up it costs two, and on the way up each node above costs one. Every loop over the
table of a built tree therefore comes to its end after a number of rounds that is known
beforehand, and gives what the recursion over the tree gives.
-/

namespace PatternScan.MatchTree

section

variable {α : Type} {round : Walk α → Option (Walk α)} {j k : Nat} {front front' : List α}
  {found found' : List Nat}

/-- After `k` rounds the entries `front` on top of the stack are gone and the nodes `found` are
listed, whatever waits below and is listed before. -/
def Clears (round : Walk α → Option (Walk α)) (k : Nat) (front : List α) (found : List Nat) :
    Prop :=
  ∀ waiting listed, rounds round k ⟨front ++ waiting, listed⟩ = some ⟨waiting, listed ++ found⟩

theorem Clears.nil : Clears round 0 [] [] := by
  intro waiting listed
  simp [rounds]

theorem Clears.append (h : Clears round j front found) (h' : Clears round k front' found') :
    Clears round (j + k) (front ++ front') (found ++ found') := by
  intro waiting listed
  calc rounds round (j + k) ⟨front ++ front' ++ waiting, listed⟩
    _ = (rounds round j ⟨front ++ (front' ++ waiting), listed⟩).bind (rounds round k) := by
      rw [rounds_add, List.append_assoc]
    _ = rounds round k ⟨front' ++ waiting, listed ++ found⟩ := by rw [h, Option.bind_some]
    _ = some ⟨waiting, listed ++ (found ++ found')⟩ := by rw [h', List.append_assoc]

/-- One round puts other entries in the place of those on top. -/
theorem Clears.of_round (h : Clears round k front' found')
    (hround : ∀ waiting listed,
      round ⟨front ++ waiting, listed⟩ = some ⟨front' ++ waiting, listed ++ found⟩) :
    Clears round (k + 1) front (found ++ found') := by
  intro waiting listed
  rw [rounds, hround, Option.bind_some, h, List.append_assoc]

/-- Where each node alone costs `cost` rounds for every node listed, so do several nodes. -/
theorem Clears.flatMap {entry : Nat → α} {walk : Nat → List Nat} {cost : Nat} {ids : List Nat}
    (h : ∀ id ∈ ids, Clears round (cost * (walk id).length) [entry id] (walk id)) :
    Clears round (cost * (ids.flatMap walk).length) (ids.map entry) (ids.flatMap walk) := by
  induction ids with
  | nil => exact Clears.nil
  | cons id ids ih =>
      have hfirst := h id List.mem_cons_self
      have hrest := ih fun id hid => h id (List.mem_cons_of_mem _ hid)
      rw [List.flatMap_cons, List.length_append, Nat.mul_add]
      exact hfirst.append hrest

end

/-! ## The two walks -/

section

variable {t : MatchTree} {p : Nat}

/-- From the top down each node is listed in the round in which it comes up. -/
theorem clears_descend (hp : p ≤ t.matchCount) :
    Clears (descend t.nodes) (1 * (t.preOrderFrom p).length) [p] (t.preOrderFrom p) := by
  induction p using preOrderFrom.induct t with
  | case1 p ih =>
      have hchildren : Clears (descend t.nodes)
          (1 * ((t.children p).flatMap t.preOrderFrom).length) ((t.children p).map id)
          ((t.children p).flatMap t.preOrderFrom) := by
        apply Clears.flatMap
        intro c hc
        exact ih ⟨c, hc⟩ (mem_children.1 hc).2.1
      have hround : ∀ waiting listed, descend t.nodes ⟨[p] ++ waiting, listed⟩ =
          some ⟨(t.children p).map id ++ waiting, listed ++ [p]⟩ := by
        intro waiting listed
        simp [descend, getElem?_nodes hp, node]
      rw [preOrderFrom_eq, List.length_cons, Nat.mul_succ]
      exact hchildren.of_round hround

/-- From the bottom up each node comes up twice, before its children and after them. -/
theorem clears_ascend (hp : p ≤ t.matchCount) :
    Clears (ascend t.nodes) (2 * (t.postOrderFrom p).length) [(p, false)]
      (t.postOrderFrom p) := by
  induction p using postOrderFrom.induct t with
  | case1 p ih =>
      have hchildren : Clears (ascend t.nodes)
          (2 * ((t.children p).flatMap t.postOrderFrom).length)
          ((t.children p).map (·, false)) ((t.children p).flatMap t.postOrderFrom) := by
        apply Clears.flatMap
        intro c hc
        exact ih ⟨c, hc⟩ (mem_children.1 hc).2.1
      have hself : Clears (ascend t.nodes) 1 [(p, true)] [p] := by
        intro waiting listed
        simp [rounds, ascend]
      have hround : ∀ waiting listed, ascend t.nodes ⟨[(p, false)] ++ waiting, listed⟩ =
          some ⟨(t.children p).map (·, false) ++ [(p, true)] ++ waiting, listed ++ []⟩ := by
        intro waiting listed
        simp [ascend, getElem?_nodes hp, node]
      rw [postOrderFrom_eq, List.length_append, Nat.mul_add]
      exact (hchildren.append hself).of_round hround

end

/-! ## The loops of a built tree -/

section Built

variable {ms : List Match} {p q : Nat}

/-- The walk from the top down makes one round for each node and then has nothing left. -/
theorem topDown_ends (ms : List Match) :
    rounds (descend (table ms)) (ms.length + 1) topDown = some ⟨[], (build ms).preOrder⟩ := by
  have hwalk := clears_descend (t := build ms) (Nat.zero_le _) [] []
  have hlength : 1 * ((build ms).preOrderFrom root).length = ms.length + 1 := by
    change 1 * (build ms).preOrder.length = ms.length + 1
    rw [build_preOrder, List.length_range, Nat.one_mul]
  rw [table_eq_nodes, ← hlength]
  exact hwalk

theorem build_postOrder_perm (ms : List Match) :
    (build ms).postOrder.Perm (List.range (ms.length + 1)) := by
  apply (List.perm_ext_iff_of_nodup (nodup_postOrder _) List.nodup_range).2
  intro p
  rw [mem_build_postOrder, List.mem_range, Nat.lt_succ_iff]

/-- The walk from the bottom up makes two rounds for each node and then has nothing left. -/
theorem bottomUp_ends (ms : List Match) :
    rounds (ascend (table ms)) (2 * (ms.length + 1)) bottomUp =
      some ⟨[], (build ms).postOrder⟩ := by
  have hwalk := clears_ascend (t := build ms) (Nat.zero_le _) [] []
  have hlength : ((build ms).postOrderFrom root).length = ms.length + 1 := by
    rw [← List.length_range (n := ms.length + 1)]
    exact (build_postOrder_perm ms).length_eq
  rw [table_eq_nodes, ← hlength]
  exact hwalk

theorem depth_of_parent (h : (build ms).parent? q = some p) :
    (build ms).depth q = (build ms).depth p + 1 := by
  rw [depth, h]
  exact if_pos (parent_lt h)

theorem depth_of_no_parent (h : (build ms).parent? q = none) : (build ms).depth q = 0 := by
  rw [depth, h]

/-- From a parent on the way up goes to the root, with one round for each node passed. -/
theorem rounds_climb (ms : List Match) (q passed : Nat) :
    rounds (climb (build ms).nodes) ((build ms).depth q) ⟨(build ms).parent? q, passed⟩ =
      some ⟨none, passed + (build ms).depth q⟩ := by
  induction q using Nat.strongRecOn generalizing passed with
  | ind q ih =>
      cases hparent : (build ms).parent? q with
      | none =>
          rw [depth_of_no_parent hparent]
          rfl
      | some p =>
          have hp : p ≤ (build ms).matchCount := by
            have hq := (build_parent?_eq_some_iff.1 hparent).2.1
            have hlt := parent_lt hparent
            rw [build_matchCount]
            omega
          have hround : climb (build ms).nodes ⟨some p, passed⟩ =
              some ⟨(build ms).parent? p, passed + 1⟩ := by
            rw [climb, getElem?_nodes hp]
            rfl
          rw [depth_of_parent hparent, rounds, hround, Option.bind_some,
            ih p (parent_lt hparent), Nat.add_assoc, Nat.add_comm 1]

/-- The way up from a node starts at its parent. Numbers that the tree does not have have no
parent either. -/
theorem upFrom_table (ms : List Match) (q : Nat) :
    upFrom (table ms) q = ⟨(build ms).parent? q, 0⟩ := by
  rw [table_eq_nodes, upFrom]
  rcases Nat.lt_or_ge (build ms).matchCount q with hq | hq
  · have hnone : (build ms).parent? q = none := by
      rw [Option.eq_none_iff_forall_ne_some]
      intro p hparent
      have hle := (build_parent?_eq_some_iff.1 hparent).2.1
      rw [build_matchCount] at hq
      omega
    rw [hnone, List.getElem?_eq_none (by rwa [length_nodes])]
    rfl
  · rw [getElem?_nodes hq]
    rfl

/-- The way up from any number makes one round for each node above it and then is over. -/
theorem upFrom_ends (ms : List Match) (q : Nat) :
    rounds (climb (table ms)) ((build ms).depth q) (upFrom (table ms) q) =
      some ⟨none, (build ms).depth q⟩ := by
  rw [upFrom_table, table_eq_nodes, rounds_climb, Nat.zero_add]

end Built

end PatternScan.MatchTree
