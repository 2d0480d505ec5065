import PatternScan.Match.NodeTable
import PatternScan.Proofs.Match.Traversal

/-!
# The table of a built tree

Both the table and the tree are built match by match with a stack of open nodes. The table
notes every link twice, at the child and at the parent; the tree notes the parent only and
reads the children off the parents. So the two agree as long as each entry of a node adds one
child to one node, and the open nodes are the same on both sides. With that, what the naive
definition of nesting says of the tree is said of the lists in the table as well.
-/

namespace PatternScan.MatchTree

/-! ## A tree read as a table -/

/-- What the tree tells of one node. -/
def node (t : MatchTree) (id : Nat) : Node := ⟨t.item? id, t.parent? id, t.children id⟩

/-- What the tree tells of its nodes, in the order of their numbers. -/
def nodes (t : MatchTree) : List Node := (List.range (t.matchCount + 1)).map t.node

/-- The tree with one more match, whose node has the next number. -/
def snoc (t : MatchTree) (m : Match) (parent : Nat) : MatchTree :=
  ⟨t.items ++ [m], t.parents ++ [parent]⟩

section

variable {t : MatchTree} {stack : List OpenMatch} {m : Match} {p parent : Nat}

theorem length_nodes (t : MatchTree) : t.nodes.length = t.matchCount + 1 := by
  simp [nodes]

theorem getElem?_nodes (h : p ≤ t.matchCount) : t.nodes[p]? = some (t.node p) := by
  rw [nodes, List.getElem?_map, List.getElem?_range (Nat.lt_succ_of_le h)]
  rfl

theorem le_matchCount_of_item? (h : t.item? p = some m) : p ≤ t.matchCount := by
  cases p with
  | zero => exact Nat.zero_le _
  | succ k => exact (List.getElem?_eq_some_iff.1 h).1

theorem matchCount_snoc : (t.snoc m parent).matchCount = t.matchCount + 1 := by
  simp [snoc, matchCount]

theorem item?_snoc (h : p ≤ t.matchCount) : (t.snoc m parent).item? p = t.item? p := by
  cases p with
  | zero => rfl
  | succ k => exact List.getElem?_append_left h

theorem item?_snoc_last : (t.snoc m parent).item? (t.matchCount + 1) = some m :=
  List.getElem?_concat_length

/-- The parents of all matches are noted. -/
def Noted (t : MatchTree) : Prop := t.parents.length = t.matchCount

theorem Noted.snoc (h : t.Noted) : (t.snoc m parent).Noted := by
  rw [Noted] at h
  simp [Noted, MatchTree.snoc, matchCount, h]

theorem Noted.parent?_snoc (h : t.Noted) (hp : p ≤ t.matchCount) :
    (t.snoc m parent).parent? p = t.parent? p := by
  cases p with
  | zero => rfl
  | succ k => exact List.getElem?_append_left (h.symm ▸ hp)

theorem Noted.parent?_snoc_last (h : t.Noted) :
    (t.snoc m parent).parent? (t.matchCount + 1) = some parent := by
  rw [← h]
  exact List.getElem?_concat_length

/-- The new node is the last child of its parent, and the children of all others stay. -/
theorem Noted.children_snoc (h : t.Noted) (hp : p ≤ t.matchCount) :
    (t.snoc m parent).children p =
      if parent = p then t.children p ++ [t.matchCount + 1] else t.children p := by
  have hlast : t.matchCount + 1 - p = (t.matchCount - p) + 1 := by omega
  have hsame : (List.range' (p + 1) (t.matchCount - p)).filter
      (fun child => (t.snoc m parent).parent? child == some p) = t.children p := by
    apply List.filter_congr
    intro child hchild
    rw [List.mem_range'_1] at hchild
    rw [h.parent?_snoc (by omega)]
  have hnew : p + 1 + (t.matchCount - p) = t.matchCount + 1 := by omega
  rw [children, matchCount_snoc, hlast, List.range'_1_concat, List.filter_append, hsame, hnew]
  by_cases hparent : parent = p
  · simp [h.parent?_snoc_last, hparent]
  · simp [h.parent?_snoc_last, hparent]

/-- Of the nodes that were there only the parent changes. -/
theorem Noted.node_snoc (h : t.Noted) (hp : p ≤ t.matchCount) :
    (t.snoc m parent).node p =
      if parent = p then (t.node p).adopt (t.matchCount + 1) else t.node p := by
  rw [node, item?_snoc hp, h.parent?_snoc hp, h.children_snoc hp]
  by_cases hparent : parent = p
  · rw [if_pos hparent, if_pos hparent, node, Node.adopt]
  · rw [if_neg hparent, if_neg hparent, node]

/-- The new node has no children. -/
theorem Noted.node_snoc_last (h : t.Noted) :
    (t.snoc m parent).node (t.matchCount + 1) = Node.leaf m parent := by
  have hchildren : (t.snoc m parent).children (t.matchCount + 1) = [] := by
    simp [children, matchCount_snoc]
  rw [node, item?_snoc_last, h.parent?_snoc_last, hchildren, Node.leaf]

/-- One more match adds one node to the table and one child to one node of it. -/
theorem Noted.nodes_snoc (h : t.Noted) (hparent : parent ≤ t.matchCount) :
    (t.snoc m parent).nodes =
      (t.nodes ++ [Node.leaf m parent]).modify parent
        fun node => node.adopt (t.matchCount + 1) := by
  have hcount : (t.snoc m parent).matchCount = t.matchCount + 1 := matchCount_snoc
  apply List.ext_getElem?
  intro p
  rw [List.getElem?_modify]
  rcases Nat.lt_trichotomy p (t.matchCount + 1) with hp | rfl | hp
  · have hle : p ≤ t.matchCount := Nat.le_of_lt_succ hp
    rw [getElem?_nodes (by omega), h.node_snoc hle,
      List.getElem?_append_left (by rwa [length_nodes]), getElem?_nodes hle]
    by_cases hself : parent = p
    · simp [hself]
    · simp [hself]
  · have hlast : (t.nodes ++ [Node.leaf m parent])[t.matchCount + 1]? =
        some (Node.leaf m parent) := by
      rw [← length_nodes t]
      exact List.getElem?_concat_length
    have hother : parent ≠ t.matchCount + 1 := by omega
    rw [getElem?_nodes (by omega), h.node_snoc_last, hlast]
    simp [hother]
  · have hold : (t.nodes ++ [Node.leaf m parent])[p]? = none := by
      rw [List.getElem?_eq_none_iff, List.length_append, length_nodes]
      exact hp
    rw [hold, List.getElem?_eq_none_iff.2 (by rw [length_nodes]; omega)]
    rfl

/-! ## The open nodes -/

/-- The open matches are matches of the tree. -/
def Carries (t : MatchTree) (stack : List OpenMatch) : Prop :=
  ∀ o ∈ stack, ∃ m, t.item? o.id = some m ∧ m.span = o.span

/-- The table of the tree, with the open matches and the root open. -/
def growth (t : MatchTree) (stack : List OpenMatch) : Growth :=
  ⟨t.nodes, stack.map OpenMatch.id ++ [root]⟩

theorem Carries.snoc (h : t.Carries stack) :
    (t.snoc m parent).Carries (⟨t.matchCount + 1, m.span⟩ :: stillOpen stack m.span) := by
  intro o ho
  rcases List.mem_cons.1 ho with rfl | ho
  · exact ⟨m, item?_snoc_last, rfl⟩
  · obtain ⟨n, hn, hspan⟩ := h o ((List.dropWhile_sublist _).mem ho)
    exact ⟨n, (item?_snoc (le_matchCount_of_item? hn)).trans hn, hspan⟩

/-- Both builders close the same nodes. -/
theorem Carries.stillOpen_growth (h : t.Carries stack) (span : Span) :
    (t.growth stack).stillOpen span = (stillOpen stack span).map OpenMatch.id ++ [root] := by
  rw [Growth.stillOpen, growth]
  induction stack with
  | nil =>
      have hnode : t.nodes[root]? = some (t.node root) := getElem?_nodes (Nat.zero_le _)
      have hroot : (t.node root).contains span = true := rfl
      simp [stillOpen, hnode, hroot]
  | cons o stack ih =>
      obtain ⟨m, hm, hspan⟩ := h o List.mem_cons_self
      have hnode : t.nodes[o.id]? = some (t.node o.id) :=
        getElem?_nodes (le_matchCount_of_item? hm)
      have hrest := ih fun o ho => h o (List.mem_cons_of_mem _ ho)
      have hsame : (t.node o.id).contains span = o.span.contains span := by
        simp [node, hm, Node.contains, hspan]
      simp only [stillOpen, List.map_cons, List.cons_append, List.dropWhile_cons, hnode,
        Option.any_some, hsame]
      cases o.span.contains span with
      | true => simp
      | false => simpa [stillOpen] using hrest

/-- The parent that the tree notes for the next match. -/
def nextParent (stack : List OpenMatch) (m : Match) : Nat :=
  ((stillOpen stack m.span).head?.map OpenMatch.id).getD root

theorem Carries.nextParent_le (h : t.Carries stack) (m : Match) :
    nextParent stack m ≤ t.matchCount := by
  rw [nextParent]
  cases hhead : (stillOpen stack m.span).head? with
  | none => exact Nat.zero_le _
  | some o =>
      obtain ⟨n, hn, -⟩ := h o ((List.dropWhile_sublist _).mem (List.mem_of_head? hhead))
      exact le_matchCount_of_item? hn

/-- Entering a match in the table of a tree gives the table of the tree with this match. -/
theorem enter_growth (hnoted : t.Noted) (h : t.Carries stack) (m : Match) :
    (t.growth stack).enter m =
      (t.snoc m (nextParent stack m)).growth
        (⟨t.matchCount + 1, m.span⟩ :: stillOpen stack m.span) := by
  have hparent : ((t.growth stack).stillOpen m.span).head?.getD root = nextParent stack m := by
    rw [h.stillOpen_growth, nextParent]
    cases stillOpen stack m.span <;> rfl
  have hlength : (t.growth stack).nodes.length = t.matchCount + 1 := length_nodes t
  rw [Growth.enter, hparent, hlength, h.stillOpen_growth, growth, growth,
    hnoted.nodes_snoc (h.nextParent_le m)]
  rfl

/-- Entering one match after the other keeps the table that of the tree. -/
theorem foldl_enter_growth (hnoted : t.Noted) (h : t.Carries stack) (ms : List Match) :
    (ms.foldl Growth.enter (t.growth stack)).nodes =
      (⟨t.items ++ ms, t.parents ++ parentsFrom stack (t.matchCount + 1) ms⟩ :
        MatchTree).nodes := by
  induction ms generalizing t stack with
  | nil => simp [parentsFrom, growth]
  | cons m ms ih =>
      have hnext := ih (t := t.snoc m (nextParent stack m)) hnoted.snoc h.snoc
      rw [List.foldl_cons, enter_growth hnoted h, hnext, matchCount_snoc]
      simp only [MatchTree.snoc, nextParent, parentsFrom, List.append_assoc, List.singleton_append]

end

/-- The table of matches is the table of their tree: the children that a node has taken are the
nodes that name it as their parent. -/
theorem table_eq_nodes (ms : List Match) : table ms = (build ms).nodes := by
  have hnoted : Noted ⟨[], []⟩ := rfl
  have hcarries : Carries ⟨[], []⟩ [] := by
    intro o ho
    cases ho
  exact foldl_enter_growth hnoted hcarries (Match.scanOrder ms)

theorem node_of_table {ms : List Match} {p : Nat} {node : Node} (h : (table ms)[p]? = some node) :
    p ≤ ms.length ∧ node = (build ms).node p := by
  have hlt := (List.getElem?_eq_some_iff.1 h).1
  rw [table_eq_nodes, length_nodes, build_matchCount] at hlt
  have hle : p ≤ (build ms).matchCount := build_matchCount ms ▸ Nat.le_of_lt_succ hlt
  rw [table_eq_nodes, getElem?_nodes hle] at h
  exact ⟨Nat.le_of_lt_succ hlt, (Option.some.inj h).symm⟩

/-- A node names its parent just where it stands in the parent's list. -/
theorem mem_children_of_table {ms : List Match} {p : Nat} {node : Node}
    (h : (table ms)[p]? = some node) (q : Nat) :
    q ∈ node.children ↔ ∃ child, (table ms)[q]? = some child ∧ child.parent? = some p := by
  obtain ⟨-, rfl⟩ := node_of_table h
  refine mem_build_children.trans ⟨fun hparent => ?_, ?_⟩
  · have hle := (build_parent?_eq_some_iff.1 hparent).2.1
    rw [← build_matchCount] at hle
    exact ⟨(build ms).node q, table_eq_nodes ms ▸ getElem?_nodes hle, hparent⟩
  · rintro ⟨child, hchild, hparent⟩
    obtain ⟨-, rfl⟩ := node_of_table hchild
    exact hparent

/-! ## The naive definition -/

/-- The builder follows the naive definition of nesting for any matches in any order. Its
nodes carry the matches in scan order, where equal matches keep their order; the parent of
a node is the last earlier node that encloses it; and each node lists its children in
increasing order, also in the table, where a list is kept at each node. Where no two matches
cross, the ancestors of a node are the nodes that enclose it. -/
theorem build_nests_naively (ms : List Match) :
    ((Match.scanOrder ms).Perm ms ∧
      ((Match.scanOrder ms).Pairwise fun m n => m.precedes n = true) ∧
      (∀ span group, (Match.scanOrder ms).filter (fun m => m.span = span ∧ m.group = group) =
        ms.filter (fun m => m.span = span ∧ m.group = group))) ∧
    ((build ms).matchCount = ms.length ∧
      ∀ k, (build ms).item? (k + 1) = (Match.scanOrder ms)[k]?) ∧
    (∀ q, 0 < q → q ≤ ms.length →
      (build ms).parent? q = some ((build ms).lastEncloser q)) ∧
    (∀ p, ((build ms).children p).Pairwise (· < ·) ∧
      ∀ q, q ∈ (build ms).children p ↔ (build ms).parent? q = some p) ∧
    ((table ms).length = ms.length + 1 ∧
      ∀ (p : Nat) (node : Node), (table ms)[p]? = some node →
        node.item? = (build ms).item? p ∧ node.parent? = (build ms).parent? p ∧
        node.children.Pairwise (· < ·) ∧
        ∀ q, q ∈ node.children ↔
          ∃ child, (table ms)[q]? = some child ∧ child.parent? = some p) ∧
    (Match.WellPlaced ms → Match.NonCrossing ms →
      ∀ p q, 0 < p → ((build ms).IsAncestor p q ↔ (build ms).encloses p q = true)) := by
  refine ⟨⟨Match.scanOrder_perm ms, Match.pairwise_scanOrder ms, Match.filter_scanOrder ms⟩,
    ⟨build_matchCount ms, build_item?_succ ms⟩, ?_, ?_, ⟨?_, ?_⟩, ?_⟩
  · intro q h0 hq
    exact build_parent?_eq_some_iff.2 ⟨h0, hq, rfl⟩
  · intro p
    exact ⟨pairwise_children _ p, fun q => mem_build_children⟩
  · rw [table_eq_nodes, length_nodes, build_matchCount]
  · intro p node hnode
    obtain ⟨-, hread⟩ := node_of_table hnode
    have hascending : node.children.Pairwise (· < ·) := hread ▸ pairwise_children _ p
    exact ⟨congrArg Node.item? hread, congrArg Node.parent? hread, hascending,
      mem_children_of_table hnode⟩
  · intro hplaced hcross p q hp
    exact ⟨IsAncestor.encloses hp, isAncestor_of_encloses hplaced hcross⟩

theorem nestedSample_ancestors :
    Match.WellPlaced nestedSample ∧ Match.NonCrossing nestedSample ∧
      (table nestedSample).map Node.children = [[1, 4], [2], [3], [], []] ∧
      (build nestedSample).IsAncestor 1 3 ∧ ¬ (build nestedSample).IsAncestor 1 4 := by
  have hplaced : Match.WellPlaced nestedSample := by decide
  have hcross : Match.NonCrossing nestedSample := by decide
  obtain ⟨-, -, -, -, -, hnest⟩ := build_nests_naively nestedSample
  refine ⟨hplaced, hcross, by decide_cbv, (hnest hplaced hcross 1 3 Nat.one_pos).2 ?_,
    fun h => ?_⟩
  · decide_cbv
  · exact absurd ((hnest hplaced hcross 1 4 Nat.one_pos).1 h) (by decide_cbv)

end PatternScan.MatchTree
