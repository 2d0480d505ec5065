import PatternScan.Match.Basic

/-!
# The nesting tree of one record's matches

Read in scan order, a match either nests inside the most recently opened match that
still contains it or closes open matches and becomes a sibling higher up. The tree
numbers its nodes: node zero is a root that carries no match, and node `k + 1` carries
the `k`-th match in scan order. Only the parent of each node is kept; the children of a
node are the later nodes that name it as their parent.
-/

namespace PatternScan

/-- An open match together with the number of its node. -/
structure OpenMatch where
  id : Nat
  span : Span
  deriving DecidableEq, Repr

/-- A tree of matches. `parents` holds the parent of the node of each match in `items`. -/
structure MatchTree where
  items : List Match
  parents : List Nat
  deriving DecidableEq, Repr, Inhabited

namespace MatchTree

/-- The number of the root, which stands for the whole record. -/
def root : Nat := 0

/-- The open matches that remain once those that do not contain `span` are closed,
innermost first. -/
def stillOpen (stack : List OpenMatch) (span : Span) : List OpenMatch :=
  stack.dropWhile fun o => !o.span.contains span

/-- The parent of each match in turn, when the first of them gets node number `id` and
the matches on `stack` are open, innermost first. -/
def parentsFrom (stack : List OpenMatch) (id : Nat) : List Match → List Nat
  | [] => []
  | m :: ms =>
      let enclosing := stillOpen stack m.span
      let parent := (enclosing.head?.map OpenMatch.id).getD root
      parent :: parentsFrom (⟨id, m.span⟩ :: enclosing) (id + 1) ms

/-- The nesting tree of matches in any order. -/
def build (ms : List Match) : MatchTree :=
  let ordered := Match.scanOrder ms
  ⟨ordered, parentsFrom [] 1 ordered⟩

/-- The number of matches; the root is not counted. -/
def matchCount (t : MatchTree) : Nat := t.items.length

/-- The match that a node carries; the root carries none. -/
def item? (t : MatchTree) : Nat → Option Match
  | 0 => none
  | k + 1 => t.items[k]?

/-- The parent of a node; the root has none. -/
def parent? (t : MatchTree) : Nat → Option Nat
  | 0 => none
  | k + 1 => t.parents[k]?

/-- The tree has a node of this number. -/
def hasNode (t : MatchTree) (id : Nat) : Bool := id ≤ t.matchCount

/-- The children of a node, in increasing number and so in text order. -/
def children (t : MatchTree) (id : Nat) : List Nat :=
  (List.range' (id + 1) (t.matchCount - id)).filter fun child => t.parent? child == some id

theorem mem_children {t : MatchTree} {id child : Nat} :
    child ∈ t.children id ↔
      id < child ∧ child ≤ t.matchCount ∧ t.parent? child = some id := by
  simp only [children, List.mem_filter, List.mem_range'_1, beq_iff_eq, ← and_assoc]
  exact and_congr_left fun _ => by omega

/-- A node before all nodes below it, and these child by child. -/
def preOrderFrom (t : MatchTree) (id : Nat) : List Nat :=
  id :: (t.children id).attach.flatMap fun child => preOrderFrom t child.1
termination_by t.matchCount - id
decreasing_by
  have h := mem_children.1 child.2
  omega

/-- A node after all nodes below it, and these child by child. -/
def postOrderFrom (t : MatchTree) (id : Nat) : List Nat :=
  ((t.children id).attach.flatMap fun child => postOrderFrom t child.1) ++ [id]
termination_by t.matchCount - id
decreasing_by
  have h := mem_children.1 child.2
  omega

/-- All nodes, each before the nodes below it. -/
def preOrder (t : MatchTree) : List Nat := t.preOrderFrom root

/-- All nodes, each after the nodes below it. -/
def postOrder (t : MatchTree) : List Nat := t.postOrderFrom root

/-- The number of nodes above a node. Parents always have smaller numbers, and the count
stops where one does not. -/
def depth (t : MatchTree) (id : Nat) : Nat :=
  match t.parent? id with
  | none => 0
  | some parent => if parent < id then depth t parent + 1 else 0
termination_by id

end MatchTree

end PatternScan
