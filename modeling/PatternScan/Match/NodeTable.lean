import PatternScan.Match.Tree

/-!
# The table of nodes

A nesting tree can be kept as a table of its nodes in the order of their numbers, where every
node notes its parent and its children. The table is filled match by match: open nodes that do
not contain the next match are closed, the innermost node that stays open takes the match as
its next child, and the new node is opened.

The walks over a table keep on a stack what they have still to visit, and the way up goes from
parent to parent. A table may hold any numbers, also such that a loop over it never comes to
its end. So each loop is given by one round of it. A round leads nowhere when the loop is over,
and also when it comes to a number that the table does not have.
-/

namespace PatternScan.MatchTree

/-- A match with the numbers of its parent and its children. Only the root carries no match
and has no parent. -/
structure Node where
  item? : Option Match
  parent? : Option Nat
  children : List Nat
  deriving DecidableEq, Repr

namespace Node

/-- The node of a match that has no children yet. -/
def leaf (m : Match) (parent : Nat) : Node := ⟨some m, some parent, []⟩

/-- The match of the node contains the span. The root contains every span. -/
def contains (node : Node) (span : Span) : Bool :=
  node.item?.all fun m => m.span.contains span

/-- The node with one more child, after those that it has. -/
def adopt (node : Node) (child : Nat) : Node := { node with children := node.children ++ [child] }

end Node

/-! ## Filling the table -/

/-- The nodes entered so far and the numbers of the open ones, innermost first. -/
structure Growth where
  nodes : List Node
  opened : List Nat
  deriving DecidableEq, Repr

namespace Growth

/-- Before the first match the root stands alone and is open. -/
def start : Growth := ⟨[⟨none, none, []⟩], [root]⟩

/-- The open nodes that remain once those that do not contain `span` are closed. -/
def stillOpen (g : Growth) (span : Span) : List Nat :=
  g.opened.dropWhile fun id => !g.nodes[id]?.any fun node => node.contains span

/-- Enter the node of the next match. -/
def enter (g : Growth) (m : Match) : Growth :=
  let enclosing := g.stillOpen m.span
  let parent := enclosing.head?.getD root
  let id := g.nodes.length
  ⟨(g.nodes ++ [Node.leaf m parent]).modify parent fun node => node.adopt id, id :: enclosing⟩

end Growth

/-- The table of nodes of matches in any order. -/
def table (ms : List Match) : List Node :=
  ((Match.scanOrder ms).foldl Growth.enter Growth.start).nodes

/-! ## Loops over the table -/

/-- The entries that a walk has still to visit, the next one first, and the nodes that it has
listed. -/
structure Walk (α : Type) where
  waiting : List α
  listed : List Nat
  deriving DecidableEq, Repr

/-- A round of the walk from the top down: the next node is listed, and its children come up
before all others. -/
def descend (nodes : List Node) : Walk Nat → Option (Walk Nat)
  | ⟨[], _⟩ => none
  | ⟨id :: waiting, listed⟩ =>
      nodes[id]?.map fun node => ⟨node.children ++ waiting, listed ++ [id]⟩

/-- A round of the walk from the bottom up: a node that comes up for the first time waits on
behind its children, and the second time it is listed. -/
def ascend (nodes : List Node) : Walk (Nat × Bool) → Option (Walk (Nat × Bool))
  | ⟨[], _⟩ => none
  | ⟨(id, true) :: waiting, listed⟩ => some ⟨waiting, listed ++ [id]⟩
  | ⟨(id, false) :: waiting, listed⟩ =>
      nodes[id]?.map fun node => ⟨node.children.map (·, false) ++ (id, true) :: waiting, listed⟩

/-- The walk from the top down before its first round. -/
def topDown : Walk Nat := ⟨[root], []⟩

/-- The walk from the bottom up before its first round. -/
def bottomUp : Walk (Nat × Bool) := ⟨[(root, false)], []⟩

/-- The next node on the way up, if there is one, and the number of nodes passed. -/
structure Climb where
  above : Option Nat
  passed : Nat
  deriving DecidableEq, Repr

/-- A round on the way up: the next node is passed, and its parent comes next. -/
def climb (nodes : List Node) : Climb → Option Climb
  | ⟨none, _⟩ => none
  | ⟨some id, passed⟩ => nodes[id]?.map fun node => ⟨node.parent?, passed + 1⟩

/-- The way up from a node before its first round. -/
def upFrom (nodes : List Node) (id : Nat) : Climb := ⟨nodes[id]?.bind Node.parent?, 0⟩

/-- What a loop has come to after a number of rounds. -/
def rounds {σ : Type} (round : σ → Option σ) : Nat → σ → Option σ
  | 0, s => some s
  | k + 1, s => (round s).bind (rounds round k)

theorem rounds_add {σ : Type} (round : σ → Option σ) (j k : Nat) (s : σ) :
    rounds round (j + k) s = (rounds round j s).bind (rounds round k) := by
  induction j generalizing s with
  | zero => simp [rounds]
  | succ j ih =>
      have htail : rounds round (j + k) = fun s => (rounds round j s).bind (rounds round k) :=
        funext ih
      rw [Nat.succ_add, rounds, rounds, Option.bind_assoc, htail]

end PatternScan.MatchTree
