import PatternScan.Pattern.CharSet

/-!
# Regular expressions

The tree of a pattern once its flags have been worked in: single characters are sets,
and every repetition tells whether it prefers more or fewer rounds.
-/

namespace PatternScan.Pattern

/-- A condition on a position of the text. -/
inductive Anchor where
  | textStart
  | textEnd
  /-- At the start, or just after a line feed. -/
  | lineStart
  /-- At the end, or just before a line feed. -/
  | lineEnd
  /-- At the start, or just after a line break of one or two characters. -/
  | breakStart
  /-- At the end, or just before a line break of one or two characters. -/
  | breakEnd
  | wordBoundary (ascii : Bool)
  | notWordBoundary (ascii : Bool)
  | wordStart (ascii : Bool)
  | wordEnd (ascii : Bool)
  | wordStartHalf (ascii : Bool)
  | wordEndHalf (ascii : Bool)
  deriving DecidableEq, Repr

/-- A regular expression. -/
inductive Regex where
  | empty
  | chars (set : CharSet)
  | anchor (condition : Anchor)
  | cat (first second : Regex)
  | alt (preferred other : Regex)
  | repetition (body : Regex) (least : Nat) (most : Option Nat) (greedy : Bool)
  | capture (group : Nat) (body : Regex)
  deriving DecidableEq, Repr, Inhabited

namespace Regex

/-- The expression is nothing at all. -/
def isEmpty : Regex → Bool
  | empty => true
  | _ => false

/-- The expressions put together one after another. -/
def chain : List Regex → Regex
  | [] => empty
  | [r] => r
  | r :: rest => cat r (chain rest)

/-- The expressions one after another; those that are nothing at all are left out. -/
def catAll (rs : List Regex) : Regex := chain (rs.filter fun r => !r.isEmpty)

/-- The alternatives of an expression. -/
def alternatives : Regex → List Regex
  | alt a b => a.alternatives ++ b.alternatives
  | r => [r]

/-- The set of an expression for one character. -/
def set? : Regex → Option CharSet
  | chars s => some s
  | _ => none

/-- The set that alternatives come to if all are single characters, or all are sets of
another kind. -/
def mergedSet? (rs : List Regex) : Option CharSet :=
  (rs.mapM set?).bind fun sets =>
    if sets.all CharSet.isSingle || !sets.any CharSet.isSingle then some (.unionAll sets) else none

/-- The expressions put together as alternatives, the first preferred. -/
def prefer : List Regex → Regex
  | [] => empty
  | [r] => r
  | r :: rest => alt r (prefer rest)

/-- The expressions as alternatives, the first preferred. Where each is one character of a
set, there is nothing to prefer, and they come to one set. -/
def altAll (rs : List Regex) : Regex :=
  match rs.flatMap alternatives with
  | [r] => r
  | branches =>
      match mergedSet? branches with
      | some s => chars s
      | none => prefer branches

/-- The expression takes no character of the text. -/
def isZeroWidth : Regex → Bool
  | empty | anchor _ => true
  | chars _ => false
  | cat a b | alt a b => a.isZeroWidth && b.isZeroWidth
  | repetition body _ most _ => body.isZeroWidth || most == some 0
  | capture _ body => body.isZeroWidth

/-- The expression takes at least one character of the text. -/
def takesText : Regex → Bool
  | empty | anchor _ => false
  | chars _ => true
  | cat a b => a.takesText || b.takesText
  | alt a b => a.takesText && b.takesText
  | repetition body least _ _ => least != 0 && body.takesText
  | capture _ body => body.takesText

/-- A repetition. None at all takes the groups inside away with it, one round alone is the
expression itself, and of what takes no character one round says all. -/
def repeated (body : Regex) (least : Nat) (most : Option Nat) (greedy : Bool) : Regex :=
  let (least, most) :=
    if body.isZeroWidth then (min least 1, some (min (most.getD 1) 1)) else (least, most)
  match least, most with
  | 0, some 0 => empty
  | 1, some 1 => body
  | least, most => repetition body least most greedy

/-- The groups that the expression captures, in order of appearance. -/
def groups : Regex → List Nat
  | empty | chars _ | anchor _ => []
  | cat a b | alt a b => a.groups ++ b.groups
  | repetition body _ _ _ => body.groups
  | capture group body => group :: body.groups

end Regex

end PatternScan.Pattern
