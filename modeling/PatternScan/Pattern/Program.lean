import PatternScan.Pattern.Regex

/-!
# Programs

An expression is compiled to a list of instructions. Where there is a choice, the
preferred way comes first. An unbounded repetition that may be left out altogether is
compiled as one round or more that may be left out, so that a round that takes no text
does not change the order of preference.
-/

namespace PatternScan.Pattern

/-- An instruction; targets are positions in the program. -/
inductive Instruction where
  | chars (set : CharSet) (next : Nat)
  | anchor (condition : Anchor) (next : Nat)
  | split (preferred other : Nat)
  | jump (next : Nat)
  /-- Notes the position of the text in a slot. -/
  | save (slot : Nat) (next : Nat)
  | accept
  deriving DecidableEq, Repr, Inhabited

/-- A choice between going on and leaving. -/
def choose (greedy : Bool) (go leave : Nat) : Instruction :=
  if greedy then .split go leave else .split leave go

/-- The code of an expression that is placed at `start` and goes on at `next`. -/
abbrev Fragment := Nat → Nat → List Instruction

/-- Where the round after the one at `start` begins, or what follows the last round. -/
def afterRound (start size next : Nat) (isLast : Bool) : Nat :=
  if isLast then next else start + size

/-- Codes of `size` instructions each, one after another. -/
def copies (code : Fragment) (size count : Nat) : Fragment := fun start next =>
  (List.range count).flatMap fun index =>
    let start := start + index * size
    code start (afterRound start size next (index + 1 = count))

/-- Rounds of which each may be left out together with all after it. -/
def optionalRounds (greedy : Bool) (code : Fragment) (size count : Nat) : Fragment :=
  fun start next =>
    (List.range count).flatMap fun index =>
      let start := start + index * (size + 1)
      choose greedy (start + 1) next ::
        code (start + 1) (afterRound start (size + 1) next (index + 1 = count))

/-- One round or more. -/
def oneOrMore (greedy : Bool) (code : Fragment) (size : Nat) : Fragment := fun start next =>
  code start (start + size) ++ [choose greedy start next]

/-- A repetition of a code. -/
def rounds (greedy : Bool) (code : Fragment) (size least : Nat) : Option Nat → Fragment
  | none => fun start next =>
      match least with
      | 0 =>
          choose greedy (start + 1) next :: oneOrMore greedy code size (start + 1) next
      | fixed + 1 =>
          let last := start + size * fixed
          copies code size fixed start last ++ oneOrMore greedy code size last next
  | some most => fun start next =>
      let optional := most - least
      let middle := start + size * least
      if optional = 0 then
        if least = 0 then [.jump next] else copies code size least start next
      else
        copies code size least start middle ++ optionalRounds greedy code size optional middle next

namespace Regex

/-- The number of instructions of a repetition. -/
def roundsSize (size least : Nat) : Option Nat → Nat
  | none => if least = 0 then size + 2 else size * least + 1
  | some most =>
      if most - least = 0 ∧ least = 0 then 1 else size * least + (size + 1) * (most - least)

/-- The number of instructions of an expression. -/
def codeSize : Regex → Nat
  | empty | chars _ | anchor _ => 1
  | cat a b => a.codeSize + b.codeSize
  | alt a b => a.codeSize + b.codeSize + 1
  | repetition body least most _ => roundsSize body.codeSize least most
  | capture _ body => body.codeSize + 2

/-- The slot of a group's start; that of its end comes after it. -/
def startSlot (group : Nat) : Nat := 2 * group

/-- The code of an expression. -/
def code : Regex → Fragment
  | empty => fun _ next => [.jump next]
  | chars set => fun _ next => [.chars set next]
  | anchor condition => fun _ next => [.anchor condition next]
  | cat a b => fun start next =>
      a.code start (start + a.codeSize) ++ b.code (start + a.codeSize) next
  | alt a b => fun start next =>
      let other := start + 1 + a.codeSize
      .split (start + 1) other :: a.code (start + 1) next ++ b.code other next
  | repetition body least most greedy => rounds greedy body.code body.codeSize least most
  | capture group body => fun start next =>
      let stop := start + 1 + body.codeSize
      .save (startSlot group) (start + 1) :: body.code (start + 1) stop ++
        [.save (startSlot group + 1) next]

/-- The program of an expression: its code, and acceptance after it. -/
def program (r : Regex) : List Instruction := r.code 0 r.codeSize ++ [.accept]

end Regex

end PatternScan.Pattern
