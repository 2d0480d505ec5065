import Std.Data.HashMap
import PatternScan.Pattern.ByteSequence
import PatternScan.Pattern.Regex

/-!
# The size of patterns

A pattern stands for two automata over bytes, one that reads a text forward and one that
reads it backward. How much memory their states take limits the patterns that are
accepted. A repetition by counts takes its body so many times; the sizes are computed
without building the automata.
-/

namespace PatternScan.Pattern

/-- The direction in which an automaton reads. -/
inductive Direction where
  | forward
  | backward
  deriving DecidableEq, Repr

/-- The bytes of a state, what it chooses from aside. -/
def stateSize : Nat := 32

/-- The bytes of a way that a choice may take. -/
def waySize : Nat := 4

/-- The bytes of a range of bytes with the state it leads to. -/
def rangeSize : Nat := 8

/-- The bytes of a choice between so many ways. -/
def choiceSize (ways : Nat) : Nat := stateSize + waySize * ways

/-- The bytes of a state that goes on by one of so many ranges. -/
def rangesSize (ranges : Nat) : Nat := stateSize + rangeSize * ranges

/-- The greatest size of an automaton. -/
def sizeLimit : Nat := 10485760

/-- A state of an automaton that reads the sequences of a set: the ranges by which it goes
on, each with the number of the next state. -/
abbrev SequenceState := List (ByteRange × Nat)

/-- The states of an automaton that reads the sequences of a set, each with its number. Like
states are one. -/
abbrev SequenceStates := Std.HashMap SequenceState Nat

/-- The number of a state, which is added if it is new. Zero is the last state. -/
def SequenceStates.number (states : SequenceStates) (state : SequenceState) :
    Nat × SequenceStates :=
  match states[state]? with
  | some number => (number, states)
  | none => (states.size + 1, states.insert state (states.size + 1))

/-- The number of the state that reads sequences of at most `depth` ranges. -/
def readSequences : Nat → List ByteSequence → SequenceStates → Nat × SequenceStates
  | 0, _, states => (0, states)
  | depth + 1, sequences, states =>
      if sequences.all List.isEmpty then (0, states)
      else
        let groups := sequences.splitBy fun a b => a.head? == b.head?
        let (state, states) := groups.foldl
          (fun (state, states) group =>
            let (next, states) := readSequences depth (group.map List.tail) states
            (((group.head?.bind List.head?).getD trailing, next) :: state, states))
          (([] : SequenceState), states)
        states.number state.reverse

/-- The length of the common beginning of two sequences. -/
def commonLength : ByteSequence → ByteSequence → Nat
  | a :: as, b :: bs => if a == b then commonLength as bs + 1 else 0
  | _, _ => 0

/-- The number of different beginnings of sequences that are in order; `last` is the one
before them. -/
def beginningsFrom (last : ByteSequence) (count : Nat) : List ByteSequence → Nat
  | [] => count
  | s :: rest => beginningsFrom s (count + s.length - commonLength last s) rest

namespace CharSet

/-- The bytes of the part of an automaton that reads a character of the set. A single
character is read byte by byte, and ASCII characters take one step. -/
def footprint (direction : Direction) (s : CharSet) : Nat :=
  match s.ranges with
  | [(a, b)] => if a = b then stateSize * (Char.ofNat a).utf8Size else ofRanges
  | _ => ofRanges
where
  /-- The bytes for a set that is not a single character. -/
  ofRanges : Nat :=
    if s.isAscii then stateSize + rangesSize s.ranges.length
    else
      let sequences := s.byteSequences
      match direction with
      | .forward =>
          let states := (readSequences 5 sequences ∅).2
          states.fold (fun bytes state _ => bytes + rangesSize state.length) stateSize
      | .backward =>
          choiceSize sequences.length + stateSize + stateSize * beginningsFrom [] 0 sequences

end CharSet

/-- The bytes of a repetition of something of `size` bytes. -/
def repetitionSize (size : Nat) (takesText : Bool) (least : Nat) : Option Nat → Nat
  | none =>
      if least = 0 then
        if takesText then size + choiceSize 2 else size + 2 * choiceSize 2 + stateSize
      else least * size + choiceSize 2
  | some most =>
      let fixed := if least = 0 then stateSize else least * size
      if least = most then fixed
      else if least = 0 ∧ most = 1 then size + choiceSize 2 + stateSize
      else fixed + stateSize + (most - least) * (size + choiceSize 2)

/-- The bytes of an expression, by itself and as alternatives of a choice. -/
structure Footprint where
  alone : Nat
  asWays : Nat
  deriving DecidableEq, Repr

/-- The footprint of what is but one alternative. -/
def Footprint.single (size : Nat) : Footprint := ⟨size, waySize + size⟩

namespace Regex

/-- The bytes of the part of an automaton that reads the expression. Only the automaton that
reads forward notes where groups begin and end. -/
def footprint (direction : Direction) : Regex → Footprint
  | empty | anchor _ => .single stateSize
  | chars s => .single (s.footprint direction)
  | cat a b => .single ((a.footprint direction).alone + (b.footprint direction).alone)
  | alt a b =>
      let ways := (a.footprint direction).asWays + (b.footprint direction).asWays
      ⟨2 * stateSize + ways, ways⟩
  | repetition body least most _ =>
      .single (repetitionSize (body.footprint direction).alone body.takesText least most)
  | capture _ body =>
      let notes := if direction = .forward then 2 * stateSize else 0
      .single ((body.footprint direction).alone + notes)

/-- A match of the expression can only begin at the start of the text. -/
def beginsAtStart : Regex → Bool
  | anchor condition => condition == .textStart
  | cat a b => a.beginsAtStart || (a.isZeroWidth && b.beginsAtStart)
  | alt a b => a.beginsAtStart && b.beginsAtStart
  | repetition body least _ _ => least != 0 && body.beginsAtStart
  | capture _ body => body.beginsAtStart
  | _ => false

/-- A match of the expression can only stop at the end of the text. -/
def stopsAtEnd : Regex → Bool
  | anchor condition => condition == .textEnd
  | cat a b => b.stopsAtEnd || (b.isZeroWidth && a.stopsAtEnd)
  | alt a b => a.stopsAtEnd && b.stopsAtEnd
  | repetition body least _ _ => least != 0 && body.stopsAtEnd
  | capture _ body => body.stopsAtEnd
  | _ => false

/-- The bytes of an automaton that finds the expression: unless a match can only begin where
the reading does, it first passes over any bytes. -/
def automatonSize (direction : Direction) (r : Regex) : Nat :=
  let fixed := match direction with
    | .forward => r.beginsAtStart
    | .backward => r.stopsAtEnd
  let opening := if fixed then stateSize else choiceSize 2 + stateSize + rangesSize 1
  opening + ((capture 0 r).footprint direction).alone + stateSize

/-- Both automata of the expression keep to the limit. -/
def isSmall (r : Regex) : Bool :=
  r.automatonSize .forward ≤ sizeLimit && r.automatonSize .backward ≤ sizeLimit

end Regex

end PatternScan.Pattern
