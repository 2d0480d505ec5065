import PatternScan.Pattern.Program
import PatternScan.Text.Word

/-!
# Matching

A program is run by backtracking in order of preference. A pair of instruction and
position that has been tried once cannot lead to a match later, so each pair is tried at
most once, over all starting positions together; the work is bounded by the size of the
program times the length of the text.
-/

namespace PatternScan.Pattern

/-- A text to be searched: its characters, and the byte offset of each and of the end. -/
structure Subject where
  chars : Array Char
  offsets : Array Nat
  deriving Repr

namespace Subject

/-- The byte offsets of the characters from `offset` on, and of the end. -/
def offsetsFrom (offset : Nat) : List Char → List Nat
  | [] => [offset]
  | c :: cs => offset :: offsetsFrom (offset + c.utf8Size) cs

/-- The subject of a text. -/
def ofText (text : String) : Subject :=
  let cs := text.toList
  ⟨cs.toArray, (offsetsFrom 0 cs).toArray⟩

/-- The number of characters. -/
def size (s : Subject) : Nat := s.chars.size

/-- The character before a position. -/
def before? (s : Subject) (pos : Nat) : Option Char :=
  if pos = 0 then none else s.chars[pos - 1]?

/-- The character at a position. -/
def at? (s : Subject) (pos : Nat) : Option Char := s.chars[pos]?

/-- The byte offset of a position. -/
def byteOffset (s : Subject) (pos : Nat) : Nat := s.offsets[pos]?.getD 0

end Subject

/-- The character exists and belongs to a word. -/
def isWordAt (ascii : Bool) : Option Char → Bool
  | none => false
  | some c => if ascii then c.isAlphanum || c == '_' else Text.isWord c

/-- The condition holds at a position. -/
def Anchor.holds (s : Subject) (pos : Nat) : Anchor → Bool
  | textStart => pos == 0
  | textEnd => pos == s.size
  | lineStart => pos == 0 || s.before? pos == some '\n'
  | lineEnd => pos == s.size || s.at? pos == some '\n'
  | breakStart =>
      pos == 0 || s.before? pos == some '\n' ||
        (s.before? pos == some '\r' && s.at? pos != some '\n')
  | breakEnd =>
      pos == s.size || s.at? pos == some '\r' ||
        (s.at? pos == some '\n' && s.before? pos != some '\r')
  | wordBoundary ascii => isWordAt ascii (s.before? pos) != isWordAt ascii (s.at? pos)
  | notWordBoundary ascii => isWordAt ascii (s.before? pos) == isWordAt ascii (s.at? pos)
  | wordStart ascii => !isWordAt ascii (s.before? pos) && isWordAt ascii (s.at? pos)
  | wordEnd ascii => isWordAt ascii (s.before? pos) && !isWordAt ascii (s.at? pos)
  | wordStartHalf ascii => !isWordAt ascii (s.before? pos)
  | wordEndHalf ascii => !isWordAt ascii (s.at? pos)

/-- The positions noted so far, by slot. -/
abbrev Slots := Array (Option Nat)

/-- A way of matching that is still open: where the program stands, how far the text has
been taken, and what has been noted. -/
structure Thread where
  pc : Nat
  pos : Nat
  slots : Slots
  deriving Repr

/-- The ways that one instruction opens, the preferred one first. -/
def Thread.successors (s : Subject) (t : Thread) : Instruction → List Thread
  | .chars set next =>
      match s.at? t.pos with
      | some c => if set.contains c then [⟨next, t.pos + 1, t.slots⟩] else []
      | none => []
  | .anchor condition next =>
      if condition.holds s t.pos then [⟨next, t.pos, t.slots⟩] else []
  | .split a b => [⟨a, t.pos, t.slots⟩, ⟨b, t.pos, t.slots⟩]
  | .jump next => [⟨next, t.pos, t.slots⟩]
  | .save slot next => [⟨next, t.pos, t.slots.setIfInBounds slot (some t.pos)⟩]
  | .accept => []

/-- What a search found, if anything, and the pairs that have been tried. -/
structure SearchResult where
  slots : Option Slots
  tried : Array Bool

/-- Tries the open ways in order until one accepts. -/
def search (program : Array Instruction) (s : Subject) :
    Nat → List Thread → Array Bool → SearchResult
  | 0, _, tried => ⟨none, tried⟩
  | _ + 1, [], tried => ⟨none, tried⟩
  | fuel + 1, t :: rest, tried =>
      let key := t.pc * (s.size + 1) + t.pos
      if tried[key]?.getD true then search program s fuel rest tried
      else
        match program[t.pc]? with
        | none => search program s fuel rest tried
        | some .accept => ⟨some t.slots, tried⟩
        | some instruction =>
            search program s fuel (t.successors s instruction ++ rest)
              (tried.setIfInBounds key true)

/-- Tries the starting positions from `start` on, `left` of them. -/
def searchFrom (program : Array Instruction) (s : Subject) (fuel slotCount : Nat) :
    Nat → Nat → Array Bool → Option Slots
  | 0, _, _ => none
  | left + 1, start, tried =>
      let thread : Thread := ⟨0, start, Array.replicate slotCount none⟩
      match search program s fuel [thread] tried with
      | ⟨some slots, _⟩ => some slots
      | ⟨none, tried⟩ => searchFrom program s fuel slotCount left (start + 1) tried

/-- The slots of the first match of the program, the starting positions tried from left to
right. Each pair is expanded at most once and opens at most two ways, which bounds the
number of rounds. -/
def firstMatch (program : Array Instruction) (s : Subject) (slotCount : Nat) : Option Slots :=
  let pairs := program.size * (s.size + 1)
  searchFrom program s (2 * pairs + 2) slotCount (s.size + 1) 0 (Array.replicate pairs false)

end PatternScan.Pattern
