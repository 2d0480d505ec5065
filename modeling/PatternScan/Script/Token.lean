import PatternScan.Number.Integer
import PatternScan.Text.Word
import PatternScan.Color

/-!
# Tokens of a group name

A group name is split at the word *and* between underscores, in any case. Each token is
tried on its own as a colour, as a variable name and as an ordering index; tokens that
mean nothing are passed over. Case is ignored for unaccented letters; in these words no
other character folds onto one of theirs.
-/

namespace PatternScan.Script

open Text (lowerAscii isWord)
open Number (digitValue? readDigits? maxNat32)

/-- The rest of `cs` after `lead`, if it starts with `lead` in any case. -/
def stripLead? : List Char → List Char → Option (List Char)
  | [], cs => some cs
  | _ :: _, [] => none
  | l :: ls, c :: cs => if lowerAscii l == lowerAscii c then stripLead? ls cs else none

/-- The delimiter between the tokens of a group name. -/
def delimiter : List Char := ['_', 'a', 'n', 'd', '_']

/-- Cuts at every delimiter from the left; `piece` holds the characters read since the
last cut, last one first, and the first `skip` characters belong to a delimiter. -/
def splitFrom (piece : List Char) (skip : Nat) : List Char → List (List Char)
  | [] => [piece.reverse]
  | c :: cs =>
      match skip with
      | n + 1 => splitFrom piece n cs
      | 0 =>
          if (stripLead? delimiter (c :: cs)).isSome then
            piece.reverse :: splitFrom [] (delimiter.length - 1) cs
          else
            splitFrom (c :: piece) 0 cs

/-- The non-empty tokens of a group name, in order. -/
def tokens (name : String) : List (List Char) :=
  (splitFrom [] 0 name.toList).filter fun token => !token.isEmpty

/-- The first result that `read` gives on `cs` or on what is left of it further on. -/
def firstAt? {α : Type} (read : List Char → Option α) : List Char → Option α
  | [] => read []
  | c :: cs =>
      match read (c :: cs) with
      | some result => some result
      | none => firstAt? read cs

/-- A channel of one to three digits and what follows it. At most three digits are taken. -/
def readChannel? (cs : List Char) : Option (Nat × List Char) :=
  let digits := (cs.take 3).takeWhile fun c => (digitValue? c).isSome
  (readDigits? digits).map fun n => (n, cs.drop digits.length)

/-- The rest after an underscore. -/
def stripUnderscore? : List Char → Option (List Char)
  | '_' :: cs => some cs
  | _ => none

/-- A colour by its channels at the head of `cs`, and what follows it. -/
def readChannels? (cs : List Char) : Option (Color × List Char) := do
  let cs ← stripLead? ['r', 'g', 'b', '_'] cs
  let (red, cs) ← readChannel? cs
  let cs ← stripUnderscore? cs
  let (green, cs) ← readChannel? cs
  let cs ← stripUnderscore? cs
  let (blue, cs) ← readChannel? cs
  return (Color.clamped red green blue, cs)

/-- The colours that have a name. -/
def namedColors : List (String × Color) :=
  [("ok", ⟨0, 150, 0⟩), ("warning", ⟨150, 150, 0⟩), ("error", ⟨150, 0, 0⟩),
    ("black", ⟨0, 0, 0⟩), ("white", ⟨255, 255, 255⟩), ("red", ⟨255, 0, 0⟩),
    ("lime", ⟨0, 255, 0⟩), ("blue", ⟨0, 0, 255⟩), ("yellow", ⟨255, 255, 0⟩),
    ("snow", ⟨255, 250, 250⟩), ("dim_gray", ⟨105, 105, 105⟩), ("gray", ⟨128, 128, 128⟩),
    ("dark_gray", ⟨169, 169, 169⟩), ("silver", ⟨192, 192, 192⟩),
    ("light_gray", ⟨211, 211, 211⟩), ("gainsboro", ⟨220, 220, 220⟩),
    ("white_smoke", ⟨245, 245, 245⟩)]

/-- The lower-case form of a character as far as it matters for colour names: outside
ASCII only the Kelvin sign has an ASCII letter for its lower case. -/
def lowerForName (c : Char) : Char :=
  if c.toNat = 0x212A then 'k' else lowerAscii c

/-- The colour of a name, in any case. -/
def namedColor? (token : List Char) : Option Color :=
  namedColors.lookup (String.ofList (token.map lowerForName))

/-- The colour that a token asks for. A token that holds channels anywhere must end with
them and is not tried as a name. -/
def readColor? (token : List Char) : Option Color :=
  match firstAt? readChannels? token with
  | some (color, rest) => if rest.isEmpty then some color else none
  | none => namedColor? token

/-- A variable name at the head of `cs`: its word characters, at least one. -/
def readVariableHere? (cs : List Char) : Option (List Char) :=
  (stripLead? ['v', 'a', 'r', '_'] cs).bind fun rest =>
    let name := rest.takeWhile isWord
    if name.isEmpty then none else some name

/-- The variable name that a token introduces, at its first place. -/
def readVariable? (token : List Char) : Option String :=
  (firstAt? readVariableHere? token).map String.ofList

/-- The ordering index that a token gives: digits after the mark and at most one
underscore, in the range of 32 bits. -/
def readOrdering? (token : List Char) : Option Nat :=
  (stripLead? ['g', 'v', 'i'] token).bind fun rest =>
    (readDigits? ((stripUnderscore? rest).getD rest)).filter (· ≤ maxNat32)

/-- The ordering index of a group name: that of its first token that gives one. -/
def orderingIndex? (name : String) : Option Nat := (tokens name).findSome? readOrdering?

end PatternScan.Script
