import PatternScan.Pattern.CharSet

/-!
# Named sets of characters

Tables of characters are written as lines of text: numbers of characters in hexadecimal,
`first-last` for a range, `first-last/step` for every `step`-th character of a range, blanks
between.
-/

namespace PatternScan.Unicode

open Pattern (CharSet)

/-- A number in hexadecimal with capital letters. -/
def readHex (text : String) : Nat :=
  text.toList.foldl (fun n c => 16 * n + (c.toNat - (if c.isDigit then 48 else 55))) 0

/-- The characters `first`, `first + step` and so on up to `last`. -/
def every (step first last : Nat) : List (Nat × Nat) :=
  (List.range ((last - first) / step + 1)).map fun i => (first + i * step, first + i * step)

/-- A range as it is written in a table. -/
def readRange (word : String) : List (Nat × Nat) :=
  match (word.splitOn "/").map fun part => (part.splitOn "-").map readHex with
  | [[code]] => [(code, code)]
  | [[first, last]] => [(first, last)]
  | [[first, last], [step]] => every step first last
  | _ => []

/-- The ranges in the lines of a table. -/
def readRanges (lines : List String) : List (Nat × Nat) :=
  lines.flatMap fun line => (line.splitOn " ").flatMap readRange

/-- A set of characters: the names it goes by, in small letters and without blanks, and its
ranges as lines of text. -/
structure NamedRanges where
  names : List String
  lines : List String
  deriving DecidableEq, Repr

namespace NamedRanges

/-- The characters of the set. -/
def set (entry : NamedRanges) : CharSet := .ofRanges (readRanges entry.lines)

/-- The set of a name. -/
def find? (entries : List NamedRanges) (name : String) : Option NamedRanges :=
  entries.find? fun entry => entry.names.contains name

end NamedRanges

end PatternScan.Unicode
