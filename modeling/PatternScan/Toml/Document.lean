import PatternScan.Toml.Scalar

/-!
# Reading a TOML document

A document is read line by line: a line is empty, a header, or a key with its value, and
may end with a comment. Any fault makes the whole document unreadable.
-/

namespace PatternScan.Toml

/-- Skips blanks, line breaks and comments. A comment must end with a line break. -/
def skipTrivia : Bool → List Char → List Char
  | _, '\r' :: '\n' :: rest => skipTrivia false rest
  | _, '\n' :: rest => skipTrivia false rest
  | true, c :: rest => if isPrintable c then skipTrivia true rest else c :: rest
  | false, '#' :: rest => skipTrivia true rest
  | false, c :: rest => if isSpace c then skipTrivia false rest else c :: rest
  | _, [] => []

/-- What follows the end of a line that holds nothing more but a comment. -/
def endLine? (cs : List Char) : Option (List Char) :=
  let rest := match skipSpaces cs with
    | '#' :: rest => rest.dropWhile isPrintable
    | rest => rest
  if rest.isEmpty then some [] else newline? rest

/-! ## Keys -/

/-- A character of a key without quotes. -/
def isBare (c : Char) : Bool :=
  ('a' ≤ c && c ≤ 'z') || ('A' ≤ c && c ≤ 'Z') || ('0' ≤ c && c ≤ '9') || c == '-' || c == '_'

/-- One part of a key. -/
def readKeyPart : Reader String := fun cs =>
  match cs with
  | '"' :: rest => (readBasic rest).map fun (key, rest) => (String.ofList key, rest)
  | '\'' :: rest => (readLiteral rest).map fun (key, rest) => (String.ofList key, rest)
  | _ =>
      let (key, rest) := cs.span isBare
      if key.isEmpty then none else some (String.ofList key, rest)

/-- The parts of a key between points, with blanks around them. -/
def readKeyParts : Nat → Reader (List String)
  | 0, _ => none
  | fuel + 1, cs =>
      (readKeyPart (skipSpaces cs)).bind fun (key, rest) =>
        match skipSpaces rest with
        | '.' :: rest => (readKeyParts fuel rest).map fun (keys, rest) => (key :: keys, rest)
        | rest => some ([key], rest)

/-- The greatest depth of values in values, and the greatest number of parts of a key. -/
def maxDepth : Nat := 80

/-- A key of one or more parts, and the blanks behind it. -/
def readKey : Reader (List String) := fun cs =>
  (readKeyParts (cs.length + 1) cs).filter fun (keys, _) => keys.length < maxDepth

/-! ## Values -/

/-- What a bracket of a list stands before. -/
inductive ListPart where
  /-- The first item or the closing bracket. -/
  | opening
  /-- An item or, in an array, the closing bracket. -/
  | item
  /-- A comma or the closing bracket. -/
  | separator
  deriving DecidableEq, Repr

mutual

/-- A value at a depth. Of two calls in a row one consumes a character, so twice the length of
the input bounds their number. -/
def readValue : Nat → Nat → Reader Node
  | 0, _, _ => none
  | fuel + 1, depth, cs =>
      match cs with
      | '[' :: rest =>
          if depth + 1 < maxDepth then
            (readItems fuel (depth + 1) .opening rest).map fun (items, rest) =>
              (.array items, rest)
          else none
      | '\x7b' :: rest =>
          if depth + 1 < maxDepth then
            (readPairs fuel (depth + 1) .opening [] rest).map fun (entries, rest) =>
              (.inline entries, rest)
          else none
      | 't' :: _ => (literal? "true".toList cs).map fun rest => (.boolean true, rest)
      | 'f' :: _ => (literal? "false".toList cs).map fun rest => (.boolean false, rest)
      | '"' :: _ => (readText cs).map fun (text, rest) => (.text text, rest)
      | '\'' :: _ => (readText cs).map fun (text, rest) => (.text text, rest)
      | _ => readNumber cs

/-- The items of an array up to the closing bracket. -/
def readItems : Nat → Nat → ListPart → Reader (List Node)
  | 0, _, _, _ => none
  | fuel + 1, depth, part, cs =>
      match part, skipTrivia false cs with
      | _, ']' :: rest => some ([], rest)
      | .separator, ',' :: rest => readItems fuel depth .item rest
      | .separator, _ => none
      | _, cs =>
          (readValue fuel depth cs).bind fun (item, rest) =>
            (readItems fuel depth .separator rest).map fun (items, rest) => (item :: items, rest)

/-- The pairs of an inline table up to the closing brace, added to those read before. -/
def readPairs : Nat → Nat → ListPart → Entries → Reader Entries
  | 0, _, _, _, _ => none
  | fuel + 1, depth, part, entries, cs =>
      match part, skipSpaces cs with
      | .opening, '\x7d' :: rest => some (entries, rest)
      | .separator, '\x7d' :: rest => some (entries, rest)
      | .separator, ',' :: rest => readPairs fuel depth .item entries rest
      | .separator, _ => none
      | _, cs =>
          (readKey cs).bind fun (keys, rest) =>
            match rest with
            | '=' :: rest =>
                (readValue fuel depth (skipSpaces rest)).bind fun (value, rest) =>
                  (Entries.bind? value true entries keys).bind fun entries =>
                    readPairs fuel depth .separator entries rest
            | _ => none

end

/-! ## Lines -/

/-- A document as far as it was read: its tables, and the way to the one that takes keys. -/
structure Draft where
  root : Entries
  way : List String
  deriving Repr, Inhabited

/-- A header behind its opening brackets. -/
def readHeader (draft : Draft) (row : Bool) (cs : List Char) : Option (Draft × List Char) := do
  let (way, rest) ← readKey cs
  let rest ← literal? (if row then [']', ']'] else [']']) rest
  let rest ← endLine? rest
  let root ← draft.root.openTable? row way
  return (⟨root, way⟩, rest)

/-- A key and its value. -/
def readPair (draft : Draft) (cs : List Char) : Option (Draft × List Char) := do
  let (keys, rest) ← readKey cs
  let rest ← literal? ['='] rest
  let (value, rest) ← readValue (2 * rest.length + 2) 0 (skipSpaces rest)
  let rest ← endLine? rest
  let root ← draft.root.reach? (fun entries => entries.bind? value true keys) draft.way
  return (⟨root, draft.way⟩, rest)

/-- One line. -/
def readLine (draft : Draft) (cs : List Char) : Option (Draft × List Char) :=
  match skipSpaces cs with
  | '[' :: '[' :: rest => readHeader draft true rest
  | '[' :: rest => readHeader draft false rest
  | '#' :: rest => (endLine? ('#' :: rest)).map fun rest => (draft, rest)
  | rest =>
      match newline? rest with
      | some rest => some (draft, rest)
      | none => if rest.isEmpty then some (draft, []) else readPair draft rest

/-- All lines; each but the last has at least one character. -/
def readLines : Nat → Draft → List Char → Option Draft
  | 0, draft, cs => if cs.isEmpty then some draft else none
  | fuel + 1, draft, cs =>
      if cs.isEmpty then some draft
      else (readLine draft cs).bind fun (draft, rest) => readLines fuel draft rest

/-- The tables of a document. A mark of the byte order at the start is passed over. -/
def read? (text : String) : Option Entries :=
  let cs := match text.toList with
    | '\uFEFF' :: rest => rest
    | cs => cs
  (readLines cs.length ⟨[], []⟩ cs).map Draft.root

end PatternScan.Toml
