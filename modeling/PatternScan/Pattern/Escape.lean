import PatternScan.Pattern.Outline
import PatternScan.Text.Blank

/-!
# Escapes and blanks of the pattern syntax

Positions count the characters of the pattern. In verbose mode blanks and comments may
stand between most characters and are passed over.
-/

namespace PatternScan.Pattern

/-- The characters of a pattern. -/
abbrev Source := Array Char

/-- What a reader found, and the position after it. -/
structure Found (α : Type) where
  value : α
  stop : Nat
  deriving Repr

/-- A fault at an extent of the pattern. -/
def fail {α : Type} (kind : FaultKind) (start stop : Nat) : Except Fault α :=
  .error ⟨kind, ⟨start, stop⟩, none⟩

namespace Source

/-- No character is left at the position. -/
def atEnd (src : Source) (pos : Nat) : Bool := src.size ≤ pos

/-- The character at the position is the given one. -/
def isAt (src : Source) (pos : Nat) (c : Char) : Bool := src[pos]? == some c

/-- The characters at the position are the given ones. -/
def startsAt (src : Source) (pos : Nat) (cs : String) : Bool :=
  cs.toList.zipIdx.all fun (c, i) => src.isAt (pos + i) c

/-- Passes over blanks and comments; `inComment` says that a comment is open. -/
def skipFrom (src : Source) (pos : Nat) (inComment : Bool) : Nat :=
  if h : pos < src.size then
    let c := src[pos]
    if inComment then skipFrom src (pos + 1) (c != '\n')
    else if Text.isBlank c then skipFrom src (pos + 1) false
    else if c == '#' then skipFrom src (pos + 1) true
    else pos
  else
    pos
termination_by src.size - pos

/-- The first position from `pos` on that is neither blank nor comment, in verbose mode. -/
def skip (src : Source) (verbose : Bool) (pos : Nat) : Nat :=
  if verbose then src.skipFrom pos false else pos

/-- The first position from `pos` on whose character fails the test. -/
def skipWhile (src : Source) (test : Char → Bool) (pos : Nat) : Nat :=
  if h : pos < src.size then
    if test src[pos] then skipWhile src test (pos + 1) else pos
  else
    pos
termination_by src.size - pos

/-- The characters from `start` up to `stop`, the latter excluded. -/
def between (src : Source) (start stop : Nat) : List Char := (src.extract start stop).toList

end Source

/-- The characters that have a meaning of their own in the syntax. -/
def metaChars : List Char := "\\.+*?()|[]\x7b\x7d^$#&-~".toList

/-- The character may follow a backslash to stand for itself. -/
def isEscapable (c : Char) : Bool :=
  metaChars.contains c ||
    (c.toNat < 128 && !c.isAlphanum && c != '<' && c != '>')

/-- The value of a hexadecimal digit. -/
def hexValue? (c : Char) : Option Nat :=
  if '0' ≤ c && c ≤ '9' then some (c.toNat - 48)
  else if 'a' ≤ c && c ≤ 'f' then some (c.toNat - 87)
  else if 'A' ≤ c && c ≤ 'F' then some (c.toNat - 55)
  else none

/-- The character of a code point, unless the code point is none. -/
def charOfCode? (code : Nat) : Option Char :=
  if code.isValidChar then some (Char.ofNat code) else none

/-- A fixed number of hexadecimal digits; `start` is where the first stood. -/
def readHexDigits (src : Source) (verbose : Bool) (start : Nat) :
    Nat → Nat → Nat → Except Fault (Found Char)
  | 0, code, pos =>
      match charOfCode? code with
      | some c => .ok ⟨c, pos⟩
      | none => fail .hexInvalid start pos
  | left + 1, code, pos =>
      match src[pos]? with
      | none => fail .escapeUnexpectedEnd pos pos
      | some c =>
          match hexValue? c with
          | none => fail .hexInvalidDigit pos (pos + 1)
          | some d =>
              readHexDigits src verbose start left (code * 16 + d) (src.skip verbose (pos + 1))

/-- Hexadecimal digits up to a closing brace; `brace` is where the opening one stood, and
`digits` tells whether one has been read. -/
def readHexBrace (src : Source) (verbose : Bool) (brace code : Nat) (digits : Bool) :
    Nat → Nat → Except Fault (Found Char)
  | 0, pos => fail .escapeUnexpectedEnd brace pos
  | fuel + 1, pos =>
      match src[pos]? with
      | none => fail .escapeUnexpectedEnd brace pos
      | some '}' =>
          let stop := src.skip verbose (pos + 1)
          if !digits then fail .hexEmpty brace stop
          else match charOfCode? code with
            | some c => .ok ⟨c, stop⟩
            | none => fail .hexInvalid (brace + 1) pos
      | some c =>
          match hexValue? c with
          | none => fail .hexInvalidDigit pos (pos + 1)
          | some d =>
              readHexBrace src verbose brace (code * 16 + d) true fuel (src.skip verbose (pos + 1))

/-- A character by its code, `letter` being the position of the letter after the
backslash. -/
def readHex (src : Source) (verbose : Bool) (letter digits : Nat) : Except Fault (Found Char) :=
  let pos := src.skip verbose (letter + 1)
  match src[pos]? with
  | none => fail .escapeUnexpectedEnd pos pos
  | some '{' => readHexBrace src verbose pos 0 false (src.size + 1) (src.skip verbose (pos + 1))
  | some _ => readHexDigits src verbose pos digits 0 pos

/-- The set that a letter stands for after a backslash, and whether it is negated. -/
def letterSet? : Char → Option (EscapedSet × Bool)
  | 'd' => some (.digits, false)
  | 'D' => some (.digits, true)
  | 's' => some (.blanks, false)
  | 'S' => some (.blanks, true)
  | 'w' => some (.wordChars, false)
  | 'W' => some (.wordChars, true)
  | _ => none

/-- The control character that a letter stands for after a backslash. -/
def letterControl? : Char → Option Char
  | 'a' => some '\x07'
  | 'f' => some '\x0c'
  | 't' => some '\t'
  | 'n' => some '\n'
  | 'r' => some '\r'
  | 'v' => some '\x0b'
  | _ => none

/-- The name of a kind of word boundary may hold the character. -/
def isBoundaryNameChar (c : Char) : Bool := c.isAlpha || c == '-'

/-- The anchor of a named kind of word boundary. -/
def namedBoundary? : String → Option AnchorSign
  | "start" => some .wordStart
  | "end" => some .wordEnd
  | "start-half" => some .wordStartHalf
  | "end-half" => some .wordEndHalf
  | _ => none

/-- Reads the name of a kind of word boundary. -/
def readBoundaryName (src : Source) (verbose : Bool) (name : List Char) :
    Nat → Nat → List Char × Nat
  | 0, pos => (name.reverse, pos)
  | fuel + 1, pos =>
      match src[pos]? with
      | some c =>
          if isBoundaryNameChar c then
            readBoundaryName src verbose (c :: name) fuel (src.skip verbose (pos + 1))
          else (name.reverse, pos)
      | none => (name.reverse, pos)

/-- The word boundary whose escape starts at `start`, the position after its letter being
`pos`. A brace that does not open a name is left for a repetition. -/
def readWordBoundary (src : Source) (verbose : Bool) (start pos : Nat) :
    Except Fault (Found AnchorSign) :=
  let plain : Except Fault (Found AnchorSign) := .ok ⟨.wordBoundary, pos⟩
  if src.isAt pos '{' then
    let inside := src.skip verbose (pos + 1)
    match src[inside]? with
    | none => fail .wordBoundaryUnexpectedEnd start inside
    | some c =>
        if isBoundaryNameChar c then
          let (name, stop) := readBoundaryName src verbose [] (src.size + 1) inside
          if src.isAt stop '}' then
            match namedBoundary? (String.ofList name) with
            | some a => .ok ⟨a, stop + 1⟩
            | none => fail .wordBoundaryUnrecognized inside stop
          else fail .wordBoundaryUnclosed pos stop
        else plain
  else plain

/-- The characters up to a closing brace, those read so far last one first. -/
def readBraced (src : Source) (verbose : Bool) (cs : List Char) :
    Nat → Nat → Except Fault (Found (List Char))
  | 0, pos => fail .escapeUnexpectedEnd pos pos
  | fuel + 1, pos =>
      match src[pos]? with
      | none => fail .escapeUnexpectedEnd pos pos
      | some '}' => .ok ⟨cs.reverse, pos + 1⟩
      | some c => readBraced src verbose (c :: cs) fuel (src.skip verbose (pos + 1))

/-- The characters before and after the first one of a kind. -/
def splitAtFirst? (cs : List Char) (mark : Char) : Option (List Char × List Char) :=
  match cs.span (· != mark) with
  | (_, []) => none
  | (before, _ :: after) => some (before, after)

/-- The characters before and after the first `!=`. -/
def splitAtUnequal? : List Char → Option (List Char × List Char)
  | '!' :: '=' :: after => some ([], after)
  | c :: rest => (splitAtUnequal? rest).map fun (before, after) => (c :: before, after)
  | [] => none

/-- The question about a property that stands in braces. -/
def bracedQuery (cs : List Char) : Unicode.Query :=
  match (splitAtUnequal? cs <|> splitAtFirst? cs ':') <|> splitAtFirst? cs '=' with
  | some (property, value) => .valued (String.ofList property) (String.ofList value)
  | none => .named (String.ofList cs)

/-- The question about a property whose letter, `p` or `P`, stands at `letter`: a name of
one character, or one in braces. -/
def readQuery (src : Source) (verbose : Bool) (letter : Nat) :
    Except Fault (Found Unicode.Query) :=
  let pos := src.skip verbose (letter + 1)
  match src[pos]? with
  | none => fail .escapeUnexpectedEnd pos pos
  | some '{' => do
      let found ← readBraced src verbose [] (src.size + 1) (src.skip verbose (pos + 1))
      return ⟨bracedQuery found.value, found.stop⟩
  | some '\\' => fail .propertyClassInvalid pos (pos + 1)
  | some c => .ok ⟨.named (String.singleton c), src.skip verbose (pos + 1)⟩

/-- An escape of one letter or sign after the backslash at `start`. -/
def readSimpleEscape (src : Source) (verbose : Bool) (start : Nat) (c : Char) :
    Except Fault (Found Item) :=
  let stop := start + 2
  let anchored (sign : AnchorSign) : Except Fault (Found Item) := .ok ⟨.anchor sign, stop⟩
  match letterControl? c, c with
  | some control, _ => .ok ⟨.literal ⟨control, false⟩, stop⟩
  | none, 'A' => anchored .textStart
  | none, 'z' => anchored .textEnd
  | none, 'b' => do
      let found ← readWordBoundary src verbose start stop
      return ⟨.anchor found.value, found.stop⟩
  | none, 'B' => anchored .notWordBoundary
  | none, '<' => anchored .wordStart
  | none, '>' => anchored .wordEnd
  | none, c =>
      if isEscapable c then .ok ⟨.literal ⟨c, false⟩, stop⟩
      else fail .escapeUnrecognized start stop

/-- The escape of a character by its code, the backslash at `start`. Two digits without
braces after `x` may be meant as a byte. -/
def readCodeEscape (src : Source) (verbose : Bool) (start digits : Nat) :
    Except Fault (Found Item) := do
  let found ← readHex src verbose (start + 1) digits
  let braced := src.isAt (src.skip verbose (start + 2)) '{'
  return ⟨.literal ⟨found.value, digits == 2 && !braced⟩, found.stop⟩

/-- The escape whose backslash stands at `start`. -/
def readEscape (src : Source) (verbose : Bool) (start : Nat) : Except Fault (Found Item) :=
  match src[start + 1]? with
  | none => fail .escapeUnexpectedEnd start (start + 1)
  | some c =>
      if c.isDigit then fail .backreference start (start + 2)
      else match letterSet? c with
        | some (set, negated) => .ok ⟨.escapedSet set negated, start + 2⟩
        | none =>
            match c with
            | 'x' => readCodeEscape src verbose start 2
            | 'u' => readCodeEscape src verbose start 4
            | 'U' => readCodeEscape src verbose start 8
            | 'p' | 'P' => do
                let found ← readQuery src verbose (start + 1)
                return ⟨.escapedSet (.property found.value) (c == 'P'), found.stop⟩
            | c => readSimpleEscape src verbose start c

end PatternScan.Pattern
