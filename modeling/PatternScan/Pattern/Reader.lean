import PatternScan.Pattern.Bracket
import PatternScan.Number.Integer
import PatternScan.Text.Word

/-!
# Reading patterns

A pattern is read from left to right into its outline. Open groups are kept on a stack;
each holds what was read before it and whether blanks were passed over there. A fault
stops the reading at once.
-/

namespace PatternScan.Pattern

/-- The alternatives of a group that are complete and the one being read, last parts
first. -/
structure Level where
  /-- Where the first alternative begins. -/
  start : Nat
  branches : List Outline
  /-- Where the alternative being read begins. -/
  branchStart : Nat
  parts : List Outline
  deriving Repr, Inhabited

namespace Level

/-- Nothing has been read yet of what begins at `start`. -/
def startingAt (start : Nat) : Level := ⟨start, [], start, []⟩

/-- The alternative being read, which stops at `stop`. -/
def current (level : Level) (stop : Nat) : Outline :=
  match level.parts with
  | [] => .nothing ⟨level.branchStart, stop⟩
  | [part] => part
  | parts => .sequence parts.reverse ⟨level.branchStart, stop⟩

/-- The level with one more part. -/
def add (level : Level) (part : Outline) : Level := { level with parts := part :: level.parts }

/-- Begins another alternative after the sign at `pos`. -/
def alternate (level : Level) (pos : Nat) : Level :=
  ⟨level.start, level.current pos :: level.branches, pos + 1, []⟩

/-- The alternatives put together, the last of which stops at `stop`. -/
def close (level : Level) (stop : Nat) : Outline :=
  match level.branches with
  | [] => level.current stop
  | branches => .choice (level.current stop :: branches).reverse ⟨level.start, stop⟩

end Level

/-- A group that is still open. -/
structure OpenGroup where
  /-- Where its parenthesis stands. -/
  start : Nat
  opening : GroupOpening
  /-- Blanks are passed over after it. -/
  verbose : Bool
  level : Level
  deriving Repr

/-- The name of a group and where it is written. -/
structure GroupName where
  group : Nat
  name : String
  extent : Extent
  deriving DecidableEq, Repr

/-- How far the reading of a pattern has come. -/
structure Reading where
  verbose : Bool
  level : Level
  outer : List OpenGroup
  groupCount : Nat
  names : List GroupName
  deriving Repr

/-- The reading at the start of a pattern. -/
def Reading.start : Reading := ⟨false, .startingAt 0, [], 0, []⟩

namespace Reading

/-- The reading with one more part of the alternative being read. -/
def add (r : Reading) (part : Outline) : Reading := { r with level := r.level.add part }

/-- Opens a group at `start`, which begins inside at `pos`. -/
def openGroup (r : Reading) (start pos : Nat) (opening : GroupOpening) (verbose : Bool) :
    Reading :=
  { r with
    verbose
    level := .startingAt pos
    outer := ⟨start, opening, r.verbose, r.level⟩ :: r.outer }

/-- The number of the next capturing group. -/
def nextGroup (r : Reading) : Nat := r.groupCount + 1

/-- Closes the innermost group at the parenthesis that stands at `pos`. -/
def closeGroup (r : Reading) (pos : Nat) : Except Fault Reading :=
  match r.outer with
  | [] => fail .groupUnopened pos (pos + 1)
  | g :: outer =>
      let closed := Outline.group g.opening (r.level.close pos) ⟨g.start, pos + 1⟩
      .ok { r with verbose := g.verbose, level := g.level.add closed, outer := outer }

/-- Takes the last part away to repeat it; flags and nothing at all cannot be repeated. -/
def takePart (r : Reading) (pos : Nat) : Except Fault (Outline × Reading) :=
  match r.level.parts with
  | part :: parts =>
      if part.isRepeatable then .ok (part, { r with level := { r.level with parts := parts } })
      else fail .repetitionMissing pos pos
  | [] => fail .repetitionMissing pos pos

/-- Puts a repetition that stops at `stop` in place of the last part. -/
def addRepetition (r : Reading) (part : Outline) (least : Nat) (most : Option Nat)
    (greedy : Bool) (stop : Nat) : Reading :=
  r.add (.repetition part least most greedy ⟨part.extent.start, stop⟩)

end Reading

/-- A repetition by a sign at `pos`, which a question mark after it turns around. -/
def readSign (src : Source) (r : Reading) (pos : Nat) (least : Nat) (most : Option Nat) :
    Except Fault (Found Reading) := do
  let (part, rest) ← r.takePart pos
  let lazy := src.isAt (pos + 1) '?'
  let stop := if lazy then pos + 2 else pos + 1
  return ⟨rest.addRepetition part least most (!lazy) stop, stop⟩

/-- Digits of a count; blanks may stand between them in verbose mode. -/
def readCountDigits (src : Source) (verbose : Bool) (digits : List Char) :
    Nat → Nat → List Char × Nat
  | 0, pos => (digits.reverse, pos)
  | fuel + 1, pos =>
      match src[pos]? with
      | some c =>
          if c.isDigit then
            readCountDigits src verbose (c :: digits) fuel (src.skip verbose (pos + 1))
          else (digits.reverse, pos)
      | none => (digits.reverse, pos)

/-- A count of a repetition, with the position after it and the blanks around it. A fault
is only reported by the reader that needs the count. -/
def readCount (src : Source) (verbose : Bool) (pos : Nat) : Except Fault Nat × Nat :=
  let start := src.skipWhile Text.isBlank pos
  let (digits, stop) := readCountDigits src verbose [] (src.size + 1) start
  let after := src.skipWhile Text.isBlank stop
  let count := match Number.readDigits? digits with
    | none => fail .repetitionCountDecimalEmpty start stop
    | some n => if n ≤ Number.maxNat32 then .ok n else fail .decimalInvalid start stop
  (count, after)

/-- The counts inside the braces, the opening one at `start`, and the position of the
closing brace. -/
def readCounts (src : Source) (verbose : Bool) (start : Nat) :
    Except Fault (Found (Nat × Option Nat)) := do
  let first := src.skip verbose (start + 1)
  if src.atEnd first then
    fail .repetitionCountUnclosed start first
  else
    let (least, after) := readCount src verbose first
    if src.atEnd after then
      fail .repetitionCountUnclosed start after
    else if !src.isAt after ',' then
      let n ← least
      if src.isAt after '}' then return ⟨(n, some n), after⟩
      else fail .repetitionCountUnclosed start after
    else
      let second := src.skip verbose (after + 1)
      if src.atEnd second then
        fail .repetitionCountUnclosed start second
      else if src.isAt second '}' then
        let n ← least
        return ⟨(n, none), second⟩
      else
        let n ← least
        let (most, stop) := readCount src verbose second
        let m ← most
        if src.isAt stop '}' then return ⟨(n, some m), stop⟩
        else fail .repetitionCountUnclosed start stop

/-- A repetition by counts in braces, the opening one at `pos`. -/
def readBraces (src : Source) (r : Reading) (pos : Nat) : Except Fault (Found Reading) := do
  let (part, rest) ← r.takePart pos
  let counts ← readCounts src r.verbose pos
  let after := src.skip r.verbose (counts.stop + 1)
  let lazy := src.isAt after '?'
  let stop := if lazy then after + 1 else after
  let (least, most) := counts.value
  if most.any (· < least) then
    fail .repetitionCountInvalid pos stop
  else
    return ⟨rest.addRepetition part least most (!lazy) stop, stop⟩

/-- The character may stand in the name of a group. -/
def isNameChar (c : Char) (isFirst : Bool) : Bool :=
  if isFirst then c == '_' || Text.isAlphabetic c
  else c == '_' || c == '.' || c == '[' || c == ']' || Text.isAlphanumeric c

/-- Reads a group's name from `start` on up to its closing angle bracket. -/
def readGroupName (src : Source) (start : Nat) : Nat → Nat → Except Fault (Found String)
  | 0, pos => fail .groupNameUnexpectedEnd pos pos
  | fuel + 1, pos =>
      match src[pos]? with
      | none => fail .groupNameUnexpectedEnd pos pos
      | some c =>
          if c == '>' then
            if pos = start then fail .groupNameEmpty start start
            else .ok ⟨String.ofList (src.between start pos), pos + 1⟩
          else if isNameChar c (pos = start) then readGroupName src start fuel (pos + 1)
          else fail .groupNameInvalid pos (pos + 1)

/-- Opens a group with a name; `start` is where its parenthesis stands, `pos` where the
name does. A name may be used only once. -/
def openNamed (src : Source) (r : Reading) (start pos : Nat) : Except Fault (Found Reading) := do
  let found ← readGroupName src pos (src.size + 1) pos
  let group := r.nextGroup
  let name : GroupName := ⟨group, found.value, ⟨pos, found.stop - 1⟩⟩
  match r.names.find? fun n => n.name == name.name with
  | some earlier => .error ⟨.groupNameDuplicate, name.extent, some earlier.extent⟩
  | none =>
      let opened := r.openGroup start found.stop (.capturing group) r.verbose
      return ⟨{ opened with groupCount := group, names := r.names ++ [name] }, found.stop⟩

/-- The letters that name flags. -/
def flagLetters : List Char := ['i', 'm', 's', 'U', 'u', 'R', 'x']

/-- Reads flags up to the colon or parenthesis that ends them; `items` holds those read
so far, last one first. -/
def readFlags (src : Source) (items : List FlagItem) :
    Nat → Nat → Except Fault (Found (List FlagItem))
  | 0, pos => fail .flagUnexpectedEnd pos pos
  | fuel + 1, pos =>
      match src[pos]? with
      | none => fail .flagUnexpectedEnd pos pos
      | some c =>
          if c == ':' || c == ')' then
            match items with
            | ⟨'-', last⟩ :: _ => fail .flagDanglingNegation last (last + 1)
            | _ => .ok ⟨items.reverse, pos⟩
          else if c != '-' && !flagLetters.contains c then
            fail .flagUnrecognized pos (pos + 1)
          else
            match items.find? fun item => item.letter == c with
            | some earlier =>
                let kind : FaultKind := if c == '-' then .flagRepeatedNegation else .flagDuplicate
                .error ⟨kind, ⟨pos, pos + 1⟩, some ⟨earlier.pos, earlier.pos + 1⟩⟩
            | none =>
                if src.atEnd (pos + 1) then fail .flagUnexpectedEnd (pos + 1) (pos + 1)
                else readFlags src (⟨c, pos⟩ :: items) fuel (pos + 1)

/-- Whether a list of flags switches a flag on or off, if it does either. Flags after a
minus sign are switched off. -/
def switched? (items : List FlagItem) (letter : Char) : Option Bool :=
  let (on, off) := items.span fun item => item.letter != '-'
  if on.any fun item => item.letter == letter then some true
  else if off.any fun item => item.letter == letter then some false
  else none

/-- What follows a parenthesis at `start` and a question mark at `pos`: flags for the
rest of the group, or a group with flags of its own. -/
def openFlagged (src : Source) (r : Reading) (start pos : Nat) : Except Fault (Found Reading) := do
  if src.atEnd (pos + 1) then
    fail .groupUnclosed start (start + 1)
  else
    let found ← readFlags src [] (src.size + 1) (pos + 1)
    let verbose := (switched? found.value 'x').getD r.verbose
    let stop := found.stop + 1
    if src.isAt found.stop ':' then
      return ⟨r.openGroup start stop (.flagged found.value) verbose, stop⟩
    else if found.value.isEmpty then
      fail .repetitionMissing pos pos
    else
      return ⟨{ r.add (.flags found.value ⟨start, stop⟩) with verbose }, stop⟩

/-- What the parenthesis at `start` opens. -/
def readOpening (src : Source) (r : Reading) (start : Nat) : Except Fault (Found Reading) :=
  let pos := src.skip r.verbose (start + 1)
  if src.startsAt pos "?=" || src.startsAt pos "?!" then fail .lookAround start (pos + 2)
  else if src.startsAt pos "?<=" || src.startsAt pos "?<!" then fail .lookAround start (pos + 3)
  else if src.startsAt pos "?P<" then openNamed src r start (pos + 3)
  else if src.startsAt pos "?<" then openNamed src r start (pos + 2)
  else if src.isAt pos '?' then openFlagged src r start pos
  else
    let group := r.nextGroup
    let opened := r.openGroup start pos (.capturing group) r.verbose
    .ok ⟨{ opened with groupCount := group }, pos⟩

/-- One character or escape outside classes. -/
def readItem (src : Source) (r : Reading) (pos : Nat) (c : Char) :
    Except Fault (Found Reading) :=
  let stop := pos + 1
  match c with
  | '.' => .ok ⟨r.add (.dot ⟨pos, stop⟩), stop⟩
  | '^' => .ok ⟨r.add (.item (.anchor .caret) ⟨pos, stop⟩), stop⟩
  | '$' => .ok ⟨r.add (.item (.anchor .dollar) ⟨pos, stop⟩), stop⟩
  | '\\' => do
      let found ← readEscape src r.verbose pos
      return ⟨r.add (.item found.value ⟨pos, found.stop⟩), found.stop⟩
  | c => .ok ⟨r.add (.item (.literal ⟨c, false⟩) ⟨pos, stop⟩), stop⟩

/-- One step of the reading, from the character at `pos` on. -/
def readStep (src : Source) (r : Reading) (pos : Nat) (c : Char) :
    Except Fault (Found Reading) :=
  match c with
  | '(' => readOpening src r pos
  | ')' => do
      let closed ← r.closeGroup pos
      return ⟨closed, pos + 1⟩
  | '|' => .ok ⟨{ r with level := r.level.alternate pos }, pos + 1⟩
  | '[' => do
      let found ← readClass src r.verbose pos
      return ⟨r.add (.bracket found.value), found.stop⟩
  | '?' => readSign src r pos 0 (some 1)
  | '*' => readSign src r pos 0 none
  | '+' => readSign src r pos 1 none
  | '{' => readBraces src r pos
  | c => readItem src r pos c

/-- Reads on from `pos`. Every step takes at least one character, so the length of the
pattern bounds their number. -/
def readFrom (src : Source) : Nat → Reading → Nat → Except Fault (Found Reading)
  | 0, r, pos => .ok ⟨r, pos⟩
  | fuel + 1, r, pos => do
      let pos := src.skip r.verbose pos
      match src[pos]? with
      | none => return ⟨r, pos⟩
      | some c =>
          let found ← readStep src r pos c
          readFrom src fuel found.value found.stop

/-- A pattern as read: its outline and the names of its groups. -/
structure Parsed where
  outline : Outline
  names : List GroupName
  deriving Repr

/-- Reads a whole pattern. All groups must be closed at its end. -/
def parse (source : String) : Except Fault Parsed := do
  let src : Source := source.toList.toArray
  let found ← readFrom src (src.size + 1) .start 0
  match found.value.outer with
  | g :: _ => fail .groupUnclosed g.start (g.start + 1)
  | [] => return ⟨found.value.level.close found.stop, found.value.names⟩

end PatternScan.Pattern
