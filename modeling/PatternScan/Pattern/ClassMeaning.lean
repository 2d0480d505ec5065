import PatternScan.Pattern.Outline
import PatternScan.Text.Blank
import PatternScan.Text.Word

/-!
# What classes stand for

A class stands for a set of characters, which depends on the flags in force. Case is
worked in before a set is negated and before two sets are combined. Without Unicode only
ASCII characters may be matched, and a set that holds others is refused where it arises.
-/

namespace PatternScan.Pattern

/-- The flags in force at a place of the pattern. -/
structure Flags where
  ignoreCase : Bool
  multiLine : Bool
  dotAll : Bool
  swapGreed : Bool
  unicode : Bool
  crlf : Bool
  deriving DecidableEq, Repr, Inhabited

namespace Flags

/-- The flags at the start of a pattern. -/
def initial : Flags := ⟨false, false, false, false, true, false⟩

/-- The flags with the one of a letter switched. -/
def set (flags : Flags) (letter : Char) (on : Bool) : Flags :=
  match letter with
  | 'i' => { flags with ignoreCase := on }
  | 'm' => { flags with multiLine := on }
  | 's' => { flags with dotAll := on }
  | 'U' => { flags with swapGreed := on }
  | 'u' => { flags with unicode := on }
  | 'R' => { flags with crlf := on }
  | _ => flags

/-- The flags after a list of switches; those after a minus sign are switched off. -/
def apply (flags : Flags) (items : List FlagItem) : Flags :=
  (items.foldl
    (fun (flags, on) item =>
      if item.letter == '-' then (flags, false) else (Flags.set flags item.letter on, on))
    (flags, true)).1

end Flags

/-- The set that the operator makes of two sets. -/
def SetOperator.apply : SetOperator → CharSet → CharSet → CharSet
  | intersection, s, t => s.intersection t
  | difference, s, t => s.difference t
  | symmetricDifference, s, t => s.symmetricDifference t

/-- The set with the characters that differ from its own only in case, where case is
ignored. -/
def foldCase (flags : Flags) (s : CharSet) : CharSet :=
  if flags.ignoreCase then
    if flags.unicode then s.closeUnderCase else s.closeUnderAsciiCase
  else s

/-- The set of word characters. -/
def wordSet (unicode : Bool) : CharSet :=
  if unicode then
    .ofRanges (Text.alphabeticRanges ++ Text.digitRanges ++ Text.connectorRanges ++ Text.markRanges)
  else .ofRanges [(48, 57), (65, 90), (95, 95), (97, 122)]

/-- The set of digits. -/
def digitSet (unicode : Bool) : CharSet :=
  if unicode then .ofRanges Text.digitRanges else .ofRanges [(48, 57)]

/-- The set of blanks. -/
def blankSet (unicode : Bool) : CharSet :=
  if unicode then .ofRanges Text.blankRanges else .ofRanges [(9, 13), (32, 32)]

/-- The set or, where it is to be negated, the characters not in it. -/
def negateIf (negated : Bool) (s : CharSet) : CharSet := if negated then s.negate else s

/-- The set, which without Unicode may hold ASCII characters only. -/
def checkAscii (flags : Flags) (s : CharSet) (extent : Extent) : Except Fault CharSet :=
  if flags.unicode || s.isAscii then .ok s else .error ⟨.invalidText, extent, none⟩

/-- The set of a question about properties, which only Unicode knows. -/
def propertySet (flags : Flags) (query : Unicode.Query) (extent : Extent) :
    Except Fault CharSet :=
  if flags.unicode then
    match query.answer with
    | .ok s => .ok s
    | .error .propertyNotFound => .error ⟨.propertyNotFound, extent, none⟩
    | .error .valueNotFound => .error ⟨.propertyValueNotFound, extent, none⟩
  else .error ⟨.unicodeNotAllowed, extent, none⟩

/-- The set of an escape. The sets of letters hold both cases of their characters anyway. -/
def EscapedSet.meaning (flags : Flags) (set : EscapedSet) (negated : Bool) (extent : Extent) :
    Except Fault CharSet :=
  let ofLetter (s : CharSet) := checkAscii flags (negateIf negated s) extent
  match set with
  | .digits => ofLetter (digitSet flags.unicode)
  | .blanks => ofLetter (blankSet flags.unicode)
  | .wordChars => ofLetter (wordSet flags.unicode)
  | .property query =>
      (propertySet flags query extent).map fun s => negateIf negated (foldCase flags s)

/-- The character that a literal stands for. Without Unicode a byte beyond ASCII is none. -/
def Literal.meaning (flags : Flags) (l : Literal) (extent : Extent) : Except Fault Char :=
  if !flags.unicode && l.asByte && 127 < l.char.toNat then .error ⟨.invalidText, extent, none⟩
  else .ok l.char

/-- The character that a literal stands for in a class, which without Unicode lists ASCII
characters only. -/
def Literal.classMeaning (flags : Flags) (l : Literal) (extent : Extent) : Except Fault Char := do
  let c ← l.meaning flags extent
  if !flags.unicode && 127 < c.toNat then .error ⟨.unicodeNotAllowed, extent, none⟩ else .ok c

namespace ClassOutline

mutual

/-- The set that a part of a class stands for. -/
def meaning (flags : Flags) : ClassOutline → Except Fault CharSet
  | nothing _ => .ok ⟨[]⟩
  | literal l extent => (l.classMeaning flags extent).map CharSet.single
  | range first last firstExtent lastExtent => do
      let low ← first.classMeaning flags firstExtent
      let high ← last.classMeaning flags lastExtent
      return .between low high
  | escapedSet set negated extent => set.meaning flags negated extent
  | named ranges negated extent =>
      checkAscii flags (negateIf negated (foldCase flags (.ofRanges ranges))) extent
  | bracket negated body extent => do
      let s ← body.meaning flags
      checkAscii flags (negateIf negated (foldCase flags s)) extent
  | list members _ => (meaningsOf flags members).map CharSet.unionAll
  | operation op left right => do
      let s ← left.meaning flags
      let t ← right.meaning flags
      return op.apply (foldCase flags s) (foldCase flags t)

/-- The sets that members of a class stand for. -/
def meaningsOf (flags : Flags) : List ClassOutline → Except Fault (List CharSet)
  | [] => .ok []
  | member :: rest => do
      let s ← member.meaning flags
      let others ← meaningsOf flags rest
      return s :: others

end

end ClassOutline

end PatternScan.Pattern
