import PatternScan.Match.Basic
import PatternScan.Pattern.Diagnostic
import PatternScan.Pattern.Footprint
import PatternScan.Pattern.Matcher
import PatternScan.Pattern.Meaning
import PatternScan.Pattern.Nesting
import PatternScan.Pattern.Reader
import PatternScan.Text.Slice

/-!
# Compiled patterns

A compiled pattern finds the captures of its groups in a text. Group zero is the whole
match; it is neither named nor captured.
-/

namespace PatternScan

/-- Why a pattern is refused. -/
inductive PatternError where
  | empty
  | faulty (source : String) (fault : Pattern.Fault)
  | tooLarge
  deriving DecidableEq, Repr

namespace PatternError

/-- The words for a pattern that is too large. -/
def tooLargeText : String :=
  "Compiled regex exceeds size limit of " ++ toString Pattern.sizeLimit ++ " bytes."

/-- The broken rule in words. -/
def reason : PatternError → String
  | empty => "pattern is empty"
  | faulty _ fault => fault.kind.message
  | tooLarge => tooLargeText

/-- The offset of the fault in characters of the pattern. -/
def offset : PatternError → Nat
  | empty | tooLarge => 0
  | faulty source fault => (Pattern.Diagnostic.ofFault source fault).offset

/-- The fault shown in the pattern. -/
def diagnostic : PatternError → String
  | empty => "pattern is empty"
  | faulty source fault => (Pattern.Diagnostic.ofFault source fault).render
  | tooLarge => tooLargeText

end PatternError

/-- The bytes of a text that a group captured, from `start` up to `stop`, the latter
excluded. -/
structure Capture where
  start : Nat
  stop : Nat
  deriving DecidableEq, Repr, Inhabited

/-- A pattern ready to be applied to texts. -/
structure CompiledPattern where
  source : String
  /-- The name of every group by number, group zero included. -/
  groupNames : List (Option String)
  program : Array Pattern.Instruction
  deriving Repr, Inhabited

namespace CompiledPattern

open Pattern (Regex GroupName Subject Slots)

/-- The number of groups, group zero included. -/
def groupCount (p : CompiledPattern) : Nat := p.groupNames.length

/-- The names of the groups that are left in the expression, up to the greatest. -/
def namesOf (r : Regex) (names : List GroupName) : List (Option String) :=
  let groups := r.groups
  let greatest := groups.foldl max 0
  (List.range (greatest + 1)).map fun group =>
    if groups.contains group then
      (names.find? fun n => n.group == group).map GroupName.name
    else none

/-- The expression of a pattern with the names of its groups. A pattern is read, its nesting
is checked, and only then are its parts given their meaning. -/
def expressionOf (source : String) : Except Pattern.Fault (Regex × List GroupName) := do
  let parsed ← Pattern.parse source
  parsed.outline.checkNesting
  let r ← parsed.outline.regex
  return (r, parsed.names)

/-- Compiles a pattern that may be empty. -/
def ofSource (source : String) : Except PatternError CompiledPattern :=
  match expressionOf source with
  | .error fault => .error (.faulty source fault)
  | .ok (r, names) =>
      if r.isSmall then .ok ⟨source, namesOf r names, r.program.toArray⟩ else .error .tooLarge

/-- Compiles a pattern for searching; an empty one is refused. -/
def compile (source : String) : Except PatternError CompiledPattern :=
  if source.isEmpty then .error .empty else ofSource source

/-- The capture of a group from the slots of a match. -/
def captureOf (s : Subject) (slots : Slots) (group : Nat) : Option Capture :=
  match (slots[Regex.startSlot group]?).join, (slots[Regex.startSlot group + 1]?).join with
  | some start, some stop => some ⟨s.byteOffset start, s.byteOffset stop⟩
  | _, _ => none

/-- The captures of groups one, two and so on in the first match of the text. -/
def captures? (p : CompiledPattern) (text : String) : Option (List (Option Capture)) :=
  let s := Subject.ofText text
  (Pattern.firstMatch p.program s (2 * p.groupCount)).map fun slots =>
    (List.range' 1 (p.groupCount - 1)).map (captureOf s slots)

/-- A capture as a match, unless it is empty. -/
def toMatch? (text : String) (group : Nat) (c : Capture) : Option Match :=
  if c.start < c.stop then
    (Text.slice text c.start c.stop).map fun part => ⟨part, ⟨c.start, c.stop - 1⟩, group⟩
  else none

/-- The non-empty captures of the first match in scan order, or nothing where the text
does not match. -/
def find? (p : CompiledPattern) (text : String) : Option (List Match) :=
  (p.captures? text).map fun captures =>
    Match.scanOrder <| captures.zipIdx.filterMap fun (capture, index) =>
      capture.bind (toMatch? text (index + 1))

end CompiledPattern

end PatternScan
