import PatternScan.Pattern.ClassMeaning
import PatternScan.Pattern.Regex

/-!
# What patterns stand for

The outline of a pattern becomes a regular expression. Flags that are set in a group hold
up to its end, also in the alternatives that follow.
-/

namespace PatternScan.Pattern

/-- The characters that a point stands for. -/
def dotSet (flags : Flags) : CharSet :=
  if flags.dotAll then .full
  else if flags.crlf then (CharSet.ofRanges [(10, 10), (13, 13)]).negate
  else (CharSet.single '\n').negate

/-- The condition that the sign of an anchor stands for. -/
def AnchorSign.meaning (flags : Flags) : AnchorSign → Anchor
  | textStart => .textStart
  | textEnd => .textEnd
  | caret => if !flags.multiLine then .textStart else if flags.crlf then .breakStart else .lineStart
  | dollar => if !flags.multiLine then .textEnd else if flags.crlf then .breakEnd else .lineEnd
  | wordBoundary => .wordBoundary !flags.unicode
  | notWordBoundary => .notWordBoundary !flags.unicode
  | wordStart => .wordStart !flags.unicode
  | wordEnd => .wordEnd !flags.unicode
  | wordStartHalf => .wordStartHalf !flags.unicode
  | wordEndHalf => .wordEndHalf !flags.unicode

/-- The expression of a literal. Without Unicode only unaccented letters have two cases. -/
def Literal.regex (flags : Flags) (l : Literal) (extent : Extent) : Except Fault Regex := do
  let c ← l.meaning flags extent
  return .chars (foldCase flags (.single c))

/-- The expression of an escape or a character. -/
def Item.meaning (flags : Flags) (item : Item) (extent : Extent) : Except Fault Regex :=
  match item with
  | .literal l => l.regex flags extent
  | .escapedSet set negated => (set.meaning flags negated extent).map Regex.chars
  | .anchor sign => .ok (.anchor (sign.meaning flags))

/-- An expression, and the flags that hold after it. -/
structure Meant (α : Type) where
  value : α
  flags : Flags
  deriving Repr

namespace Outline

mutual

/-- The expression of an outline where the flags hold, and the flags after it. -/
def meaning (flags : Flags) : Outline → Except Fault (Meant Regex)
  | nothing _ => .ok ⟨.empty, flags⟩
  | Outline.flags items _ => .ok ⟨.empty, flags.apply items⟩
  | item i extent => (i.meaning flags extent).map fun r => ⟨r, flags⟩
  | dot extent =>
      (checkAscii flags (dotSet flags) extent).map fun s => ⟨.chars s, flags⟩
  | bracket outline => (outline.meaning flags).map fun s => ⟨.chars s, flags⟩
  | group (.capturing number) body _ => do
      let inner ← body.meaning flags
      return ⟨.capture number inner.value, flags⟩
  | group (.flagged items) body _ => do
      let inner ← body.meaning (flags.apply items)
      return ⟨inner.value, flags⟩
  | repetition body least most greedy _ => do
      let inner ← body.meaning flags
      return ⟨.repeated inner.value least most (greedy != flags.swapGreed), flags⟩
  | sequence parts _ => do
      let inner ← meaningsOf flags parts
      return ⟨.catAll inner.value, inner.flags⟩
  | choice branches _ => do
      let inner ← meaningsOf flags branches
      return ⟨.altAll inner.value, inner.flags⟩

/-- The expressions of outlines one after another. -/
def meaningsOf (flags : Flags) : List Outline → Except Fault (Meant (List Regex))
  | [] => .ok ⟨[], flags⟩
  | part :: rest => do
      let first ← part.meaning flags
      let others ← meaningsOf first.flags rest
      return ⟨first.value :: others.value, others.flags⟩

end

/-- The expression of a whole pattern. -/
def regex (outline : Outline) : Except Fault Regex :=
  (outline.meaning .initial).map Meant.value

end Outline

end PatternScan.Pattern
