import PatternScan.Pattern.Fault
import PatternScan.Unicode.Query

/-!
# Outlines of patterns

The outline of a pattern is the tree of its parts as they are written, each with its place
in the pattern. What a part stands for depends on flags that hold where it is written, and
is not decided here.
-/

namespace PatternScan.Pattern

/-- A character of a pattern. One told by two hexadecimal digits after `\x` may be meant as
a byte. -/
structure Literal where
  char : Char
  asByte : Bool
  deriving DecidableEq, Repr, Inhabited

/-- A condition on a position of the text, as a sign of the pattern tells it. -/
inductive AnchorSign where
  | textStart
  | textEnd
  | caret
  | dollar
  | wordBoundary
  | notWordBoundary
  | wordStart
  | wordEnd
  | wordStartHalf
  | wordEndHalf
  deriving DecidableEq, Repr

/-- The characters that one escape stands for. -/
inductive EscapedSet where
  | digits
  | blanks
  | wordChars
  | property (query : Unicode.Query)
  deriving DecidableEq, Repr

/-- What an escape stands for. -/
inductive Item where
  | literal (literal : Literal)
  | escapedSet (set : EscapedSet) (negated : Bool)
  | anchor (sign : AnchorSign)
  deriving DecidableEq, Repr

/-- An operator between two lists of a class. -/
inductive SetOperator where
  | intersection
  | difference
  | symmetricDifference
  deriving DecidableEq, Repr

/-- The outline of what stands in the brackets of a class. -/
inductive ClassOutline where
  | nothing (extent : Extent)
  | literal (literal : Literal) (extent : Extent)
  | range (first last : Literal) (firstExtent lastExtent : Extent)
  | escapedSet (set : EscapedSet) (negated : Bool) (extent : Extent)
  /-- Characters of ASCII that go by a name. -/
  | named (ranges : Text.CodeRanges) (negated : Bool) (extent : Extent)
  | bracket (negated : Bool) (body : ClassOutline) (extent : Extent)
  | list (members : List ClassOutline) (extent : Extent)
  | operation (op : SetOperator) (left right : ClassOutline)
  deriving Repr, Inhabited

namespace ClassOutline

/-- Where the class or the part of it is written. -/
def extent : ClassOutline → Extent
  | nothing extent | literal _ extent | escapedSet _ _ extent | named _ _ extent
  | bracket _ _ extent | list _ extent => extent
  | range _ _ first last => ⟨first.start, last.stop⟩
  | operation _ left right => ⟨left.extent.start, right.extent.stop⟩

end ClassOutline

/-- A letter or a minus sign of a list of flags, and where it stands. -/
structure FlagItem where
  letter : Char
  pos : Nat
  deriving DecidableEq, Repr

/-- How a group begins. -/
inductive GroupOpening where
  /-- It captures what it matches. -/
  | capturing (group : Nat)
  /-- It sets flags for itself. -/
  | flagged (items : List FlagItem)
  deriving DecidableEq, Repr

/-- The outline of a pattern or of a part of it. -/
inductive Outline where
  | nothing (extent : Extent)
  /-- Sets flags for the rest of the group. -/
  | flags (items : List FlagItem) (extent : Extent)
  | item (item : Item) (extent : Extent)
  | dot (extent : Extent)
  | bracket (outline : ClassOutline)
  | group (opening : GroupOpening) (body : Outline) (extent : Extent)
  | repetition (body : Outline) (least : Nat) (most : Option Nat) (greedy : Bool)
      (extent : Extent)
  | sequence (parts : List Outline) (extent : Extent)
  | choice (branches : List Outline) (extent : Extent)
  deriving Repr, Inhabited

namespace Outline

/-- Where the part is written. -/
def extent : Outline → Extent
  | nothing extent | flags _ extent | item _ extent | dot extent | group _ _ extent
  | repetition _ _ _ _ extent | sequence _ extent | choice _ extent => extent
  | bracket outline => outline.extent

/-- The part may be repeated: it is neither nothing nor a list of flags. -/
def isRepeatable : Outline → Bool
  | nothing _ | flags _ _ => false
  | _ => true

end Outline

end PatternScan.Pattern
