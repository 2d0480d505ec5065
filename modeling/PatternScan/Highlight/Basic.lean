import PatternScan.Palette

/-!
# Paint and segments

A segment is one highlighted piece of a field, placed relative to the field's start. Its
paint tells the background colour and whether the group's own name asked for it.
-/

namespace PatternScan

/-- How a piece of text is filled. No colour means no fill; `explicit` says that the
colour was named by the group and not handed out from the palette. -/
structure Paint where
  color : Option Color
  explicit : Bool
  deriving DecidableEq, Repr, Inhabited

/-- The paint of text that no match owns. -/
def Paint.unfilled : Paint := ⟨none, false⟩

/-- A highlighted piece of a field, offsets relative to the field's start. -/
structure Segment where
  first : Nat
  last : Nat
  paint : Paint
  deriving DecidableEq, Repr, Inhabited

/-- The segments of one field, told by its position among the record's fields. -/
structure FieldHighlight where
  field : Nat
  segments : List Segment
  deriving DecidableEq, Repr, Inhabited

end PatternScan
