import PatternScan.Pattern.Outline

/-!
# Nesting of patterns

Groups, repetitions, classes, and sequences and choices of several parts lie inside one
another. A pattern that nests too deep is refused at the first part that lies too deep.
-/

namespace PatternScan.Pattern

/-- How deep the parts of a pattern may lie inside one another. -/
def nestingLimit : Nat := 250

/-- The part that lies `depth` deep together with itself may lie so deep; what it holds is
searched by `inside`. -/
def searchDeeper (depth : Nat) (extent : Extent) (inside : Nat → Option Extent) :
    Option Extent :=
  if depth < nestingLimit then inside (depth + 1) else some extent

namespace ClassOutline

mutual

/-- The first part of a class that lies too deep, where the class itself lies in `depth`
others. -/
def tooDeep? (depth : Nat) : ClassOutline → Option Extent
  | bracket _ body extent => searchDeeper depth extent fun depth => body.tooDeep? depth
  | list members extent => searchDeeper depth extent fun depth => tooDeepOf? depth members
  | operation _ left right =>
      searchDeeper depth ⟨left.extent.start, right.extent.stop⟩ fun depth =>
        left.tooDeep? depth <|> right.tooDeep? depth
  | _ => none

/-- The first part that lies too deep in members of a class. -/
def tooDeepOf? (depth : Nat) : List ClassOutline → Option Extent
  | [] => none
  | member :: rest => member.tooDeep? depth <|> tooDeepOf? depth rest

end

end ClassOutline

namespace Outline

mutual

/-- The first part that lies too deep, where the outline itself lies in `depth` others. -/
def tooDeep? (depth : Nat) : Outline → Option Extent
  | bracket outline => outline.tooDeep? depth
  | group _ body extent => searchDeeper depth extent fun depth => body.tooDeep? depth
  | repetition body _ _ _ extent => searchDeeper depth extent fun depth => body.tooDeep? depth
  | sequence parts extent => searchDeeper depth extent fun depth => tooDeepOf? depth parts
  | choice branches extent => searchDeeper depth extent fun depth => tooDeepOf? depth branches
  | _ => none

/-- The first part that lies too deep in several. -/
def tooDeepOf? (depth : Nat) : List Outline → Option Extent
  | [] => none
  | part :: rest => part.tooDeep? depth <|> tooDeepOf? depth rest

end

/-- Refuses an outline that nests too deep. -/
def checkNesting (outline : Outline) : Except Fault Unit :=
  match outline.tooDeep? 0 with
  | some extent => .error ⟨.nestingTooDeep, extent, none⟩
  | none => .ok ()

end Outline

end PatternScan.Pattern
