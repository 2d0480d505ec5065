import PatternScan.Match.Tree
import PatternScan.Highlight.Basic
import PatternScan.Highlight.ColorIndex

/-!
# Coverage of a field

Every offset of a field belongs to its innermost enclosing match. Walking the match tree
bottom up, each node paints the parts of its range, clipped to the field, that none of
its children reach; the root paints what is left of the field without a colour. The
segments found are moved to the field's start and sorted.
-/

namespace PatternScan

/-- The colours in force for one record: those that group names declare, and the palette
with the index of each matched group. -/
structure ColorScheme where
  declared : Nat → Option Color
  palette : Palette
  index : ColorIndex

namespace ColorScheme

/-- A declared colour wins over the palette; a group with neither stays unfilled. -/
def paint (scheme : ColorScheme) (group : Nat) : Paint :=
  match scheme.declared group with
  | some color => ⟨some color, true⟩
  | none => ⟨(scheme.index.get? group).bind scheme.palette.get?, false⟩

end ColorScheme

namespace Coverage

/-- The spans strictly between neighbouring children that leave room between them. -/
def gapsBetween : List Span → List Span
  | a :: b :: rest =>
      if a.last + 1 < b.first then
        ⟨a.last + 1, b.first - 1⟩ :: gapsBetween (b :: rest)
      else
        gapsBetween (b :: rest)
  | _ => []

/-- The parts of `range` that are left before, between and after its children. -/
def gaps (range : Span) (children : List Span) : List Span :=
  match children.head?, children.getLast? with
  | some first, some last =>
      (if range.first < first.first then [⟨range.first, first.first - 1⟩] else []) ++
        gapsBetween children ++
        (if last.last < range.last then [⟨last.last + 1, range.last⟩] else [])
  | _, _ => [range]

/-- The range of a node inside the field and its paint. The root fills the whole field
and paints nothing; a node that misses the field has none. -/
def nodeRange (t : MatchTree) (field : Span) (paint : Nat → Paint) (id : Nat) :
    Option (Span × Paint) :=
  if id = MatchTree.root then
    some (field, .unfilled)
  else
    (t.item? id).bind fun m => (m.span.clip field).map fun range => (range, paint m.group)

/-- The ranges of a node's children inside the field. -/
def childRanges (t : MatchTree) (field : Span) (id : Nat) : List Span :=
  (t.children id).filterMap fun child =>
    (t.item? child).bind fun m => m.span.clip field

/-- The painted parts of one node, at offsets of the record. -/
def nodeSegments (t : MatchTree) (field : Span) (paint : Nat → Paint) (id : Nat) :
    List Segment :=
  match nodeRange t field paint id with
  | none => []
  | some (range, fill) =>
      (gaps range (childRanges t field id)).map fun gap => ⟨gap.first, gap.last, fill⟩

/-- The segment seen from the start of its field. -/
def shift (origin : Nat) (s : Segment) : Segment :=
  ⟨s.first - origin, s.last - origin, s.paint⟩

/-- Segments are sorted by their first offset, then by their last. -/
def segmentOrder (a b : Segment) : Bool :=
  a.first < b.first || (a.first == b.first && a.last ≤ b.last)

/-- The segments of a field under a match tree, sorted by their start. -/
def split (t : MatchTree) (field : Span) (paint : Nat → Paint) : List Segment :=
  let found := t.postOrder.flatMap (nodeSegments t field paint)
  (found.map (shift field.first)).mergeSort segmentOrder

end Coverage

/-- The highlighting of every field that some match meets. The matches are those of the
tree, in any order. -/
def highlightFields (t : MatchTree) (ms : List Match) (fields : List Span)
    (declared : Nat → Option Color) (palette : Palette) : List FieldHighlight :=
  let scheme : ColorScheme := ⟨declared, palette, ColorIndex.build ms palette.size⟩
  fields.zipIdx.filterMap fun (field, index) =>
    if ms.any fun m => m.span.meets field then
      some ⟨index, Coverage.split t field scheme.paint⟩
    else
      none

/-- The highlighting of a record from its matches and fields alone. -/
def highlightRecord (ms : List Match) (fields : List Span)
    (declared : Nat → Option Color) (palette : Palette) : List FieldHighlight :=
  highlightFields (MatchTree.build ms) ms fields declared palette

end PatternScan
