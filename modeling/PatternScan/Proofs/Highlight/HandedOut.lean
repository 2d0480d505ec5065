import Mathlib.Data.List.Basic
import PatternScan.Highlight.Coverage

/-!
# Colours handed out

The palette fills segments and does nothing else: the fields that are highlighted, their segments
and the colours that group names declare are the same under every palette.
-/

namespace PatternScan

/-- The paint without a colour handed out from the palette. -/
def Paint.withoutPalette (p : Paint) : Paint := if p.explicit then p else .unfilled

def Segment.withoutPalette (s : Segment) : Segment := { s with paint := s.paint.withoutPalette }

def FieldHighlight.withoutPalette (f : FieldHighlight) : FieldHighlight :=
  { f with segments := f.segments.map Segment.withoutPalette }

theorem ColorScheme.withoutPalette_paint (declared : Nat → Option Color)
    (palette palette' : Palette) (index index' : ColorIndex) (group : Nat) :
    ((⟨declared, palette, index⟩ : ColorScheme).paint group).withoutPalette =
      ((⟨declared, palette', index'⟩ : ColorScheme).paint group).withoutPalette := by
  cases hdeclared : declared group with
  | some color => simp only [paint, hdeclared]
  | none => simp only [paint, hdeclared, Paint.withoutPalette, Bool.false_eq_true, if_false]

namespace Coverage

variable (t : MatchTree) (field : Span) (paint : Nat → Paint)

theorem map_nodeRange (id : Nat) :
    (nodeRange t field paint id).map (fun range => (range.1, range.2.withoutPalette)) =
      nodeRange t field (fun group => (paint group).withoutPalette) id := by
  rw [nodeRange, nodeRange]
  split
  · rfl
  · rw [Option.map_bind]
    refine congrArg _ (funext fun m => ?_)
    rw [Function.comp_apply, Option.map_map]
    rfl

theorem map_nodeSegments (id : Nat) :
    (nodeSegments t field paint id).map Segment.withoutPalette =
      nodeSegments t field (fun group => (paint group).withoutPalette) id := by
  rw [nodeSegments, nodeSegments, ← map_nodeRange]
  cases nodeRange t field paint id with
  | none => rfl
  | some range => exact List.map_map

/-- Where a field is cut does not depend on how its parts are painted. -/
theorem map_split :
    (split t field paint).map Segment.withoutPalette =
      split t field fun group => (paint group).withoutPalette := by
  have hshift : Segment.withoutPalette ∘ shift field.first =
      shift field.first ∘ Segment.withoutPalette := rfl
  have hnode : (fun id => (nodeSegments t field paint id).map Segment.withoutPalette) =
      nodeSegments t field fun group => (paint group).withoutPalette :=
    funext (map_nodeSegments t field paint)
  have hsort (found : List Segment) : (found.mergeSort segmentOrder).map Segment.withoutPalette =
      (found.map Segment.withoutPalette).mergeSort segmentOrder :=
    List.map_mergeSort fun _ _ _ _ => rfl
  rw [split, split, hsort, List.map_map, hshift, ← List.map_map, List.map_flatMap, hnode]

end Coverage

/-- The palette has no influence on the highlighting but for the colours it hands out. -/
theorem map_highlightFields (t : MatchTree) (ms : List Match) (fields : List Span)
    (declared : Nat → Option Color) (palette palette' : Palette) :
    (highlightFields t ms fields declared palette).map FieldHighlight.withoutPalette =
      (highlightFields t ms fields declared palette').map FieldHighlight.withoutPalette := by
  rw [highlightFields, highlightFields, List.map_filterMap, List.map_filterMap]
  refine List.filterMap_congr fun (field, index) _ => ?_
  dsimp only
  split
  · simp only [Option.map_some, FieldHighlight.withoutPalette, Coverage.map_split,
      ColorScheme.withoutPalette_paint declared palette palette' _ (.build ms palette'.size)]
  · rfl

end PatternScan
