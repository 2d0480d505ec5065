import Mathlib.Data.List.Nodup
import PatternScan.Proofs.SortedMap
import PatternScan.Script.PatternScript

/-!
# Roles of a group name

The tokens of a group name are taken in one after another. Whatever they say, the roles of
each family stand in their order, each of them once.
-/

namespace PatternScan.Script

/-! ## Roles in their order -/

instance : Std.TransOrd SequenceRole :=
  inferInstanceAs (Std.TransCmp (compareOn SequenceRole.ctorIdx))

instance : Std.LawfulEqOrd SequenceRole where
  eq_of_compare {a b} h := by
    have hindex : a.ctorIdx = b.ctorIdx := Std.LawfulEqOrd.eq_of_compare h
    rw [← a.ofNat_ctorIdx, hindex, b.ofNat_ctorIdx]

instance : Std.TransOrd PlotRole :=
  inferInstanceAs (Std.TransCmp (compareOn PlotRole.ctorIdx))

instance : Std.LawfulEqOrd PlotRole where
  eq_of_compare {a b} h := by
    have hindex : a.ctorIdx = b.ctorIdx := Std.LawfulEqOrd.eq_of_compare h
    rw [← a.ofNat_ctorIdx, hindex, b.ofNat_ctorIdx]

theorem PlotRole.pairwise_all : PlotRole.all.Pairwise fun a b => compare a b = .lt := by decide

/-! ## Roles of a group -/

namespace Annotation

variable {options : ParseOptions} {name : String} {a : Annotation}

theorem ascending_bindRole {R V : Type} [Ord R] [Std.TransOrd R] [Std.LawfulEqOrd R]
    {m : SortedMap R V} (h : m.Ascending) (binding : Option (R × V)) :
    (bindRole m binding).Ascending := by
  cases binding with
  | none => exact h
  | some e => exact h.insert e.1 e.2

/-- A token keeps the roles of both families in their order. -/
theorem ascending_addToken (hsequence : a.sequence.Ascending) (hplot : a.plot.Ascending)
    (token : List Char) :
    (addToken options name a token).sequence.Ascending ∧
      (addToken options name a token).plot.Ascending := by
  constructor
  · simp only [addToken]
    split
    · exact ascending_bindRole hsequence _
    · exact hsequence
  · simp only [addToken]
    split
    · exact ascending_bindRole hplot _
    · exact hplot

theorem ascending_foldl_addToken (tokens : List (List Char)) (hsequence : a.sequence.Ascending)
    (hplot : a.plot.Ascending) :
    (tokens.foldl (addToken options name) a).sequence.Ascending ∧
      (tokens.foldl (addToken options name) a).plot.Ascending := by
  induction tokens generalizing a with
  | nil => exact ⟨hsequence, hplot⟩
  | cons token rest ih =>
      obtain ⟨hsequence', hplot'⟩ := ascending_addToken hsequence hplot token
      exact ih hsequence' hplot'

/-- What a group name says lists the roles of each family in their order. -/
theorem ascending_ofName (options : ParseOptions) (name : String) :
    (ofName options name).sequence.Ascending ∧ (ofName options name).plot.Ascending :=
  ascending_foldl_addToken _ SortedMap.ascending_empty SortedMap.ascending_empty

/-- A family of roles that is not read stays as it is. -/
theorem foldl_addToken_unread (tokens : List (List Char)) :
    (options.sequence = false →
      (tokens.foldl (addToken options name) a).sequence = a.sequence) ∧
    (options.plot = false → (tokens.foldl (addToken options name) a).plot = a.plot) := by
  induction tokens generalizing a with
  | nil => exact ⟨fun _ => rfl, fun _ => rfl⟩
  | cons token rest ih =>
      obtain ⟨hsequence, hplot⟩ := ih (a := addToken options name a token)
      constructor
      · intro h
        rw [List.foldl_cons, hsequence h]
        simp [addToken, h]
      · intro h
        rw [List.foldl_cons, hplot h]
        simp [addToken, h]

end Annotation

/-- Where a family of roles is not read, no group of a pattern has roles of it. -/
theorem PatternScript.unread_of_mem {options : ParseOptions} {names : List (Option String)}
    {a : Annotation} (h : a ∈ (ofNames options names).annotations) :
    (options.sequence = false → a.sequence = .empty) ∧
      (options.plot = false → a.plot = .empty) := by
  obtain ⟨name, -, rfl⟩ := List.mem_map.1 h
  cases name with
  | none => exact ⟨fun _ => rfl, fun _ => rfl⟩
  | some name => exact Annotation.foldl_addToken_unread (Script.tokens name)

/-- What a group of a pattern says lists the roles of each family in their order. -/
theorem PatternScript.ascending_annotation? {options : ParseOptions}
    {names : List (Option String)} {group : Nat} {a : Annotation}
    (h : (ofNames options names).annotation? group = some a) :
    a.sequence.Ascending ∧ a.plot.Ascending := by
  rw [annotation?, ofNames, List.getElem?_map, Option.map_eq_some_iff] at h
  obtain ⟨name, -, rfl⟩ := h
  cases name with
  | none => exact ⟨SortedMap.ascending_empty, SortedMap.ascending_empty⟩
  | some name => exact Annotation.ascending_ofName options name

end PatternScan.Script
