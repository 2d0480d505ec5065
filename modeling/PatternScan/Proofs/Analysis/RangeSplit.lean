import Mathlib.Data.List.Perm.Basic
import Mathlib.Data.List.Count
import PatternScan.Analysis.RangeSplit

/-!
# Parts of a range

The parts of a split lie end to end: each one begins where the part before it ends. A
position of the range therefore lies in one part only, and a list of positions that holds
those of every part once holds those of the whole range once.
-/

namespace PatternScan.Analysis.ScanRange

/-- The position lies in the range. -/
def holds (r : ScanRange) (position : Nat) : Bool := r.start ≤ position && position < r.stop

/-- The ranges lie end to end, from the first number up to the second. -/
def EndToEnd : Nat → List ScanRange → Nat → Prop
  | first, [], last => first = last
  | first, part :: rest, last =>
      part.start = first ∧ first ≤ part.stop ∧ EndToEnd part.stop rest last

theorem holds_iff {r : ScanRange} {position : Nat} :
    r.holds position = true ↔ r.start ≤ position ∧ position < r.stop := by
  simp [holds]

/-! ## The split of a range -/

theorem partsFrom_endToEnd (start base : Nat) {larger parts : Nat} (h : larger ≤ parts) :
    EndToEnd start (partsFrom base start larger parts) (start + base * parts + larger) := by
  induction parts generalizing start larger with
  | zero =>
      obtain rfl : larger = 0 := Nat.le_zero.1 h
      rfl
  | succ parts ih =>
      refine ⟨rfl, by simp only; omega, ?_⟩
      have hstop : start + base * (parts + 1) + larger =
          (start + base + if 0 < larger then 1 else 0) + base * parts + (larger - 1) := by
        rw [Nat.mul_succ]
        split <;> omega
      rw [hstop]
      exact ih _ (by omega)

/-- The parts of a split lie end to end over the range that is split. -/
theorem split_endToEnd (start count workers : Nat) :
    EndToEnd start (split start count workers) (start + count) := by
  have hlarger : count % min (max workers 1) count ≤ min (max workers 1) count := by
    rcases Nat.eq_zero_or_pos count with rfl | hpos
    · simp
    · exact Nat.le_of_lt (Nat.mod_lt _ (by omega))
  have hparts := partsFrom_endToEnd start (count / min (max workers 1) count) hlarger
  rw [Nat.add_assoc, Nat.mul_comm, Nat.div_add_mod] at hparts
  exact hparts

theorem length_partsFrom (base start larger parts : Nat) :
    (partsFrom base start larger parts).length = parts := by
  induction parts generalizing start larger with
  | zero => rfl
  | succ parts ih => rw [partsFrom, List.length_cons, ih]

theorem length_split (start count workers : Nat) :
    (split start count workers).length = min (max workers 1) count :=
  length_partsFrom _ _ _ _

/-! ## Ranges that lie end to end -/

namespace EndToEnd

variable {first last : Nat} {parts : List ScanRange}

theorem le (h : EndToEnd first parts last) : first ≤ last := by
  induction parts generalizing first with
  | nil => exact Nat.le_of_eq h
  | cons part rest ih =>
      obtain ⟨-, hle, hrest⟩ := h
      exact Nat.le_trans hle (ih hrest)

theorem bounds (h : EndToEnd first parts last) {part : ScanRange} (hmem : part ∈ parts) :
    first ≤ part.start ∧ part.start ≤ part.stop ∧ part.stop ≤ last := by
  induction parts generalizing first with
  | nil => cases hmem
  | cons head rest ih =>
      obtain ⟨hstart, hle, hrest⟩ := h
      rcases List.mem_cons.1 hmem with rfl | hmem
      · exact ⟨Nat.le_of_eq hstart.symm, hstart ▸ hle, hrest.le⟩
      · obtain ⟨hafter, hstop, hlast⟩ := ih hrest hmem
        exact ⟨Nat.le_trans hle hafter, hstop, hlast⟩

/-- Each range ends before the later ones begin. -/
theorem pairwise (h : EndToEnd first parts last) :
    parts.Pairwise fun r s => r.stop ≤ s.start := by
  induction parts generalizing first with
  | nil => exact List.Pairwise.nil
  | cons part rest ih =>
      obtain ⟨-, -, hrest⟩ := h
      exact List.pairwise_cons.2 ⟨fun s hs => (hrest.bounds hs).1, ih hrest⟩

theorem exists_holds (h : EndToEnd first parts last) {position : Nat}
    (hfirst : first ≤ position) (hlast : position < last) :
    ∃ part ∈ parts, part.holds position = true := by
  induction parts generalizing first with
  | nil => exact absurd (Nat.lt_of_lt_of_eq hlast h.symm) (Nat.not_lt.2 hfirst)
  | cons part rest ih =>
      obtain ⟨hstart, -, hrest⟩ := h
      by_cases hlt : position < part.stop
      · exact ⟨part, List.mem_cons_self, holds_iff.2 ⟨hstart ▸ hfirst, hlt⟩⟩
      · obtain ⟨r, hr, hholds⟩ := ih hrest (Nat.not_lt.1 hlt)
        exact ⟨r, List.mem_cons_of_mem _ hr, hholds⟩

/-- No position lies in two of the ranges. -/
theorem eq_of_holds (h : EndToEnd first parts last) {i j position : Nat} {r s : ScanRange}
    (hr : parts[i]? = some r) (hs : parts[j]? = some s) (hholds : r.holds position = true)
    (hholds' : s.holds position = true) : i = j := by
  obtain ⟨hi, rfl⟩ := List.getElem?_eq_some_iff.1 hr
  obtain ⟨hj, rfl⟩ := List.getElem?_eq_some_iff.1 hs
  have hpairwise := List.pairwise_iff_getElem.1 h.pairwise
  rw [holds_iff] at hholds hholds'
  rcases Nat.lt_trichotomy i j with hlt | heq | hgt
  · have := hpairwise i j hi hj hlt
    omega
  · exact heq
  · have := hpairwise j i hj hi hgt
    omega

/-- Positions that lie in the ranges, and in each range are those from its start to its end,
are all positions in some order. -/
theorem perm_range' (h : EndToEnd first parts last) {order : List Nat}
    (hplaced : ∀ p ∈ order, ∃ part ∈ parts, part.holds p = true)
    (hparts : ∀ part ∈ parts, order.filter part.holds = List.range' part.start part.size) :
    order.Perm (List.range' first (last - first)) := by
  refine List.perm_iff_count.2 fun p => ?_
  rw [List.count_range_1']
  by_cases hp : first ≤ p ∧ p < last
  · obtain ⟨part, hmem, hholds⟩ := h.exists_holds hp.1 hp.2
    rw [← List.count_filter hholds, hparts part hmem, List.count_range_1']
    rw [holds_iff] at hholds
    rw [if_pos (by rw [size]; omega), if_pos (by omega)]
  · rw [if_neg (by omega), List.count_eq_zero]
    intro hmem
    obtain ⟨part, hpart, hholds⟩ := hplaced p hmem
    obtain ⟨hfirst, -, hlast⟩ := h.bounds hpart
    rw [holds_iff] at hholds
    omega

end EndToEnd

end PatternScan.Analysis.ScanRange
