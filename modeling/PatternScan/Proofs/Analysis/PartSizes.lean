import Mathlib.Algebra.Ring.Nat
import PatternScan.Proofs.Analysis.RangeSplit

/-!
# Sizes of the parts of a range

The parts of a split differ in size by one position at most, and the larger ones come first. Their
ends are reckoned by adding up sizes; where the end of the range is a number of 64 bits, so is every
sum on the way.
-/

namespace PatternScan.Analysis.ScanRange

variable {base start count workers larger parts i : Nat} {part : ScanRange}

/-! ## Sizes -/

theorem size_partsFrom (h : (partsFrom base start larger parts)[i]? = some part) :
    part.size = base + if i < larger then 1 else 0 := by
  induction parts generalizing start larger i with
  | zero => cases h
  | succ parts ih =>
      cases i with
      | zero =>
          obtain rfl := Option.some.inj h
          simp only [size]
          omega
      | succ i =>
          have hbehind : i < larger - 1 ↔ i + 1 < larger := by omega
          have hsize := ih h
          rwa [if_congr hbehind rfl rfl] at hsize

/-- The positions are dealt out evenly, and the first parts get those left over. -/
theorem size_split (h : (split start count workers)[i]? = some part) :
    part.size = count / (split start count workers).length +
      if i < count % (split start count workers).length then 1 else 0 := by
  rw [length_split]
  exact size_partsFrom h

/-- There are no more parts than positions, so none is empty. -/
theorem start_lt_stop_of_mem_split (h : part ∈ split start count workers) :
    part.start < part.stop := by
  obtain ⟨i, hi⟩ := List.mem_iff_getElem?.1 h
  have hle : (split start count workers).length ≤ count := by
    rw [length_split]
    exact Nat.min_le_right _ _
  have hbase : 0 < count / (split start count workers).length :=
    Nat.div_pos hle (List.length_pos_of_mem h)
  have hsize := size_split hi
  rw [size] at hsize
  omega

theorem pairwise_size_split (start count workers : Nat) :
    (split start count workers).Pairwise fun p q => q.size ≤ p.size ∧ p.size ≤ q.size + 1 := by
  rw [List.pairwise_iff_getElem]
  intro i j hi hj hij
  rw [size_split (List.getElem?_eq_getElem hi), size_split (List.getElem?_eq_getElem hj)]
  split <;> split <;> omega

/-! ## Words -/

/-- The sum of two words, unless it is no word. -/
def checkedAdd (a b : UInt64) : Option UInt64 :=
  if a.toNat + b.toNat < 2 ^ 64 then some (a + b) else none

/-- The parts from `start` on as pairs of words, with every addition checked. -/
def wordPartsFrom (base : UInt64) : UInt64 → Nat → Nat → Option (List (UInt64 × UInt64))
  | _, _, 0 => some []
  | start, larger, parts + 1 => do
      let size ← checkedAdd base (if 0 < larger then 1 else 0)
      let stop ← checkedAdd start size
      let later ← wordPartsFrom base stop (larger - 1) parts
      return (start, stop) :: later

/-- The split of a range, reckoned in words with every addition checked. -/
def wordSplit (start count workers : UInt64) : Option (List (UInt64 × UInt64)) :=
  let parts := min (max workers 1) count
  if parts = 0 then some []
  else wordPartsFrom (count / parts) start (count % parts).toNat parts.toNat

/-- The range between two words. -/
def ofWords (ends : UInt64 × UInt64) : ScanRange := ⟨ends.1.toNat, ends.2.toNat⟩

theorem checkedAdd_eq_some {a b : UInt64} {m n : Nat} (ha : a.toNat = m) (hb : b.toNat = n)
    (h : m + n < 2 ^ 64) : ∃ c, checkedAdd a b = some c ∧ c.toNat = m + n := by
  subst ha hb
  exact ⟨a + b, if_pos h, by rw [UInt64.toNat_add, Nat.mod_eq_of_lt h]⟩

/-- If the end of the last part is a word, no addition overflows. -/
theorem wordPartsFrom_eq {first size : UInt64} (hfirst : first.toNat = start)
    (hsize : size.toNat = base) (hlarger : larger ≤ parts)
    (h : start + base * parts + larger < 2 ^ 64) :
    (wordPartsFrom size first larger parts).map (List.map ofWords) =
      some (partsFrom base start larger parts) := by
  induction parts generalizing first start larger with
  | zero => rfl
  | succ parts ih =>
      rw [Nat.mul_succ] at h
      have hone : (if 0 < larger then (1 : UInt64) else 0).toNat = if 0 < larger then 1 else 0 := by
        split <;> rfl
      have hroom : (if 0 < larger then 1 else 0) + (larger - 1) = larger := by split <;> omega
      obtain ⟨length, hlength, hlengthNat⟩ := checkedAdd_eq_some hsize hone (by omega)
      obtain ⟨stop, hstop, hstopNat⟩ := checkedAdd_eq_some hfirst hlengthNat (by omega)
      have hbehind : larger - 1 ≤ parts := by omega
      have hlater := ih hstopNat hbehind (by omega)
      obtain ⟨later, hwords, hparts⟩ := Option.map_eq_some_iff.1 hlater
      simp only [wordPartsFrom, hlength, hstop, hwords, Option.bind_eq_bind, Option.bind_some,
        Option.map_some, Option.pure_def, List.map_cons, hparts, partsFrom, ofWords, hfirst,
        hstopNat, Nat.add_assoc]

/-- Where the end of the range is a word, the split of words is that of numbers. -/
theorem wordSplit_eq {first number threads : UInt64} (hfirst : first.toNat = start)
    (hnumber : number.toNat = count) (hthreads : threads.toNat = workers)
    (h : start + count < 2 ^ 64) :
    (wordSplit first number threads).map (List.map ofWords) = some (split start count workers) := by
  have hparts : (min (max threads 1) number).toNat = min (max workers 1) count := by
    rw [UInt64.toNat_min, UInt64.toNat_max, hthreads, hnumber]
    rfl
  rw [wordSplit, split]
  split
  · next hnone =>
      rw [← hparts, hnone]
      rfl
  · next hsome =>
      have hpos : 0 < min (max workers 1) count := by
        rw [← hparts]
        exact Nat.pos_of_ne_zero fun hzero => hsome (UInt64.toNat_inj.1 hzero)
      rw [UInt64.toNat_mod, hparts, hnumber]
      refine wordPartsFrom_eq hfirst ?_ (Nat.le_of_lt (Nat.mod_lt _ hpos)) ?_
      · rw [UInt64.toNat_div, hparts, hnumber]
      · rw [Nat.add_assoc, Nat.mul_comm, Nat.div_add_mod]
        exact h

/-! ## The law -/

end PatternScan.Analysis.ScanRange
