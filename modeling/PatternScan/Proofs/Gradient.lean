import Mathlib.Algebra.Ring.Int.Defs
import Mathlib.Algebra.Ring.Nat
import Mathlib.Data.List.Basic
import PatternScan.Palette

/-!
# Gradients

In each channel a gradient goes from the value of one end to that of the other by equal steps and
one last step. The steps are cut toward zero, so none goes too far: no value leaves the interval
between the two ends, bringing it into range changes nothing, and what is still to go is left to
the last step. A falling channel is a rising one read backwards.
-/

namespace PatternScan

namespace Color

/-- The three channels of a colour. -/
def channels : List (Color → UInt8) := [red, green, blue]

theorem toNat_clampChannel {value : Int} (hlow : 0 ≤ value) (hhigh : value ≤ 255) :
    ((clampChannel value).toNat : Int) = value := by
  have hsize : value.toNat % 2 ^ 8 = value.toNat := Nat.mod_eq_of_lt (by omega)
  rw [clampChannel, if_neg (by omega), if_neg (by omega), UInt8.toNat_ofNat', hsize]
  exact Int.toNat_of_nonneg hlow

end Color

namespace Palette

variable {channel : Color → UInt8} {a b : UInt8} {parts index inner count n : Nat}
  {first step last : Int} {values : List Int} {P : Int → Prop}

/-! ## One channel -/

/-- Where a channel stands after some steps, before it is brought into range. -/
def reached (a b : UInt8) (parts index : Nat) : Int := a.toNat + channelStep a b parts * index

theorem channel_gradientColor (h : channel ∈ Color.channels) (start stop : Color)
    (parts index : Nat) :
    channel (gradientColor start stop parts index) =
      Color.clampChannel (reached (channel start) (channel stop) parts index) := by
  simp only [Color.channels, List.mem_cons, List.not_mem_nil, or_false] at h
  rcases h with rfl | rfl | rfl <;> rfl

theorem channelStep_swap (a b : UInt8) (parts : Nat) :
    channelStep b a parts = -channelStep a b parts := by
  rw [channelStep, channelStep, ← Int.neg_tdiv, Int.neg_sub]

theorem channelStep_nonneg (h : a.toNat ≤ b.toNat) (parts : Nat) : 0 ≤ channelStep a b parts :=
  Int.tdiv_nonneg (by omega) (Int.natCast_nonneg parts)

theorem channelStep_mul_le (h : a.toNat ≤ b.toNat) (parts : Nat) :
    channelStep a b parts * parts ≤ (b.toNat : Int) - a.toNat := by
  rw [Int.mul_comm]
  exact Int.mul_tdiv_self_le (by omega)

theorem reached_succ (a b : UInt8) (parts index : Nat) :
    reached a b parts (index + 1) = reached a b parts index + channelStep a b parts := by
  rw [reached, reached, Int.natCast_succ, Int.mul_add, Int.mul_one, Int.add_assoc]

/-- The way back stands as far from its start as the way there from its own. -/
theorem reached_add_swap (a b : UInt8) (parts index : Nat) :
    reached a b parts index + reached b a parts index = a.toNat + b.toNat := by
  rw [reached, reached, channelStep_swap, Int.neg_mul]
  omega

theorem reached_of_le (h : a.toNat ≤ b.toNat) (hindex : index ≤ parts) :
    (a.toNat : Int) ≤ reached a b parts index ∧ reached a b parts index ≤ b.toNat := by
  have hstep := channelStep_nonneg h parts
  have hway : 0 ≤ channelStep a b parts * index :=
    Int.mul_nonneg hstep (Int.natCast_nonneg index)
  have hrest : channelStep a b parts * index ≤ channelStep a b parts * parts :=
    Int.mul_le_mul_of_nonneg_left (Int.ofNat_le.2 hindex) hstep
  have hend := channelStep_mul_le h parts
  rw [reached]
  omega

theorem reached_of_ge (h : b.toNat ≤ a.toNat) (hindex : index ≤ parts) :
    (b.toNat : Int) ≤ reached a b parts index ∧ reached a b parts index ≤ a.toNat := by
  have hback := reached_of_le h hindex
  have hsum := reached_add_swap a b parts index
  omega

/-- No step leaves the interval between the two ends. -/
theorem reached_between (a b : UInt8) (hindex : index ≤ parts) :
    min (a.toNat : Int) b.toNat ≤ reached a b parts index ∧
      reached a b parts index ≤ max (a.toNat : Int) b.toNat := by
  rcases Nat.le_total a.toNat b.toNat with hle | hge
  · have hrising := reached_of_le hle hindex
    omega
  · have hfalling := reached_of_ge hge hindex
    omega

/-- On the way up the last step is at least as large as the others. -/
theorem step_le_last (h : a.toNat ≤ b.toNat) (inner : Nat) :
    0 ≤ channelStep a b (inner + 1) ∧
      channelStep a b (inner + 1) ≤ b.toNat - reached a b (inner + 1) inner := by
  have hend := (reached_of_le h (Nat.le_refl (inner + 1))).2
  rw [reached_succ] at hend
  exact ⟨channelStep_nonneg h _, by omega⟩

/-- On the way down it is at least as large in the other direction. -/
theorem last_le_step (h : b.toNat ≤ a.toNat) (inner : Nat) :
    b.toNat - reached a b (inner + 1) inner ≤ channelStep a b (inner + 1) ∧
      channelStep a b (inner + 1) ≤ 0 := by
  have hback := step_le_last h inner
  have hsum := reached_add_swap a b (inner + 1) inner
  rw [channelStep_swap] at hback
  omega

/-! ## Differences between neighbours -/

/-- What each value of a list is above the one before it. -/
def differences (values : List Int) : List Int :=
  List.zipWith (fun before after => after - before) values values.tail

theorem differences_cons_cons (v w : Int) (rest : List Int) :
    differences (v :: w :: rest) = (w - v) :: differences (w :: rest) := rfl

theorem isChain_of_differences (h : ∀ d ∈ differences values, P d) :
    values.IsChain fun before after => P (after - before) := by
  induction values with
  | nil => exact List.IsChain.nil
  | cons v rest ih =>
      cases rest with
      | nil => exact List.IsChain.singleton v
      | cons w rest =>
          rw [differences_cons_cons, List.forall_mem_cons] at h
          exact List.IsChain.cons_cons h.1 (ih h.2)

theorem pairwise_le_of_differences (h : ∀ d ∈ differences values, 0 ≤ d) :
    values.Pairwise (· ≤ ·) :=
  List.isChain_iff_pairwise.1 ((isChain_of_differences h).imp fun _ _ => Int.le_of_sub_nonneg)

theorem pairwise_ge_of_differences (h : ∀ d ∈ differences values, d ≤ 0) :
    values.Pairwise (· ≥ ·) :=
  List.isChain_iff_pairwise.1 ((isChain_of_differences h).imp fun _ _ => Int.le_of_sub_nonpos)

/-- A value, others at equal steps from it, and a last one. -/
def climb (first step last : Int) (count : Nat) : List Int :=
  first :: ((List.range count).map fun index : Nat => first + step * (index + 1 : Nat)) ++ [last]

theorem climb_succ (first step last : Int) (count : Nat) :
    climb first step last (count + 1) = first :: climb (first + step) step last count := by
  have hshift : (fun index : Nat => first + step * (index + 1 : Nat)) ∘ Nat.succ =
      fun index : Nat => first + step + step * (index + 1 : Nat) := by
    funext index
    simp only [Function.comp_apply, Nat.succ_eq_add_one, Int.natCast_succ, Int.mul_add,
      Int.mul_one]
    omega
  rw [climb, List.range_succ_eq_map, List.map_cons, List.map_map, hshift, Nat.zero_add,
    Int.natCast_one, Int.mul_one]
  rfl

theorem getElem?_climb (h : index ≤ count) :
    (climb first step last count)[index]? = some (first + step * index) := by
  cases index with
  | zero =>
      rw [Int.natCast_zero, Int.mul_zero, Int.add_zero]
      rfl
  | succ index =>
      have hlt : index < count := h
      rw [climb, List.cons_append, List.getElem?_cons_succ, List.getElem?_append_left,
        List.getElem?_map, List.getElem?_range hlt, Option.map_some]
      rwa [List.length_map, List.length_range]

theorem differences_cons_climb (v first step last : Int) (count : Nat) :
    differences (v :: climb first step last count) =
      (first - v) :: differences (climb first step last count) := rfl

theorem differences_climb (first step last : Int) (count : Nat) :
    differences (climb first step last count) =
      List.replicate count step ++ [last - (first + step * count)] := by
  induction count generalizing first with
  | zero =>
      rw [Int.natCast_zero, Int.mul_zero, Int.add_zero]
      rfl
  | succ count ih =>
      have hstep : first + step - first = step := by omega
      have hway : first + step + step * count = first + step * (count + 1 : Nat) := by
        rw [Int.natCast_succ, Int.mul_add, Int.mul_one]
        omega
      rw [climb_succ, differences_cons_climb, ih, hstep, hway, List.replicate_succ,
        List.cons_append]

theorem pairwise_le_climb (h : 0 ≤ step ∧ step ≤ last - (first + step * count)) :
    (climb first step last count).Pairwise (· ≤ ·) := by
  refine pairwise_le_of_differences fun d hd => ?_
  rw [differences_climb, List.mem_append, List.mem_replicate, List.mem_singleton] at hd
  rcases hd with ⟨-, rfl⟩ | rfl
  · exact h.1
  · exact Int.le_trans h.1 h.2

theorem pairwise_ge_climb (h : last - (first + step * count) ≤ step ∧ step ≤ 0) :
    (climb first step last count).Pairwise (· ≥ ·) := by
  refine pairwise_ge_of_differences fun d hd => ?_
  rw [differences_climb, List.mem_append, List.mem_replicate, List.mem_singleton] at hd
  rcases hd with ⟨-, rfl⟩ | rfl
  · exact h.2
  · exact Int.le_trans h.1 h.2

/-! ## The values of a channel -/

/-- The values of a channel along a list of colours. -/
def channelValues (channel : Color → UInt8) (colors : List Color) : List Int :=
  colors.map fun c => ((channel c).toNat : Int)

/-- Bringing the values into range has changed none of them. -/
theorem channelValues_gradientColors (h : channel ∈ Color.channels) (start stop : Color)
    (n : Nat) :
    channelValues channel (gradientColors start stop n) =
      climb (channel start).toNat
        (channelStep (channel start) (channel stop) (innerCount n + 1)) (channel stop).toNat
        (innerCount n) := by
  have hinner : ∀ i ∈ List.range (innerCount n),
      ((channel (gradientColor start stop (innerCount n + 1) (i + 1))).toNat : Int) =
        reached (channel start) (channel stop) (innerCount n + 1) (i + 1) := by
    intro i hi
    have hle : i + 1 ≤ innerCount n + 1 := Nat.succ_le_succ (Nat.le_of_lt (List.mem_range.1 hi))
    have hbetween := reached_between (channel start) (channel stop) hle
    have hstart := (channel start).toNat_lt
    have hstop := (channel stop).toNat_lt
    rw [channel_gradientColor h]
    exact Color.toNat_clampChannel (by omega) (by omega)
  rw [channelValues, gradientColors, climb, List.map_append, List.map_cons, List.map_map]
  exact congrArg (fun inner => _ :: inner ++ _) (List.map_congr_left hinner)

theorem length_gradientColors (start stop : Color) (n : Nat) :
    (gradientColors start stop n).length = if 2 ≤ n then n else 4 := by
  simp only [gradientColors, List.length_append, List.length_cons, List.length_map,
    List.length_range, List.length_nil, innerCount]
  split <;> omega

/-! ## Signed words -/

/-- An integer that is a signed word of 64 bits. -/
def signedWord? (value : Int) : Option Int :=
  if -2 ^ 63 ≤ value ∧ value < 2 ^ 63 then some value else none

/-- Where a channel stands after some steps, reckoned in signed words. -/
def wordReached? (a b : UInt8) (inner index : Nat) : Option Int := do
  let inner ← signedWord? inner
  let parts ← signedWord? (inner + 1)
  let apart ← signedWord? ((b.toNat : Int) - a.toNat)
  let step ← signedWord? (apart.tdiv parts)
  let index ← signedWord? index
  let way ← signedWord? (step * index)
  signedWord? (a.toNat + way)

theorem signedWord?_eq_some {value : Int} (h : value.natAbs < 2 ^ 63) :
    signedWord? value = some value :=
  if_pos (by omega)

theorem innerCount_succ_lt (h : n < 2 ^ 63) : innerCount n + 1 < 2 ^ 63 := by
  rw [innerCount]
  split <;> omega

/-- Where the number of steps is a signed word, so is every number on the way. -/
theorem wordReached?_eq (a b : UInt8) (hinner : inner + 1 < 2 ^ 63) (hindex : index ≤ inner) :
    wordReached? a b inner index = some (reached a b (inner + 1) index) := by
  have ha := a.toNat_lt
  have hb := b.toNat_lt
  have hle : index ≤ inner + 1 := Nat.le_succ_of_le hindex
  have hfirst := reached_between a b (Nat.le_add_left 1 inner)
  have hhere := reached_between a b hle
  have hone : a.toNat + channelStep a b (inner + 1) = reached a b (inner + 1) 1 := by
    rw [reached, Int.natCast_one, Int.mul_one]
  have hway : a.toNat + channelStep a b (inner + 1) * index = reached a b (inner + 1) index := rfl
  have hcut : ((b.toNat : Int) - a.toNat).tdiv (inner + 1) = channelStep a b (inner + 1) := by
    rw [channelStep, Int.natCast_succ]
  rw [wordReached?]
  refine Option.bind_eq_some_iff.2 ⟨inner, signedWord?_eq_some (by omega), ?_⟩
  refine Option.bind_eq_some_iff.2 ⟨inner + 1, signedWord?_eq_some (by omega), ?_⟩
  refine Option.bind_eq_some_iff.2 ⟨_, signedWord?_eq_some (by omega), ?_⟩
  refine Option.bind_eq_some_iff.2 ⟨_, signedWord?_eq_some (by rw [hcut]; omega), ?_⟩
  rw [hcut]
  refine Option.bind_eq_some_iff.2 ⟨index, signedWord?_eq_some (by omega), ?_⟩
  refine Option.bind_eq_some_iff.2 ⟨_, signedWord?_eq_some (by omega), ?_⟩
  rw [hway]
  exact signedWord?_eq_some (by omega)

/-! ## The law -/

end Palette

end PatternScan
