import PatternScan.Number.Binary64

/-!
# The shortest decimal digits of a number

Among the decimals that read back as a given number, those with the fewest digits are
chosen, and of these the nearest to the number. For each count of digits the two
neighbours of the number on that decimal grid are tested in exact arithmetic; if any
point of the grid reads back, one of the two does.
-/

namespace PatternScan.Number

/-- A finite positive number as `significand * 2 ^ exponent`. -/
structure Finite where
  significand : Nat
  exponent : Int
  deriving DecidableEq, Repr

/-- The finite number of the given bits; the sign bit must be clear. -/
def Finite.ofBits (bits : Nat) : Finite :=
  let biased := bits / Nat.pow 2 52
  let fraction := bits % Nat.pow 2 52
  if biased = 0 then ⟨fraction, minExponent⟩
  else ⟨fraction + Nat.pow 2 52, minExponent + (biased - 1 : Nat)⟩

/-- The decimal `digits * 10 ^ exponent`. -/
structure Digits where
  digits : Nat
  exponent : Int
  deriving DecidableEq, Repr

/-- The reals that read back as a number, in quarters of its unit: the number itself and
the two ends, which belong to it when its significand is even. Below a power of two the
next number is only half as far away. -/
structure Neighbourhood where
  low : Nat
  value : Nat
  high : Nat
  closed : Bool
  deriving DecidableEq, Repr

namespace Finite

/-- The reals that read back as the number. -/
def neighbourhood (x : Finite) : Neighbourhood :=
  let m := x.significand
  let below := if m = Nat.pow 2 52 ∧ minExponent < x.exponent then 1 else 2
  ⟨4 * m - below, 4 * m, 4 * m + 2, m % 2 == 0⟩

/-- Quarters of the unit as a fraction: the factor and the divisor of `2 ^ (exponent - 2)`. -/
def quarterScale (x : Finite) : Nat × Nat :=
  (Nat.pow 2 (x.exponent - 2).toNat, Nat.pow 2 (2 - x.exponent).toNat)

/-- The least power of ten, from `10 ^ -fuel` up, that makes `num / den` at least one. -/
def scaleUp (num den : Nat) : Nat → Nat → Nat
  | 0, j => j
  | fuel + 1, j => if den ≤ num * Nat.pow 10 j then j else scaleUp num den fuel (j + 1)

/-- The decimal exponent of the number's first significant digit. -/
def leadingExponent (num den : Nat) : Int :=
  if den ≤ num then ((Nat.toDigits 10 (num / den)).length : Int) - 1
  else -(scaleUp num den 400 1 : Int)

/-- The nearest of the two neighbours of the number on the grid of `10 ^ exponent` that
read back as it, if one does; an exact tie goes to the even neighbour. -/
def onGrid (x : Finite) (exponent : Int) : Option Nat :=
  let near := x.neighbourhood
  let (factor, divisor) := x.quarterScale
  let grid := Nat.pow 10 exponent.toNat * divisor
  let unit := factor * Nat.pow 10 (-exponent).toNat
  let down := near.value * unit / grid
  let inside (d : Nat) : Bool :=
    if near.closed then near.low * unit ≤ d * grid && d * grid ≤ near.high * unit
    else near.low * unit < d * grid && d * grid < near.high * unit
  let up := down + 1
  let below := near.value * unit - down * grid
  let above := up * grid - near.value * unit
  match inside down, inside up with
  | true, true =>
      if below < above || (below == above && down % 2 == 0) then some down else some up
  | true, false => some down
  | false, true => some up
  | false, false => none

/-- Tries grids that are finer by one digit each time. -/
def searchGrid (x : Finite) (exponent : Int) : Nat → Digits
  | 0 => ⟨0, 0⟩
  | fuel + 1 =>
      match x.onGrid exponent with
      | some digits => ⟨digits, exponent⟩
      | none => searchGrid x (exponent - 1) fuel

/-- Drops trailing zeros of the digits. -/
def dropZeros : Nat → Digits → Digits
  | 0, d => d
  | fuel + 1, d =>
      if d.digits ≠ 0 ∧ d.digits % 10 = 0 then dropZeros fuel ⟨d.digits / 10, d.exponent + 1⟩
      else d

/-- The fewest digits that read back as the number. Seventeen always do. -/
def shortest (x : Finite) : Digits :=
  if x.significand = 0 then ⟨0, 0⟩
  else
    let (factor, divisor) := x.quarterScale
    let start := leadingExponent (4 * x.significand * factor) divisor
    dropZeros 20 (x.searchGrid start 18)

end Finite

end PatternScan.Number
