/-!
# Numbers in 64-bit floating point

A finite number of this format is a significand times a power of two. Reading a decimal
notation picks the number nearest to the written value, a tie going to the even
significand; a value beyond the greatest number becomes infinite.
-/

namespace PatternScan

/-- A number in 64-bit floating point, told by its bits. Infinities, both zeros and every
not-a-number value are told apart. -/
structure Binary64 where
  bits : UInt64
  deriving DecidableEq, Repr, Inhabited

namespace Number

/-- The quotient of `num` and `den` at scale `2 ^ exponent`, and what is left over, with
the divisor it is left over of. -/
def scaledQuotient (num den : Nat) (exponent : Int) : Nat × Nat × Nat :=
  let n := num * Nat.pow 2 (-exponent).toNat
  let d := den * Nat.pow 2 exponent.toNat
  (n / d, n % d, d)

/-- The quotient rounded to the nearest whole number, a tie going to the even one. -/
def roundTiesToEven (quotient remainder divisor : Nat) : Nat :=
  if 2 * remainder < divisor then quotient
  else if divisor < 2 * remainder then quotient + 1
  else if quotient % 2 = 0 then quotient
  else quotient + 1

/-- The least exponent of a finite number, taken with a whole significand. -/
def minExponent : Int := -1074

/-- The exponent at which the significand of `num / den` has 53 bits, or the least one. -/
def exponentOf (num den : Nat) : Int :=
  let guess : Int := (num.log2 : Int) - den.log2 - 53
  let exact := if (scaledQuotient num den guess).1 < Nat.pow 2 53 then guess else guess + 1
  max exact minExponent

/-- The bits of positive infinity. -/
def infinityBits : Nat := 0x7FF0000000000000

/-- The bits of a non-negative number from its significand and exponent. A significand
that rounding carried to 54 bits moves into the next exponent by itself. -/
def encodeBits (significand : Nat) (exponent : Int) : Nat :=
  let biased := (exponent - minExponent).toNat
  if significand < Nat.pow 2 52 then
    significand
  else
    min infinityBits (biased * Nat.pow 2 52 + significand)

/-- The bits of the number nearest to `num / den`. -/
def nearestBits (num den : Nat) : Nat :=
  if num = 0 then
    0
  else
    let exponent := exponentOf num den
    let (quotient, remainder, divisor) := scaledQuotient num den exponent
    encodeBits (roundTiesToEven quotient remainder divisor) exponent

/-- The bits of the number nearest to `digits * 10 ^ exponent`. Exponents so far out that
every number of so many digits is infinite or zero are settled first. -/
def decimalBits (digits : Nat) (digitCount : Nat) (exponent : Int) : Nat :=
  if digits = 0 || exponent + digitCount < -400 then 0
  else if 400 < exponent + digitCount then infinityBits
  else nearestBits (digits * Nat.pow 10 exponent.toNat) (Nat.pow 10 (-exponent).toNat)

/-- The bits of the quiet not-a-number value. -/
def nanBits : Nat := 0x7FF8000000000000

/-- The number multiplied by itself `exponent` times, by repeated squaring from the low
bit of the exponent up. The rounding of each product is part of the result. -/
def powerFrom (result base : Float) (exponent : Nat) : Float :=
  let next := if exponent % 2 = 1 then result * base else result
  if exponent / 2 = 0 then next else powerFrom next (base * base) (exponent / 2)
termination_by exponent
decreasing_by omega

/-- The number to a whole power. -/
def power (base : Float) (exponent : Nat) : Float := powerFrom 1.0 base exponent

end Number

namespace Binary64

/-- The number of the given bits below the sign bit, with a sign. -/
def ofMagnitude (negative : Bool) (magnitude : Nat) : Binary64 :=
  ⟨UInt64.ofNat (if negative then magnitude + Nat.pow 2 63 else magnitude)⟩

/-- The sign bit is set. -/
def isNegative (x : Binary64) : Bool := Nat.pow 2 63 ≤ x.bits.toNat

/-- The bits below the sign bit. -/
def magnitude (x : Binary64) : Nat := x.bits.toNat % Nat.pow 2 63

/-- The number with its sign changed. -/
def negate (x : Binary64) : Binary64 := ofMagnitude (!x.isNegative) x.magnitude

/-- The number is neither infinite nor not-a-number. -/
def isFinite (x : Binary64) : Bool := x.magnitude < Number.infinityBits

/-- The result of a computation that cannot yield not-a-number. -/
def ofFloat (x : Float) : Binary64 := ⟨x.toBits⟩

end Binary64

end PatternScan
