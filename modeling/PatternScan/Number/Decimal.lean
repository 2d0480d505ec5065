import PatternScan.Number.Integer
import PatternScan.Number.Binary64
import PatternScan.Text.Word

/-!
# Reading fractional numbers

A number is an optional sign followed by a word for infinity or for not-a-number, in any
case, or by decimal digits with at most one point and an optional exponent. At least one
digit must stand before the exponent. Nothing may be left over.
-/

namespace PatternScan.Number

/-- A number in decimal notation: its digits as one whole number, how many they are from
the first that is not zero on, and the power of ten that scales them. -/
structure Decimal where
  digits : Nat
  digitCount : Nat
  exponent : Int
  deriving DecidableEq, Repr

/-- Splits off the leading digits. -/
def spanDigits (cs : List Char) : List Char × List Char :=
  cs.span fun c => (digitValue? c).isSome

/-- The exponent that follows the digits: nothing, or a mark, an optional sign and at
least one digit. -/
def readExponent? : List Char → Option Int
  | [] => some 0
  | mark :: cs =>
      if mark == 'e' || mark == 'E' then
        match cs with
        | '-' :: ds => (readDigits? ds).map fun n => -(n : Int)
        | '+' :: ds => (readDigits? ds).map Int.ofNat
        | ds => (readDigits? ds).map Int.ofNat
      else
        none

/-- The decimal notation without its sign. -/
def readDecimal? (cs : List Char) : Option Decimal :=
  let (whole, rest) := spanDigits cs
  let (fraction, rest) := match rest with
    | '.' :: after => spanDigits after
    | _ => ([], rest)
  let digits := whole ++ fraction
  (readDigits? digits).bind fun n =>
    (readExponent? rest).map fun e =>
      ⟨n, (digits.dropWhile (· == '0')).length, e - fraction.length⟩

/-- The bits of the number without its sign. -/
def readMagnitude? (cs : List Char) : Option Nat :=
  let word := cs.map Text.lowerAscii
  if word == "inf".toList || word == "infinity".toList then some infinityBits
  else if word == "nan".toList then some nanBits
  else (readDecimal? cs).map fun d => decimalBits d.digits d.digitCount d.exponent

/-- The number that the text denotes. -/
def readFloat? (text : String) : Option Binary64 :=
  match text.toList with
  | '-' :: cs => (readMagnitude? cs).map (Binary64.ofMagnitude true)
  | '+' :: cs => (readMagnitude? cs).map (Binary64.ofMagnitude false)
  | cs => (readMagnitude? cs).map (Binary64.ofMagnitude false)

end PatternScan.Number
