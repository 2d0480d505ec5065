/-!
# Integers in decimal notation

A number is written with ASCII digits only, at least one, after an optional sign. A
reader that has bounds accepts a number only inside them.
-/

namespace PatternScan.Number

/-- The value of a digit of the decimal notation. -/
def digitValue? (c : Char) : Option Nat :=
  if '0' ≤ c && c ≤ '9' then some (c.toNat - 48) else none

/-- Reads on from `value`, digit by digit. -/
def readDigitsFrom (value : Nat) : List Char → Option Nat
  | [] => some value
  | c :: cs => (digitValue? c).bind fun d => readDigitsFrom (value * 10 + d) cs

/-- The number that a non-empty run of digits denotes. -/
def readDigits? (cs : List Char) : Option Nat :=
  if cs.isEmpty then none else readDigitsFrom 0 cs

/-- The number of at most `limit` that the text denotes; a plus sign may precede it. -/
def readNat? (limit : Nat) (text : String) : Option Nat :=
  let digits := match text.toList with
    | '+' :: cs => cs
    | cs => cs
  (readDigits? digits).filter (· ≤ limit)

/-- The integer that the text denotes, with an optional sign, from `-limit - 1` to `limit`. -/
def readInt? (limit : Nat) (text : String) : Option Int :=
  match text.toList with
  | '-' :: cs => ((readDigits? cs).filter (· ≤ limit + 1)).map fun n => -(n : Int)
  | '+' :: cs => ((readDigits? cs).filter (· ≤ limit)).map Int.ofNat
  | cs => ((readDigits? cs).filter (· ≤ limit)).map Int.ofNat

/-- The greatest integer of 32 bits with a sign. -/
def maxInt32 : Nat := 2147483647

/-- The greatest number of 32 bits. -/
def maxNat32 : Nat := 4294967295

/-- The greatest number of 64 bits. -/
def maxNat64 : Nat := 18446744073709551615

end PatternScan.Number
