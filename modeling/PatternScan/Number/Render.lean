import PatternScan.Number.Shortest

/-!
# Writing fractional numbers

A number is written with its shortest digits. A style says for which magnitudes the
digits are written around a point and for which with an exponent, and whether a whole
number keeps a zero after the point.
-/

namespace PatternScan.Number

/-- How numbers are written. Magnitudes are told by the decimal exponent of the first
digit. -/
structure FloatStyle where
  positional : Int → Bool
  keepsPoint : Bool

/-- Digits around a point, whatever the magnitude: `1000`, `0.0000001`. -/
def plainStyle : FloatStyle := ⟨fun _ => true, false⟩

/-- Digits around a point from `0.00001` up to below `10 ^ 16`, always with a digit after
the point; otherwise an exponent with its sign: `100.0`, `1e+16`, `1.5e-7`. -/
def jsonStyle : FloatStyle := ⟨fun e => -5 ≤ e && e ≤ 15, true⟩

/-- Digits around a point. -/
def writePositional (keepsPoint : Bool) (d : Digits) : String :=
  let ds := Nat.toDigits 10 d.digits
  if 0 ≤ d.exponent then
    String.ofList (ds ++ List.replicate d.exponent.toNat '0') ++ (if keepsPoint then ".0" else "")
  else
    let places := (-d.exponent).toNat
    let padded := List.replicate (places + 1 - ds.length) '0' ++ ds
    let whole := padded.length - places
    String.ofList (padded.take whole) ++ "." ++ String.ofList (padded.drop whole)

/-- One digit, a point if more follow, and the exponent with its sign. -/
def writeScientific (d : Digits) : String :=
  let ds := Nat.toDigits 10 d.digits
  let exponent := d.exponent + (ds.length - 1 : Nat)
  let tail := if ds.length ≤ 1 then "" else "." ++ String.ofList (ds.drop 1)
  let sign := if exponent < 0 then "-" else "+"
  String.ofList (ds.take 1) ++ tail ++ "e" ++ sign ++ toString exponent.natAbs

/-- The text of a finite number without its sign. -/
def writeFinite (style : FloatStyle) (x : Finite) : String :=
  let d := x.shortest
  let leading := d.exponent + ((Nat.toDigits 10 d.digits).length - 1 : Nat)
  if style.positional leading then writePositional style.keepsPoint d
  else writeScientific d

/-- The text of a finite number, infinity, or not-a-number. Zero keeps its sign. -/
def render (style : FloatStyle) (x : Binary64) : String :=
  if infinityBits < x.magnitude then "NaN"
  else
    let sign := if x.isNegative then "-" else ""
    if x.magnitude = infinityBits then sign ++ "inf"
    else sign ++ writeFinite style (Finite.ofBits x.magnitude)

end PatternScan.Number
