/-!
# Colours

A colour has three channels of eight bits. Colours computed from arbitrary integers are
brought into range channel by channel.
-/

namespace PatternScan

/-- A colour of three eight-bit channels. -/
structure Color where
  red : UInt8
  green : UInt8
  blue : UInt8
  deriving DecidableEq, Repr, Inhabited

namespace Color

/-- The channel value nearest to an arbitrary integer. -/
def clampChannel (value : Int) : UInt8 :=
  if value < 0 then 0 else if 255 < value then 255 else UInt8.ofNat value.toNat

/-- The colour whose channels are nearest to the given integers. -/
def clamped (red green blue : Int) : Color :=
  ⟨clampChannel red, clampChannel green, clampChannel blue⟩

/-- The two upper-case hexadecimal digits of a channel. -/
def channelHex (value : UInt8) : List Char :=
  let digit (n : Nat) : Char := if n < 10 then Char.ofNat (48 + n) else Char.ofNat (55 + n)
  [digit (value.toNat / 16), digit (value.toNat % 16)]

/-- The colour written as `#RRGGBB`. -/
def hex (c : Color) : String :=
  String.ofList ('#' :: channelHex c.red ++ channelHex c.green ++ channelHex c.blue)

end Color

end PatternScan
