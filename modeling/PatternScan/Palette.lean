import PatternScan.Color

/-!
# Palettes

A palette is the list of colours handed out to groups that name no colour of their own.
A gradient is expanded into single colours by equal integer steps in each channel, so
the last step may be the largest.
-/

namespace PatternScan

/-- The colours handed out to groups in turn. -/
structure Palette where
  colors : List Color
  deriving DecidableEq, Repr, Inhabited

namespace Palette

/-- The number of colours between the two ends of a gradient of `n` colours. Fewer than
two asked for are taken as four. -/
def innerCount (n : Nat) : Nat := if 2 ≤ n then n - 2 else 2

/-- The step from `start` towards `stop` that is taken `parts` times, cut toward zero. -/
def channelStep (start stop : UInt8) (parts : Nat) : Int :=
  ((stop.toNat : Int) - start.toNat).tdiv parts

/-- The colour `index` steps after `start` on the way to `stop`. -/
def gradientColor (start stop : Color) (parts index : Nat) : Color :=
  let at' (a b : UInt8) : Int := a.toNat + channelStep a b parts * index
  Color.clamped (at' start.red stop.red) (at' start.green stop.green) (at' start.blue stop.blue)

/-- The colours of a gradient: both ends, and equal steps between them. -/
def gradientColors (start stop : Color) (n : Nat) : List Color :=
  let inner := innerCount n
  start ::
    ((List.range inner).map fun i => gradientColor start stop (inner + 1) (i + 1)) ++ [stop]

/-- The palette of a gradient. -/
def gradient (start stop : Color) (n : Nat) : Palette := ⟨gradientColors start stop n⟩

/-- The palette of one colour. -/
def mono (color : Color) : Palette := ⟨[color]⟩

/-- The palette used unless another is asked for. -/
def standard : Palette := gradient ⟨255, 255, 0⟩ ⟨0, 255, 255⟩ 3

/-- The number of colours. -/
def size (p : Palette) : Nat := p.colors.length

/-- The palette holds no colour. -/
def isEmpty (p : Palette) : Bool := p.colors.isEmpty

/-- The colour at an index. -/
def get? (p : Palette) (index : Nat) : Option Color := p.colors[index]?

end Palette

end PatternScan
