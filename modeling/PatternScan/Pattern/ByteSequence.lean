import PatternScan.Pattern.CharSet

/-!
# Sets of characters as bytes

In UTF-8 the characters of a set are the byte sequences that take, place by place, a byte
from each of a sequence of ranges. A range of code points is divided so that each part is
one such sequence; the sequences are in the order of the characters.
-/

namespace PatternScan.Pattern

/-- Bytes from a first to a last one. -/
abbrev ByteRange := Nat × Nat

/-- Ranges of bytes, place by place. -/
abbrev ByteSequence := List ByteRange

/-- The range of all bytes that may follow a leading one. -/
def trailing : ByteRange := (0x80, 0xBF)

/-- The sequences for the numbers from `first` to `last` that are written with a leading
byte counted from `lead` and `count` bytes after it, six bits each. -/
def sequencesOf (lead first last : Nat) : Nat → List ByteSequence
  | 0 => [[(lead + first, lead + last)]]
  | count + 1 =>
      let block := Nat.pow 64 (count + 1)
      let low := first / block
      let high := last / block
      let part (index first last : Nat) : List ByteSequence :=
        (sequencesOf 0x80 first last count).map ((lead + index, lead + index) :: ·)
      if low = high then part low (first % block) (last % block)
      else
        let opensLate := first % block != 0
        let closesEarly := last % block != block - 1
        let start := if opensLate then low + 1 else low
        let stop := if closesEarly then high else high + 1
        (if opensLate then part low (first % block) (block - 1) else []) ++
          (if start < stop then
            [(lead + start, lead + stop - 1) :: List.replicate (count + 1) trailing] else []) ++
          (if closesEarly then part high 0 (last % block) else [])

/-- Code points that are written alike: with a leading byte counted from `lead` and `count`
bytes after it. -/
structure CodeBlock where
  first : Nat
  last : Nat
  lead : Nat
  count : Nat
  deriving DecidableEq, Repr

/-- The blocks of all characters. -/
def codeBlocks : List CodeBlock :=
  [⟨0, 0x7F, 0, 0⟩, ⟨0x80, 0x7FF, 0xC0, 1⟩, ⟨0x800, 0xD7FF, 0xE0, 2⟩,
    ⟨0xE000, 0xFFFF, 0xE0, 2⟩, ⟨0x10000, 0x10FFFF, 0xF0, 3⟩]

namespace CharSet

/-- The byte sequences of the characters of the set. -/
def byteSequences (s : CharSet) : List ByteSequence :=
  s.ranges.flatMap fun (a, b) =>
    codeBlocks.flatMap fun block =>
      let first := max a block.first
      let last := min b block.last
      if first ≤ last then sequencesOf block.lead first last block.count else []

end CharSet

end PatternScan.Pattern
