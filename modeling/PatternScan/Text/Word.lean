import PatternScan.Text.Alphabetic
import PatternScan.Text.Mark
import PatternScan.Text.Numeral

/-!
# Word characters

A word character is alphabetic, a mark, a decimal digit, connector punctuation such as
the underscore, or one of the two joiners.
-/

namespace PatternScan.Text

/-- The ranges of connector punctuation and of the joiners. -/
def connectorRanges : CodeRanges :=
  [(95, 95), (8204, 8205), (8255, 8256), (8276, 8276), (65075, 65076), (65101, 65103),
    (65343, 65343)]

/-- The character belongs to a word. -/
def isWord (c : Char) : Bool :=
  alphabeticRanges.contains c || digitRanges.contains c || connectorRanges.contains c ||
    markRanges.contains c

/-- The character is a letter or a numeral of some script. -/
def isAlphanumeric (c : Char) : Bool :=
  alphabeticRanges.contains c || digitRanges.contains c || otherNumeralRanges.contains c

/-- The letter a capital of the Latin alphabet without accents stands for; every other
character stands for itself. -/
def lowerAscii (c : Char) : Char :=
  if 'A' ≤ c && c ≤ 'Z' then Char.ofNat (c.toNat + 32) else c

/-- Two texts are equal up to the case of unaccented Latin letters. -/
def sameAsciiText (a b : List Char) : Bool := a.map lowerAscii == b.map lowerAscii

end PatternScan.Text
