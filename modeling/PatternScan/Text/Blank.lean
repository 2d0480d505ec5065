import PatternScan.Text.CodeRanges

/-!
# Blank characters

Blank means the Unicode property White_Space.
-/

namespace PatternScan.Text

/-- The ranges of blank characters. -/
def blankRanges : CodeRanges :=
  [(9, 13), (32, 32), (133, 133), (160, 160), (5760, 5760), (8192, 8202), (8232, 8233),
    (8239, 8239), (8287, 8287), (12288, 12288)]

/-- The character is blank. -/
def isBlank (c : Char) : Bool := blankRanges.contains c

/-- The characters without the blanks at either end. -/
def trimChars (cs : List Char) : List Char :=
  ((cs.dropWhile isBlank).reverse.dropWhile isBlank).reverse

/-- The text without the blanks at either end. -/
def trim (text : String) : String := String.ofList (trimChars text.toList)

end PatternScan.Text
