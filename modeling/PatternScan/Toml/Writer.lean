import PatternScan.Toml.Scalar

/-!
# Writing texts for TOML

A text is written in the plainest notation that holds it: in double quotes if nothing
needs an escape, else in single quotes, else over several lines, and only then with
escapes. Tabulators are always written with an escape where escapes have a meaning.
-/

namespace PatternScan.Toml

/-- What a text holds that some notation cannot. -/
structure TextTraits where
  /-- The longest run of single quotes. -/
  singleRun : Nat
  /-- The longest run of double quotes. -/
  doubleRun : Nat
  backslash : Bool
  newline : Bool
  /-- A control character other than a line feed or a tabulator. -/
  control : Bool
  deriving DecidableEq, Repr

/-- The longest run of a character, `run` of which came right before. -/
def longestRun (quote : Char) (run : Nat) : List Char → Nat
  | [] => run
  | c :: rest =>
      if c == quote then longestRun quote (run + 1) rest
      else max run (longestRun quote 0 rest)

/-- The character cannot be written without an escape. -/
def isControl (c : Char) : Bool := (c < ' ' && c != '\t' && c != '\n') || c == '\x7f'

/-- The traits of a text. -/
def TextTraits.ofText (cs : List Char) : TextTraits :=
  ⟨longestRun '\'' 0 cs, longestRun '"' 0 cs, cs.contains '\\', cs.contains '\n', cs.any isControl⟩

/-- A notation for texts. -/
inductive TextForm where
  | basic
  | literal
  | foldedBasic
  | verbatim
  deriving DecidableEq, Repr

/-- The notation of a text with these traits. -/
def TextTraits.form (t : TextTraits) : TextForm :=
  if !t.control && !t.backslash && t.doubleRun = 0 && !t.newline then .basic
  else if !t.control && t.singleRun = 0 && !t.newline then .literal
  else if !t.control && !t.backslash && t.doubleRun ≤ 2 then .foldedBasic
  else if !t.control && t.singleRun ≤ 2 then .verbatim
  else if t.newline then .foldedBasic
  else .basic

/-- Four upper-case hexadecimal digits. -/
def hexQuad (n : Nat) : List Char :=
  let digits := (Nat.toDigits 16 n).map Char.toUpper
  List.replicate (4 - digits.length) '0' ++ digits

/-- A character other than a quote, with an escape where it needs one. -/
def escapeChar (folded : Bool) (c : Char) : List Char :=
  if c == '\x08' then ['\\', 'b']
  else if c == '\t' then ['\\', 't']
  else if c == '\n' then (if folded then ['\n'] else ['\\', 'n'])
  else if c == '\x0c' then ['\\', 'f']
  else if c == '\r' then ['\\', 'r']
  else if c == '\\' then ['\\', '\\']
  else if isControl c then ['\\', 'u'] ++ hexQuad c.toNat
  else [c]

/-- The characters with escapes, `run` double quotes without one coming right before. Over
several lines up to two in a row need none. -/
def escapeText (folded : Bool) (run : Nat) : List Char → List Char
  | [] => []
  | c :: rest =>
      if c == '"' then
        if (if folded then 2 else 0) < run + 1 then '\\' :: '"' :: escapeText folded 0 rest
        else '"' :: escapeText folded (run + 1) rest
      else escapeChar folded c ++ escapeText folded 0 rest

/-- A text in its notation. -/
def writeText (text : String) : String :=
  let cs := text.toList
  let traits := TextTraits.ofText cs
  let opening := if traits.newline then ['\n'] else []
  String.ofList <|
    match traits.form with
    | .basic => '"' :: escapeText false 0 cs ++ ['"']
    | .literal => '\'' :: cs ++ ['\'']
    | .foldedBasic => "\"\"\"".toList ++ opening ++ escapeText true 0 cs ++ "\"\"\"".toList
    | .verbatim => "'''".toList ++ opening ++ cs ++ "'''".toList

end PatternScan.Toml
