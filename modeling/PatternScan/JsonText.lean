import PatternScan.Number.Render

/-!
# Writing JSON

A value is written on one line without blanks. Characters beyond ASCII stand for
themselves; infinities and not-a-number have no notation and become `null`.
-/

namespace PatternScan

/-- A value to be written as JSON. -/
inductive JsonText where
  | null
  | boolean (b : Bool)
  | natural (n : Nat)
  | float (x : Binary64)
  | text (s : String)
  | list (items : List JsonText)
  /-- Keys with their values, in this order. -/
  | object (entries : List (String × JsonText))
  deriving Repr, Inhabited

namespace JsonText

/-- A control character by its number. -/
def controlEscape (c : Char) : List Char :=
  let digits := Nat.toDigits 16 c.toNat
  ['\\', 'u'] ++ List.replicate (4 - digits.length) '0' ++ digits

/-- A character between quotes. -/
def writeChar (c : Char) : List Char :=
  match c with
  | '"' => ['\\', '"']
  | '\\' => ['\\', '\\']
  | '\x08' => ['\\', 'b']
  | '\x0c' => ['\\', 'f']
  | '\n' => ['\\', 'n']
  | '\r' => ['\\', 'r']
  | '\t' => ['\\', 't']
  | c => if c < ' ' then controlEscape c else [c]

/-- A text between quotes. -/
def writeText (s : String) : String :=
  String.ofList ('"' :: s.toList.flatMap writeChar ++ ['"'])

/-- A fractional number. -/
def writeFloat (x : Binary64) : String :=
  if x.isFinite then Number.render Number.jsonStyle x else "null"

/-- A value or nothing. -/
def ofOption {α : Type} (write : α → JsonText) : Option α → JsonText
  | some a => write a
  | none => null

mutual

/-- The value on one line. -/
def render : JsonText → String
  | null => "null"
  | boolean b => if b then "true" else "false"
  | natural n => toString n
  | float x => writeFloat x
  | text s => writeText s
  | list items => "[" ++ ",".intercalate (renderItems items) ++ "]"
  | object entries => "\x7b" ++ ",".intercalate (renderEntries entries) ++ "\x7d"

/-- Each item of a list. -/
def renderItems : List JsonText → List String
  | [] => []
  | item :: rest => render item :: renderItems rest

/-- Each key of an object with its value. -/
def renderEntries : List (String × JsonText) → List String
  | [] => []
  | (key, value) :: rest => (writeText key ++ ":" ++ render value) :: renderEntries rest

end

end JsonText

end PatternScan
