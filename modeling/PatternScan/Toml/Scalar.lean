import PatternScan.Number.Integer
import PatternScan.Number.Decimal
import PatternScan.Toml.Node

/-!
# Scalar values of TOML

Readers of the notations for text, numbers, dates and times. A reader takes what it can
from the front and yields what follows it.
-/

namespace PatternScan.Toml

/-- A reader yields a value and what follows it. -/
abbrev Reader (α : Type) := List Char → Option (α × List Char)

/-- A blank within a line. -/
def isSpace (c : Char) : Bool := c == ' ' || c == '\t'

/-- A character that may stand in a comment or, quotes aside, in a text. -/
def isPrintable (c : Char) : Bool := c == '\t' || (' ' ≤ c && c != '\x7f')

/-- Skips blanks within a line. -/
def skipSpaces (cs : List Char) : List Char := cs.dropWhile isSpace

/-- What follows a line break. -/
def newline? : List Char → Option (List Char)
  | '\n' :: rest => some rest
  | '\r' :: '\n' :: rest => some rest
  | _ => none

/-- What follows a fixed text. -/
def literal? : List Char → List Char → Option (List Char)
  | [], cs => some cs
  | a :: as, c :: cs => if a == c then literal? as cs else none
  | _ :: _, [] => none

/-! ## Text -/

/-- The value of a hexadecimal digit. -/
def hexValue? (c : Char) : Option Nat :=
  if '0' ≤ c && c ≤ '9' then some (c.toNat - 48)
  else if 'a' ≤ c && c ≤ 'f' then some (c.toNat - 87)
  else if 'A' ≤ c && c ≤ 'F' then some (c.toNat - 55)
  else none

/-- The value of digits in a base, each told by `digit?`. -/
def digitsValue? (base : Nat) (digit? : Char → Option Nat) (cs : List Char) : Option Nat :=
  cs.foldlM (fun value c => (digit? c).map fun d => value * base + d) 0

/-- The character of a number in hexadecimal, unless it is a surrogate or too great. -/
def charOfHex? (digits : List Char) : Option Char :=
  (digitsValue? 16 hexValue? digits).bind fun n =>
    if n.isValidChar then some (Char.ofNat n) else none

/-- The character of an escape of one letter. -/
def simpleEscape? : Char → Option Char
  | 'b' => some '\x08'
  | 't' => some '\t'
  | 'n' => some '\n'
  | 'f' => some '\x0c'
  | 'r' => some '\r'
  | '"' => some '"'
  | '\\' => some '\\'
  | _ => none

/-- Puts characters before the text that is read further on. -/
def before (cs : List Char) (answer : Option (List Char × List Char)) :
    Option (List Char × List Char) :=
  answer.map fun (text, rest) => (cs ++ text, rest)

/-- The rest of a text in double quotes on one line. -/
def readBasic : Reader (List Char)
  | '"' :: rest => some ([], rest)
  | '\\' :: 'u' :: a :: b :: c :: d :: rest =>
      (charOfHex? [a, b, c, d]).bind fun e => before [e] (readBasic rest)
  | '\\' :: 'U' :: a :: b :: c :: d :: e :: f :: g :: h :: rest =>
      (charOfHex? [a, b, c, d, e, f, g, h]).bind fun e => before [e] (readBasic rest)
  | '\\' :: c :: rest => (simpleEscape? c).bind fun e => before [e] (readBasic rest)
  | c :: rest => if isPrintable c && c != '\\' then before [c] (readBasic rest) else none
  | [] => none

/-- The rest of a text in single quotes on one line. -/
def readLiteral : Reader (List Char)
  | '\'' :: rest => some ([], rest)
  | c :: rest => if isPrintable c then before [c] (readLiteral rest) else none
  | [] => none

/-- Where the reader of a text over several lines stands. -/
inductive FoldStage where
  | text
  /-- Behind a backslash, before the end of its line. -/
  | lineEnd
  /-- Among the blanks and line breaks that a backslash at a line end takes away. -/
  | margin
  deriving DecidableEq, Repr

/-- The rest of a text in three double quotes. Up to two quotes may stand right before the
closing ones. -/
def readFolded : FoldStage → Reader (List Char)
  | .lineEnd, '\n' :: rest => readFolded .margin rest
  | .lineEnd, '\r' :: '\n' :: rest => readFolded .margin rest
  | .lineEnd, c :: rest => if isSpace c then readFolded .lineEnd rest else none
  | .margin, '\r' :: '\n' :: rest => readFolded .margin rest
  | _, '"' :: '"' :: '"' :: '"' :: '"' :: rest => some (['"', '"'], rest)
  | _, '"' :: '"' :: '"' :: '"' :: rest => some (['"'], rest)
  | _, '"' :: '"' :: '"' :: rest => some ([], rest)
  | _, '\\' :: 'u' :: a :: b :: c :: d :: rest =>
      (charOfHex? [a, b, c, d]).bind fun e => before [e] (readFolded .text rest)
  | _, '\\' :: 'U' :: a :: b :: c :: d :: e :: f :: g :: h :: rest =>
      (charOfHex? [a, b, c, d, e, f, g, h]).bind fun e => before [e] (readFolded .text rest)
  | _, '\\' :: '\n' :: rest => readFolded .margin rest
  | _, '\\' :: '\r' :: '\n' :: rest => readFolded .margin rest
  | _, '\\' :: c :: rest =>
      if isSpace c then readFolded .lineEnd rest
      else (simpleEscape? c).bind fun e => before [e] (readFolded .text rest)
  | _, '\r' :: '\n' :: rest => before ['\n'] (readFolded .text rest)
  | stage, c :: rest =>
      if stage = .margin && (isSpace c || c == '\n') then readFolded .margin rest
      else if (isPrintable c && c != '\\') || c == '\n' then before [c] (readFolded .text rest)
      else none
  | _, [] => none

/-- The rest of a text in three single quotes. Up to two quotes may stand right before the
closing ones. -/
def readVerbatim : Reader (List Char)
  | '\'' :: '\'' :: '\'' :: '\'' :: '\'' :: rest => some (['\'', '\''], rest)
  | '\'' :: '\'' :: '\'' :: '\'' :: rest => some (['\''], rest)
  | '\'' :: '\'' :: '\'' :: rest => some ([], rest)
  | '\r' :: '\n' :: rest => before ['\n'] (readVerbatim rest)
  | c :: rest => if isPrintable c || c == '\n' then before [c] (readVerbatim rest) else none
  | [] => none

/-- What follows a line break, if one comes first. -/
def skipNewline (cs : List Char) : List Char := (newline? cs).getD cs

/-- A text in quotes of any kind. A line break right behind three quotes is no part of it. -/
def readText : Reader String := fun cs =>
  let answer := match cs with
    | '"' :: '"' :: '"' :: rest => readFolded .text (skipNewline rest)
    | '"' :: rest => readBasic rest
    | '\'' :: '\'' :: '\'' :: rest => readVerbatim (skipNewline rest)
    | '\'' :: rest => readLiteral rest
    | _ => none
  answer.map fun (text, rest) => (String.ofList text, rest)

/-! ## Numbers -/

/-- Digits with single underscores between them, the underscores left out. An underscore
without a digit behind it is refused. -/
def readDigits (isDigit : Char → Bool) : Reader (List Char)
  | '_' :: c :: rest => if isDigit c then before [c] (readDigits isDigit rest) else none
  | ['_'] => none
  | c :: rest =>
      if isDigit c then before [c] (readDigits isDigit rest) else some ([], c :: rest)
  | [] => some ([], [])

/-- A digit of the decimal notation. -/
def isDecimal (c : Char) : Bool := (Number.digitValue? c).isSome

/-- At least one digit, then digits with single underscores between them. -/
def readRun (isDigit : Char → Bool) : Reader (List Char)
  | c :: rest => if isDigit c then before [c] (readDigits isDigit rest) else none
  | [] => none

/-- An optional sign. -/
def readSign : List Char → Bool × List Char
  | '-' :: rest => (true, rest)
  | '+' :: rest => (false, rest)
  | cs => (false, cs)

/-- A decimal number without superfluous zeros. -/
def readWhole : Reader (List Char)
  | '0' :: rest => some (['0'], rest)
  | cs => readRun isDecimal cs

/-- The greatest integer. -/
def maxInteger : Nat := 9223372036854775807

/-- An integer of 64 bits. -/
def integerOf? (negative : Bool) (magnitude : Nat) : Option Int :=
  if magnitude ≤ (if negative then maxInteger + 1 else maxInteger) then
    some (if negative then -(magnitude : Int) else magnitude)
  else none

/-- An integer in another base, without a sign. -/
def readBased (base : Nat) (digit? : Char → Option Nat) : Reader Int := fun cs =>
  (readRun (fun c => (digit? c).isSome) cs).bind fun (digits, rest) =>
    ((digitsValue? base digit? digits).bind (integerOf? false)).map fun n => (n, rest)

/-- The value of a digit below a base. -/
def digitBelow? (base : Nat) (c : Char) : Option Nat :=
  (Number.digitValue? c).filter (· < base)

/-- An integer. -/
def readInteger : Reader Int
  | '0' :: 'x' :: rest => readBased 16 hexValue? rest
  | '0' :: 'o' :: rest => readBased 8 (digitBelow? 8) rest
  | '0' :: 'b' :: rest => readBased 2 (digitBelow? 2) rest
  | cs =>
      let (negative, cs) := readSign cs
      (readWhole cs).bind fun (digits, rest) =>
        ((Number.readDigits? digits).bind (integerOf? negative)).map fun n => (n, rest)

/-- A fraction behind its point. -/
def readFraction : Reader (List Char)
  | '.' :: rest => before ['.'] (readRun isDecimal rest)
  | _ => none

/-- An exponent. -/
def readExponent : Reader (List Char)
  | c :: rest =>
      if c == 'e' || c == 'E' then
        let (negative, rest) := readSign rest
        before (if negative then ['e', '-'] else ['e']) (readRun isDecimal rest)
      else none
  | [] => none

/-- The digits, the fraction and the exponent of a fractional number, at least one of the two
latter. A point or an exponent mark without digits behind it is refused. -/
def readFractional : Reader (List Char) := fun cs =>
  (readWhole cs).bind fun (digits, rest) =>
    match rest with
    | '.' :: _ => (readFraction rest).bind fun (fraction, rest) =>
        match readExponent rest with
        | some (exponent, rest) => some (digits ++ fraction ++ exponent, rest)
        | none => some (digits ++ fraction, rest)
    | _ => before digits (readExponent rest)

/-- A fractional number that is no more than every finite one, or one of the words for
infinity and not-a-number. -/
def readFloat : Reader Unit := fun cs =>
  let (negative, unsigned) := readSign cs
  match literal? "inf".toList unsigned <|> literal? "nan".toList unsigned with
  | some rest => some ((), rest)
  | none => (readFractional unsigned).bind fun (digits, rest) =>
      match Number.readMagnitude? digits with
      | some magnitude =>
          if magnitude < Number.infinityBits || negative then some ((), rest) else none
      | none => none

/-! ## Dates and times -/

/-- A number of exactly so many digits. -/
def readFixed (count : Nat) : Reader Nat := fun cs =>
  let digits := cs.take count
  if digits.length = count then (Number.readDigits? digits).map fun n => (n, cs.drop count)
  else none

/-- A number of two digits between bounds. -/
def readBetween (low high : Nat) : Reader Nat := fun cs =>
  (readFixed 2 cs).filter fun (n, _) => low ≤ n && n ≤ high

/-- The number of days of a month. -/
def daysOf (year month : Nat) : Nat :=
  if month = 2 then
    if year % 4 = 0 ∧ (year % 100 ≠ 0 ∨ year % 400 = 0) then 29 else 28
  else if month = 4 ∨ month = 6 ∨ month = 9 ∨ month = 11 then 30
  else 31

/-- A date. -/
def readDate : Reader Unit := fun cs => do
  let (year, cs) ← readFixed 4 cs
  let cs ← literal? ['-'] cs
  let (month, cs) ← readBetween 1 12 cs
  let cs ← literal? ['-'] cs
  let (_, cs) ← readBetween 1 (daysOf year month) cs
  return ((), cs)

/-- A time of day. -/
def readTime : Reader Unit := fun cs => do
  let (_, cs) ← readBetween 0 23 cs
  let cs ← literal? [':'] cs
  let (_, cs) ← readBetween 0 59 cs
  let cs ← literal? [':'] cs
  let (_, cs) ← readBetween 0 60 cs
  match cs with
  | '.' :: c :: rest =>
      if isDecimal c then return ((), rest.dropWhile isDecimal) else return ((), '.' :: c :: rest)
  | _ => return ((), cs)

/-- The offset of a time zone. -/
def readOffset : Reader Unit
  | 'Z' :: rest => some ((), rest)
  | 'z' :: rest => some ((), rest)
  | '+' :: rest => readShift rest
  | '-' :: rest => readShift rest
  | _ => none
where
  /-- Hours and minutes. -/
  readShift : Reader Unit := fun cs => do
    let (_, cs) ← readBetween 0 23 cs
    let cs ← literal? [':'] cs
    let (_, cs) ← readBetween 0 59 cs
    return ((), cs)

/-- A time of day behind a date, with an optional offset. -/
def readTimeOfDate : Reader Unit
  | c :: rest =>
      if c == 'T' || c == 't' || c == ' ' then
        (readTime rest).map fun (_, rest) => ((), ((readOffset rest).map Prod.snd).getD rest)
      else none
  | [] => none

/-- A date, a time of day, or both. -/
def readMoment : Reader Unit := fun cs =>
  match readDate cs with
  | some (_, rest) => some ((), ((readTimeOfDate rest).map Prod.snd).getD rest)
  | none => readTime cs

/-- A number, a date or a time. -/
def readNumber : Reader Node := fun cs =>
  match readMoment cs with
  | some (_, rest) => some (.moment, rest)
  | none =>
      match readFloat cs with
      | some (_, rest) => some (.fraction, rest)
      | none => (readInteger cs).map fun (n, rest) => (.integer n, rest)

end PatternScan.Toml
