import PatternScan.Pattern.Fault
import PatternScan.Text.Blank

/-!
# Diagnostics of faults

A diagnostic shows the pattern line by line, carets under the characters at fault, and
the broken rule. A pattern with line breaks is shown with line numbers between rules of
tildes.
-/

namespace PatternScan.Pattern

/-- A place of a pattern, both numbers counted from one. -/
structure Place where
  line : Nat
  column : Nat
  deriving DecidableEq, Repr

/-- The place of the character at a position, that of the first being `line` and `column`. -/
def placeFrom (line column : Nat) : List Char → Nat → Place
  | [], _ => ⟨line, column⟩
  | _ :: _, 0 => ⟨line, column⟩
  | c :: cs, pos + 1 =>
      if c == '\n' then placeFrom (line + 1) 1 cs pos else placeFrom line (column + 1) cs pos

/-- Part of one line, or of several, from one place up to another, the latter excluded. -/
structure Mark where
  start : Place
  stop : Place
  deriving DecidableEq, Repr

namespace Mark

/-- The mark of an extent. -/
def ofExtent (cs : List Char) (e : Extent) : Mark :=
  ⟨placeFrom 1 1 cs e.start, placeFrom 1 1 cs e.stop⟩

/-- The mark stays on one line. -/
def isOneLine (m : Mark) : Bool := m.start.line == m.stop.line

/-- `m.precedes n` says that `m` may be drawn before `n`. -/
def precedes (m n : Mark) : Bool :=
  m.start.line < n.start.line || (m.start.line == n.start.line && m.start.column ≤ n.start.column)

end Mark

/-- Splits characters at line feeds; `line` holds the line begun, last character first. -/
def splitLines (line : List Char) : List Char → List (List Char)
  | [] => if line.isEmpty then [] else [line.reverse]
  | c :: cs =>
      if c == '\n' then
        (match line with
          | '\r' :: rest => rest.reverse
          | _ => line.reverse) :: splitLines [] cs
      else splitLines (c :: line) cs

/-- Carets under the marks of one line, from `column` on; every mark has at least one. -/
def carets (column : Nat) : List Mark → List Char
  | [] => []
  | m :: rest =>
      let blanks := m.start.column - 1 - column
      let width := max 1 (m.stop.column - m.start.column)
      List.replicate blanks ' ' ++ List.replicate width '^' ++
        carets (column + blanks + width) rest

/-- What a diagnostic shows: the lines of the pattern and the marks under them. -/
structure Diagnostic where
  lines : List (List Char)
  /-- The pattern holds a line break. -/
  broken : Bool
  /-- The digits of the number of lines, or zero where there is but one line. -/
  numberWidth : Nat
  marks : List Mark
  kind : FaultKind
  deriving Repr

namespace Diagnostic

/-- The diagnostic of a fault in a pattern. -/
def ofFault (source : String) (fault : Fault) : Diagnostic :=
  let cs := source.toList
  let lines := splitLines [] cs
  let count := lines.length + (if cs.getLast? == some '\n' then 1 else 0)
  let marks := (fault.extent :: fault.earlier.toList).map (Mark.ofExtent cs)
  ⟨lines, cs.contains '\n', if count ≤ 1 then 0 else (toString count).length,
    marks.mergeSort Mark.precedes, fault.kind⟩

/-- The columns before the text of a line. -/
def padding (d : Diagnostic) : Nat := if d.numberWidth = 0 then 4 else d.numberWidth + 2

/-- The caret line under a line, if a mark lies on it. -/
def caretLine? (d : Diagnostic) (line : Nat) : Option (List Char) :=
  let here := d.marks.filter fun m => m.isOneLine && m.start.line == line
  if here.isEmpty then none else some (List.replicate d.padding ' ' ++ carets 0 here)

/-- A line of the pattern as it is shown. -/
def shownLine (d : Diagnostic) (line : Nat) (text : List Char) : List Char :=
  if d.numberWidth = 0 then List.replicate 4 ' ' ++ text
  else
    let number := (toString line).toList
    List.replicate (d.numberWidth - number.length) ' ' ++ number ++ ": ".toList ++ text

/-- The lines of the pattern with the caret lines between them. -/
def notatedLines (d : Diagnostic) : List (List Char) :=
  d.lines.zipIdx.flatMap fun (text, index) =>
    d.shownLine (index + 1) text :: (d.caretLine? (index + 1)).toList

/-- The marks that span several lines, in words. -/
def spanningLines (d : Diagnostic) : List (List Char) :=
  (d.marks.filter fun m => !m.isOneLine).map fun m =>
    ("on line " ++ toString m.start.line ++ " (column " ++ toString m.start.column ++
      ") through line " ++ toString m.stop.line ++ " (column " ++
      toString (m.stop.column - 1) ++ ")").toList

/-- The diagnostic as text. -/
def render (d : Diagnostic) : String :=
  let rule := List.replicate 79 '~'
  let body := if d.broken then rule :: d.notatedLines ++ [rule] ++ d.spanningLines
    else d.notatedLines
  let last := ("error: " ++ d.kind.message).toList
  String.ofList (['\n'].intercalate ("regex parse error:".toList :: body ++ [last]))

/-- The line holds nothing but carets, blanks around them aside. -/
def isCaretRun (line : List Char) : Bool :=
  let trimmed := Text.trimChars line
  !trimmed.isEmpty && trimmed.all (· == '^')

/-- The offset of the fault: the column of the first line that is one run of carets, less
the indent of a pattern without line breaks. -/
def offset (d : Diagnostic) : Nat :=
  match d.notatedLines.find? isCaretRun with
  | some line => (line.takeWhile (· != '^')).length - 4
  | none => 0

end Diagnostic

end PatternScan.Pattern
