import PatternScan.Record.Basic
import PatternScan.Analysis.RecordResult

/-!
# Painted lines

Highlighted text is written with control sequences for the colours of the terminal. A
terminal without colours gets the sequences without their colours.
-/

namespace PatternScan.Command

/-- Whether the terminal shows colours. -/
inductive Terminal where
  | colored
  | plain
  deriving DecidableEq, Repr, Inhabited

namespace Terminal

/-- A control sequence that sets a colour. -/
def sequence (terminal : Terminal) (code : String) : String :=
  match terminal with
  | colored => "\x1b[" ++ code ++ "m"
  | plain => "\x1b[m"

/-- The code of a background colour. -/
def backgroundCode (c : Color) : String :=
  "48;2;" ++ toString c.red.toNat ++ ";" ++ toString c.green.toNat ++ ";" ++
    toString c.blue.toNat

/-- The code of the usual background. -/
def usualBackground : String := "49"

/-- The code of black letters. -/
def blackLetters : String := "38;5;0"

/-- The code of the usual letters. -/
def usualLetters : String := "39"

/-- Black text on a colour. -/
def paint (terminal : Terminal) (c : Color) (text : String) : String :=
  terminal.sequence (backgroundCode c) ++ terminal.sequence blackLetters ++ text ++
    terminal.sequence usualBackground ++ terminal.sequence usualLetters

/-- A sample of a colour. -/
def swatch (terminal : Terminal) (c : Color) : String :=
  terminal.sequence (backgroundCode c) ++ "      " ++ terminal.sequence usualBackground

end Terminal

/-- A piece of a line, with its colour if it has one. -/
structure Piece where
  text : String
  color : Option Color
  deriving DecidableEq, Repr, Inhabited

/-- A piece as it is written. -/
def Piece.render (terminal : Terminal) (p : Piece) : String :=
  match p.color with
  | some c => terminal.paint c p.text
  | none => p.text

/-- The text between two offsets, or nothing where these cut a character. -/
def sliceOrEmpty (text : String) (start stop : Nat) : String :=
  (Text.slice text start stop).getD ""

/-- The pieces of one field. -/
def fieldPieces (text : String) (start : Nat) (segments : List Segment) : List Piece :=
  segments.map fun s =>
    ⟨sliceOrEmpty text (start + s.first) (start + s.last + 1), s.paint.color⟩

/-- The pieces of a line from an offset on. A field that starts before the offset is passed
over, as are fields that the record does not have. -/
def piecesFrom (record : Record) (cursor : Nat) : List FieldHighlight → List Piece
  | [] => [⟨sliceOrEmpty record.text cursor record.text.utf8ByteSize, none⟩]
  | h :: rest =>
      match record.fields[h.field]? with
      | none => piecesFrom record cursor rest
      | some field =>
          let start := field.span.first
          if start < cursor then piecesFrom record cursor rest
          else
            ⟨sliceOrEmpty record.text cursor start, none⟩ ::
              fieldPieces record.text start h.segments ++
              piecesFrom record field.span.stop rest

/-- The pieces of a record's line. -/
def pieces (record : Record) (highlighting : List FieldHighlight) : List Piece :=
  piecesFrom record 0 highlighting

/-- A record's text with its highlighting. -/
def highlighted (terminal : Terminal) (record : Record) (highlighting : List FieldHighlight) :
    String :=
  String.join ((pieces record highlighting).map (Piece.render terminal))

end PatternScan.Command
