/-!
# Text in bytes

A character is encoded in one to four bytes. Decoding goes byte by byte; the first byte
tells how many bytes follow and bounds the second. Where bytes cannot be the start of
any encoded character, the longest run that could have begun one is taken as one fault.
-/

namespace PatternScan

/-- Bytes of an encoded text or of a file. -/
abbrev Bytes := List UInt8

end PatternScan

namespace PatternScan.Text.Utf8

/-- A character of which some bytes were read: the bits so far, how many bytes are still
missing, and the bounds of the next one. -/
structure Pending where
  value : Nat
  missing : Nat
  low : Nat
  high : Nat
  deriving DecidableEq, Repr

/-- What a byte is at the start of a character. -/
inductive Lead where
  | whole (c : Char)
  | begun (p : Pending)
  | wrong
  deriving Repr

/-- The first byte of a character. No character starts with a byte from 128 to 193 or above
244; the bounds keep out longer forms than needed, surrogates and too great numbers. -/
def lead (byte : UInt8) : Lead :=
  let b := byte.toNat
  if b < 0x80 then .whole (Char.ofNat b)
  else if b < 0xC2 then .wrong
  else if b < 0xE0 then .begun ⟨b - 0xC0, 1, 0x80, 0xBF⟩
  else if b < 0xF0 then
    .begun ⟨b - 0xE0, 2, if b = 0xE0 then 0xA0 else 0x80, if b = 0xED then 0x9F else 0xBF⟩
  else if b < 0xF5 then
    .begun ⟨b - 0xF0, 3, if b = 0xF0 then 0x90 else 0x80, if b = 0xF4 then 0x8F else 0xBF⟩
  else .wrong

/-- A further byte fits a character begun. -/
def Pending.admits (p : Pending) (byte : UInt8) : Bool :=
  p.low ≤ byte.toNat && byte.toNat ≤ p.high

/-- The bits of a character with those of a further byte. -/
def Pending.extend (p : Pending) (byte : UInt8) : Nat := p.value * 64 + (byte.toNat - 0x80)

/-- The characters of the bytes after a character that may have been begun; a fault is
listed as nothing. -/
def scan : Option Pending → Bytes → List (Option Char)
  | none, [] => []
  | some _, [] => [none]
  | some p, b :: bs =>
      if p.admits b then
        if p.missing ≤ 1 then some (Char.ofNat (p.extend b)) :: scan none bs
        else scan (some ⟨p.extend b, p.missing - 1, 0x80, 0xBF⟩) bs
      else
        none :: match lead b with
          | .whole c => some c :: scan none bs
          | .begun q => scan (some q) bs
          | .wrong => none :: scan none bs
  | none, b :: bs =>
      match lead b with
      | .whole c => some c :: scan none bs
      | .begun q => scan (some q) bs
      | .wrong => none :: scan none bs

/-- The character that stands for a fault. -/
def replacement : Char := '\uFFFD'

/-- The text of bytes, with a replacement character for each fault. -/
def decodeLossy (bytes : Bytes) : String :=
  String.ofList ((scan none bytes).map fun c => c.getD replacement)

/-- The text of bytes without faults. -/
def decode? (bytes : Bytes) : Option String :=
  ((scan none bytes).mapM id).map String.ofList

/-- The bytes of a text. -/
def encode (text : String) : Bytes := text.toList.flatMap String.utf8EncodeChar

end PatternScan.Text.Utf8
