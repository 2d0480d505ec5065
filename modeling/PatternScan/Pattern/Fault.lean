import PatternScan.Pattern.CharSet

/-!
# Faults of a pattern

A fault names the rule of the pattern syntax that is broken and the characters of the
pattern that break it. A fault about a repetition of something also points to its first
occurrence.
-/

namespace PatternScan.Pattern

/-- The rule of the pattern syntax that is broken. -/
inductive FaultKind where
  | groupUnclosed
  | groupUnopened
  | repetitionMissing
  | repetitionCountInvalid
  | repetitionCountUnclosed
  | repetitionCountDecimalEmpty
  | decimalInvalid
  | classUnclosed
  | classRangeInvalid
  | classRangeLiteral
  | classEscapeInvalid
  | escapeUnexpectedEnd
  | escapeUnrecognized
  | backreference
  | hexEmpty
  | hexInvalidDigit
  | hexInvalid
  | lookAround
  | groupNameUnexpectedEnd
  | groupNameEmpty
  | groupNameInvalid
  | groupNameDuplicate
  | flagUnrecognized
  | flagUnexpectedEnd
  | flagDuplicate
  | flagRepeatedNegation
  | flagDanglingNegation
  | wordBoundaryUnclosed
  | wordBoundaryUnrecognized
  | wordBoundaryUnexpectedEnd
  | propertyClassInvalid
  | nestingTooDeep
  | invalidText
  | unicodeNotAllowed
  | propertyNotFound
  | propertyValueNotFound
  deriving DecidableEq, Repr

/-- The broken rule in words. -/
def FaultKind.message : FaultKind → String
  | groupUnclosed => "unclosed group"
  | groupUnopened => "unopened group"
  | repetitionMissing => "repetition operator missing expression"
  | repetitionCountInvalid =>
      "invalid repetition count range, the start must be <= the end"
  | repetitionCountUnclosed => "unclosed counted repetition"
  | repetitionCountDecimalEmpty => "repetition quantifier expects a valid decimal"
  | decimalInvalid => "decimal literal invalid"
  | classUnclosed => "unclosed character class"
  | classRangeInvalid => "invalid character class range, the start must be <= the end"
  | classRangeLiteral => "invalid range boundary, must be a literal"
  | classEscapeInvalid => "invalid escape sequence found in character class"
  | escapeUnexpectedEnd =>
      "incomplete escape sequence, reached end of pattern prematurely"
  | escapeUnrecognized => "unrecognized escape sequence"
  | backreference => "backreferences are not supported"
  | hexEmpty => "hexadecimal literal empty"
  | hexInvalidDigit => "invalid hexadecimal digit"
  | hexInvalid => "hexadecimal literal is not a Unicode scalar value"
  | lookAround => "look-around, including look-ahead and look-behind, is not supported"
  | groupNameUnexpectedEnd => "unclosed capture group name"
  | groupNameEmpty => "empty capture group name"
  | groupNameInvalid => "invalid capture group character"
  | groupNameDuplicate => "duplicate capture group name"
  | flagUnrecognized => "unrecognized flag"
  | flagUnexpectedEnd => "expected flag but got end of regex"
  | flagDuplicate => "duplicate flag"
  | flagRepeatedNegation => "flag negation operator repeated"
  | flagDanglingNegation => "dangling flag negation operator"
  | wordBoundaryUnclosed =>
      "special word boundary assertion is either unclosed or contains an invalid character"
  | wordBoundaryUnrecognized =>
      "unrecognized special word boundary assertion, valid choices are: start, end, " ++
        "start-half or end-half"
  | wordBoundaryUnexpectedEnd =>
      "found either the beginning of a special word boundary or a bounded repetition on a \\b " ++
        "with an opening brace, but no closing brace"
  | propertyClassInvalid => "invalid Unicode character class"
  | nestingTooDeep => "exceed the maximum number of nested parentheses/brackets (250)"
  | invalidText => "pattern can match invalid UTF-8"
  | unicodeNotAllowed => "Unicode not allowed here"
  | propertyNotFound => "Unicode property not found"
  | propertyValueNotFound => "Unicode property value not found"

/-- Characters of a pattern, from `start` up to `stop`, the latter excluded. An empty
extent points to the character it stands before. -/
structure Extent where
  start : Nat
  stop : Nat
  deriving DecidableEq, Repr, Inhabited

/-- A broken rule and where it is broken. -/
structure Fault where
  kind : FaultKind
  extent : Extent
  earlier : Option Extent
  deriving DecidableEq, Repr

end PatternScan.Pattern
