import PatternScan.Text.CaseFold
import PatternScan.Script.RoleToken

/-!
# Role tokens by expression

A role token can be read in two stages. An expression with the identifiers as alternatives, in
the order of the roles and in any case of any alphabet, captures how the token writes an
identifier and what stands behind it. Then the role is looked up by the captured identifier, and
there only the case of unaccented letters is ignored.
-/

namespace PatternScan

namespace Text

/-- The code point that a character folds onto. -/
def simpleFold (c : Char) : Nat :=
  ((foldPairs.find? fun p => p.source == c.toNat).map FoldPair.target).getD c.toNat

/-- Two texts are equal up to the case of letters. -/
def sameFoldedText (a b : List Char) : Bool := a.map simpleFold == b.map simpleFold

end Text

namespace Script

/-- What the expression captures of a token: an identifier as the token writes it, and the word
characters behind it. -/
structure RoleCapture where
  head : List Char
  body : List Char
  deriving DecidableEq, Repr

namespace RoleToken

variable {R : Type}

/-- The captures of the first alternative with which the expression matches the whole token. -/
def capture? (roles : List R) (identifier : R → String) (token : List Char) :
    Option RoleCapture :=
  roles.findSome? fun role =>
    let head := token.take (identifier role).length
    let rest := token.drop (identifier role).length
    if Text.sameFoldedText (identifier role).toList head && rest.all Text.isWord then
      some ⟨head, (stripUnderscore? rest).getD rest⟩
    else
      none

/-- The role of the captured identifier, with the captured word characters. -/
def readCaptured? (roles : List R) (identifier : R → String) (token : List Char) :
    Option (RoleToken R) :=
  (capture? roles identifier token).bind fun found =>
    (ofIdentifier? roles identifier (String.ofList found.head)).map fun role =>
      ⟨role, found.body⟩

end RoleToken

end Script

end PatternScan
