import PatternScan.Script.Token

/-!
# Role tokens

A role token is a role's identifier in any case, one optional underscore, and word
characters. Where one identifier begins another, the longest that the token starts with
counts.
-/

namespace PatternScan.Script

/-- What a token says of a role: the role and the characters after its identifier and
the underscore. -/
structure RoleToken (R : Type) where
  role : R
  rest : List Char
  deriving DecidableEq, Repr

namespace RoleToken

/-- The one of two readings that leaves less of the token, and the earlier of equals. -/
def longer {R : Type} (a b : RoleToken R) : RoleToken R :=
  if b.rest.length < a.rest.length then b else a

/-- The reading whose identifier is longest. -/
def longest? {R : Type} : List (RoleToken R) → Option (RoleToken R)
  | [] => none
  | a :: rest =>
      match longest? rest with
      | none => some a
      | some b => some (longer a b)

/-- The roles whose identifier the token starts with. -/
def candidates {R : Type} (roles : List R) (identifier : R → String) (token : List Char) :
    List (RoleToken R) :=
  roles.filterMap fun role =>
    (stripLead? (identifier role).toList token).map fun rest => ⟨role, rest⟩

/-- The role that a token names, with what follows. -/
def read? {R : Type} (roles : List R) (identifier : R → String) (token : List Char) :
    Option (RoleToken R) :=
  (longest? (candidates roles identifier token)).bind fun found =>
    if found.rest.all Text.isWord then
      some ⟨found.role, (stripUnderscore? found.rest).getD found.rest⟩
    else
      none

/-- The role whose identifier is the text, in any case. -/
def ofIdentifier? {R : Type} (roles : List R) (identifier : R → String) (text : String) :
    Option R :=
  roles.find? fun role => Text.sameAsciiText (identifier role).toList text.toList

end RoleToken

end PatternScan.Script
