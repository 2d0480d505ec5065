import PatternScan.Match.Tree
import PatternScan.Script.PatternScript
import PatternScan.Extract.RoleValue

/-!
# Call-sequence items

A record yields an item when the roles of its matched groups satisfy the sequence
schema. The values of each role stand in the order in which the walk of the match tree
meets them.
-/

namespace PatternScan.Extract

open Script (SequenceRole PatternScript)

/-- The values of each role that a record's matches carry. -/
structure SequenceItem where
  values : SortedMap SequenceRole (List RoleValue)
  deriving DecidableEq, Repr, Inhabited

/-- The first value of a role. -/
def SequenceItem.first? (item : SequenceItem) (role : SequenceRole) : Option RoleValue :=
  (item.values.get? role).bind List.head?

/-- What sequence extraction finds in one record. -/
structure SequenceOutcome where
  item : Option SequenceItem
  /-- The roles that stand in the way of an item. -/
  missing : List SequenceRole
  /-- The record tells the type of the call more than once. -/
  duplicateRole : Bool
  deriving DecidableEq, Repr, Inhabited

/-- A role with its value in one match. -/
structure RoleHit where
  role : SequenceRole
  value : RoleValue
  deriving DecidableEq, Repr

/-- The roles that a match carries, each with its value. -/
def sequenceHits (script : PatternScript) (fields : List Field) (m : Match) : List RoleHit :=
  match script.annotation? m.group with
  | none => []
  | some annotation => annotation.sequence.entries.map fun (role, literal) =>
      ⟨role, match literal with
        | some text => .literal text
        | none => RoleValue.locate m fields⟩

/-- All hits of a record, in the order of the tree walk. -/
def allSequenceHits (t : MatchTree) (script : PatternScript) (fields : List Field) :
    List RoleHit :=
  (t.preOrder.filterMap t.item?).flatMap (sequenceHits script fields)

/-- The values of each role, later hits after earlier ones. -/
def gatherHits (hits : List RoleHit) : SortedMap SequenceRole (List RoleValue) :=
  hits.foldl (fun values hit => values.update hit.role [] (· ++ [hit.value])) .empty

/-- The roles that keep a record from yielding an item: the absent mandatory roles, and
all roles that tell the type of the call if none of them is present. -/
def missingRoles (present : List SequenceRole) : List SequenceRole :=
  Script.SequenceSchema.missing present ++
    if present.any SequenceRole.isRequestType then []
    else SequenceRole.all.filter SequenceRole.isRequestType

/-- Sequence extraction from the matches of a record and their tree. -/
def extractSequence (t : MatchTree) (ms : List Match) (fields : List Field)
    (script : PatternScript) : SequenceOutcome :=
  let present := script.sequenceRolesOf (matchedGroups ms)
  if Script.SequenceSchema.holds present then
    let hits := allSequenceHits t script fields
    let typed := hits.filter fun hit => hit.role.isRequestType
    ⟨some ⟨gatherHits hits⟩, [], 1 < typed.length⟩
  else
    ⟨none, missingRoles present, false⟩

end PatternScan.Extract
