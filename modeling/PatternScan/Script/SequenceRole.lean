import PatternScan.Script.RoleToken

/-!
# Roles of a call-sequence diagram

A group may name its part in a call between two services: who calls, what is called, and
whether the record is a request, a response or an event. A literal after the role's
identifier stands in for the captured text.
-/

namespace PatternScan.Script

/-- The part of a capture group in a call-sequence diagram. -/
inductive SequenceRole where
  | sequenceId
  | client
  | request
  | response
  | event
  | service
  | method
  | arguments
  deriving DecidableEq, Repr, Ord, Inhabited

/-- How a role takes part in the schema of a record. -/
inductive SequenceRoleKind where
  /-- The role may be absent. -/
  | optional
  /-- The role must be present. -/
  | mandatory
  /-- At least one role of this kind must be present. -/
  | requestType
  deriving DecidableEq, Repr

namespace SequenceRole

/-- All roles in their order. -/
def all : List SequenceRole :=
  [.sequenceId, .client, .request, .response, .event, .service, .method, .arguments]

/-- The identifier used in group names. -/
def identifier : SequenceRole → String
  | sequenceId => "USID"
  | client => "UCL"
  | request => "URT"
  | response => "URS"
  | event => "UEV"
  | service => "US"
  | method => "UM"
  | arguments => "UA"

/-- The name used in structured output. -/
def name : SequenceRole → String
  | sequenceId => "SequenceId"
  | client => "Client"
  | request => "Request"
  | response => "Response"
  | event => "Event"
  | service => "Service"
  | method => "Method"
  | arguments => "Arguments"

/-- How the role takes part in the schema. -/
def kind : SequenceRole → SequenceRoleKind
  | client | service | method => .mandatory
  | request | response | event => .requestType
  | sequenceId | arguments => .optional

/-- The role is mandatory. -/
def isMandatory (role : SequenceRole) : Bool := role.kind == .mandatory

/-- The role tells the type of the call. -/
def isRequestType (role : SequenceRole) : Bool := role.kind == .requestType

/-- The role of an identifier, in any case. -/
def ofIdentifier? (text : String) : Option SequenceRole :=
  RoleToken.ofIdentifier? all identifier text

/-- The role that a token declares, with its literal if it has one. -/
def ofToken? (token : List Char) : Option (SequenceRole × Option String) :=
  (RoleToken.read? all identifier token).map fun found =>
    (found.role, if found.rest.isEmpty then none else some (String.ofList found.rest))

theorem mem_all (role : SequenceRole) : role ∈ all := by cases role <;> decide

end SequenceRole

/-- What a set of sequence roles lacks. -/
inductive SequenceIssue where
  /-- A mandatory role is absent. -/
  | missingRole (role : SequenceRole)
  /-- No role tells the type of the call. -/
  | missingRequestType
  deriving DecidableEq, Repr

namespace SequenceIssue

/-- The issue in words. -/
def message : SequenceIssue → String
  | missingRole role => "Mandatory element " ++ role.identifier ++ " not found"
  | missingRequestType =>
      let ids := (SequenceRole.all.filter SequenceRole.isRequestType).map SequenceRole.identifier
      "Request type elements (" ++ "|".intercalate ids ++ ") not found"

end SequenceIssue

namespace SequenceSchema

/-- The mandatory roles that are absent, in role order. -/
def missing (present : List SequenceRole) : List SequenceRole :=
  SequenceRole.all.filter fun role => role.isMandatory && !present.contains role

/-- Everything a diagram needs that the roles lack. -/
def issues (present : List SequenceRole) : List SequenceIssue :=
  (missing present).map .missingRole ++
    if present.any SequenceRole.isRequestType then [] else [.missingRequestType]

/-- The roles suffice for a diagram item. -/
def holds (present : List SequenceRole) : Bool := (issues present).isEmpty

end SequenceSchema

end PatternScan.Script
