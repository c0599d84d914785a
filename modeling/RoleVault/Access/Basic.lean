import RoleVault.Identity
import RoleVault.Role

/-!
Contract: what checks of access fail with, and what they are about.

Owns:
- the failures of role checks, field rules and session tokens: their kinds, their wording, the status
  that a request answers with, and which of them are faults of the service itself;
- grants, which pair a catalog role with the level it stands for, and assignments, the roles and the
  group that a user ends up with;
- what a request that names no roles or no group means, and the rule that service operators live in
  the operator group.

Does not own: whether the caller may make an assignment (`RoleVault.Access.Gate`), or the causes of
failures, which the modules of the checks word.
-/

namespace RoleVault

/-- Why a check failed.  A constructor with text carries the wording of its cause. -/
inductive AccessError where
  | invalidInput (reason : String)
  | permissionDenied (reason : String)
  /-- A name or key outside the fixed table of roles. -/
  | unknownRole (name : String)
  | tokenExpired
  | tokenMalformed (reason : String)
  | tokenSignatureInvalid
  | configuration (reason : String)
deriving DecidableEq, Repr

namespace AccessError

def message : AccessError → String
  | invalidInput reason => "invalid input: " ++ reason
  | permissionDenied reason => "permission denied: " ++ reason
  | unknownRole name => "unknown role: " ++ name
  | tokenExpired => "session token expired"
  | tokenMalformed reason => "malformed session token: " ++ reason
  | tokenSignatureInvalid => "session token signature invalid"
  | configuration reason => "configuration error: " ++ reason

def status : AccessError → Nat
  | invalidInput _ | unknownRole _ => 400
  | tokenExpired | tokenMalformed _ | tokenSignatureInvalid => 401
  | permissionDenied _ => 403
  | configuration _ => 500

def isInternal : AccessError → Bool
  | configuration _ => true
  | _ => false

end AccessError

/-- The level with a canonical name, or the failure that there is none. -/
def Role.parse (name : String) : Except AccessError Role :=
  match Role.ofName? name with
  | some role => .ok role
  | none => .error (.unknownRole name)

/-- The levels with these canonical names, or the failure of the first that has none. -/
def Role.parseAll (names : List String) : Except AccessError (List Role) :=
  names.mapM Role.parse

/-- The level of a builtin catalog key, or the failure that it grants none. -/
def Role.parseBuiltinId (id : RoleId) : Except AccessError Role :=
  match Role.ofBuiltinId? id with
  | some role => .ok role
  | none => .error (.unknownRole s!"role id {id}")

end RoleVault

namespace RoleVault.Access

structure Grant where
  id : RoleId
  role : Role
deriving DecidableEq, Repr

def Grant.builtin (role : Role) : Grant := ⟨role.builtinId, role⟩

structure Assignment where
  grants : List Grant
  group : GroupId
deriving DecidableEq, Repr

namespace Assignment

/-- The levels granted, in the order of the grants. -/
def roles (assignment : Assignment) : List Role :=
  assignment.grants.map Grant.role

def highest (assignment : Assignment) : Role :=
  Role.highest assignment.roles

def settleOperator (assignment : Assignment) : Assignment :=
  if assignment.highest = .operator then { assignment with group := operatorGroup }
  else assignment

/-- The assignment of a new user.  Without roles it gets the builtin user role; without a group it
joins the default group if an operator creates it, and else the caller's group. -/
def forCreate (caller : Identity) (grants : List Grant) (group : Option GroupId) : Assignment :=
  settleOperator {
    grants := if grants.isEmpty then [Grant.builtin .user] else grants
    group := group.getD (if caller.isOperator then defaultGroup else caller.group) }

/-- The assignment of a user after an update.  An empty list keeps the roles, and the absence of a
group keeps the group. -/
def forUpdate (current : Assignment) (grants : List Grant) (group : Option GroupId) : Assignment :=
  settleOperator {
    grants := if grants.isEmpty then current.grants else grants
    group := group.getD current.group }

end Assignment

end RoleVault.Access
