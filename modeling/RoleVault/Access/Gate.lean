import RoleVault.Access.Basic

/-!
Contract: the permission gate.

Owns: the decision on each kind of request as a function of the caller and the facts about its
target, and the wording of each refusal.

Does not own: reading those facts or carrying out the request (`RoleVault.Accounts`).

| request | allowed when |
| --- | --- |
| change roles or groups | the caller is a service operator |
| create a user | the caller is an admin or above |
| read or update oneself | always |
| read, update or delete another | service operator, or admin of the target's group and at least its level |
| assign roles and a group | no level above the caller's; only a service operator leaves its own group |
-/

namespace RoleVault.Access

inductive UserAction where
  | read
  | update
  | delete
deriving DecidableEq, Repr

def UserAction.word : UserAction → String
  | read => "read"
  | update => "update"
  | delete => "delete"

instance : ToString UserAction := ⟨UserAction.word⟩

inductive Refusal where
  | catalog
  | creation
  | actionLevel (action : UserAction)
  | actionGroup (action : UserAction) (callerGroup : GroupId)
  | actionTarget (action : UserAction) (target : Role)
  | grantLevel (caller assigned : Role)
  | grantGroup (callerGroup : GroupId)
deriving DecidableEq, Repr

namespace Refusal

def message : Refusal → String
  | catalog => "only op_service may create, update or delete roles and groups"
  | creation => "creating users requires admin or above"
  | actionLevel action => s!"{action} of another user requires admin or above"
  | actionGroup action callerGroup => s!"admin may only {action} users in group {callerGroup}"
  | actionTarget action target => s!"cannot {action} a user holding {target}"
  | grantLevel caller assigned => s!"{caller} cannot grant {assigned}"
  | grantGroup callerGroup => s!"only op_service may place users outside group {callerGroup}"

end Refusal

inductive Decision where
  | allow
  | deny (refusal : Refusal)
deriving DecidableEq, Repr

namespace Decision

def isAllowed : Decision → Bool
  | allow => true
  | deny _ => false

/-- The wording of the refusal, if it is one. -/
def reason? : Decision → Option String
  | allow => none
  | deny refusal => some refusal.message

def toExcept : Decision → Except AccessError Unit
  | allow => .ok ()
  | deny refusal => .error (.permissionDenied refusal.message)

end Decision

/-- The facts about a user that a request is aimed at. -/
structure Target where
  id : UserId
  group : GroupId
  roles : List Role
deriving DecidableEq, Repr

def Target.highest (target : Target) : Role :=
  Role.highest target.roles

namespace Gate

def manageCatalog (caller : Identity) : Decision :=
  if caller.isOperator then .allow else .deny .catalog

def createUser (caller : Identity) : Decision :=
  if caller.highest.atLeast .admin then .allow else .deny .creation

def actOnOther (action : UserAction) (caller : Identity) (target : Target) : Decision :=
  if caller.highest = .operator then .allow
  else if caller.highest ≠ .admin then .deny (.actionLevel action)
  else if !caller.inGroup target.group then .deny (.actionGroup action caller.group)
  else if !caller.highest.atLeast target.highest then .deny (.actionTarget action target.highest)
  else .allow

def readUser (caller : Identity) (target : Target) : Decision :=
  if caller.isSelf target.id then .allow else actOnOther .read caller target

def updateUser (caller : Identity) (target : Target) : Decision :=
  if caller.isSelf target.id then .allow else actOnOther .update caller target

def deleteUser (caller : Identity) (target : Target) : Decision :=
  actOnOther .delete caller target

def assign (caller : Identity) (assignment : Assignment) : Decision :=
  if !caller.highest.atLeast assignment.highest then
    .deny (.grantLevel caller.highest assignment.highest)
  else if caller.highest ≠ .operator && !caller.inGroup assignment.group then
    .deny (.grantGroup caller.group)
  else .allow

end Gate

end RoleVault.Access
