import RoleVault.Access.Fields
import RoleVault.Access.Gate
import RoleVault.Accounts.Action
import RoleVault.Store.Catalog

/-!
Contract: the operations on the catalog of roles and groups.

Owns: creating, reading, listing, changing and deleting roles and groups, and what is not allowed
with the builtin ones.

Does not own: the rules of the gate (`RoleVault.Access.Gate`) or the statements on the tables
(`RoleVault.Store.Catalog`, `RoleVault.Store.Catalog`).

Reading is open to every caller, changes are for service operators.  A builtin entry keeps its name
and cannot be deleted, and neither can one that is in use.
-/

namespace RoleVault.Accounts

open RoleVault.Access (validateName validateNote whenSupplied)
open RoleVault.Store (CatalogGroup CatalogRole)

structure CreateRoleRequest where
  name : String
  role : Role
  note : String
deriving DecidableEq, Repr

structure CreateGroupRequest where
  name : String
  note : String
  roles : List RoleId
deriving DecidableEq, Repr

/-- A request to change a role; what is not supplied stays. -/
structure UpdateRoleRequest where
  name : Option String := none
  note : Option String := none
deriving DecidableEq, Repr

/-- A request to change a group; what is not supplied stays, and a supplied list replaces the
present one. -/
structure UpdateGroupRequest where
  name : Option String := none
  note : Option String := none
  roles : Option (List RoleId) := none
deriving DecidableEq, Repr

namespace Catalog

def requireManager (caller : Identity) : Action Unit :=
  Action.check (Access.Gate.manageCatalog caller).toExcept

def checkNew (name note : String) : Action Unit := do
  Action.check (validateName name)
  Action.check (validateNote note)

def checkChange (name note : Option String) : Action Unit := do
  Action.check (whenSupplied validateName name)
  Action.check (whenSupplied validateNote note)

/-- Whether a change would give an entry another name. -/
def renames (present : String) (name : Option String) : Bool :=
  name.any (· != present)

/-! ## Roles -/

def listRoles : Action (List CatalogRole) :=
  Action.transact Store.Roles.list

def getRole (id : RoleId) : Action CatalogRole := do
  Action.found (.notFound s!"role {id}") (← Action.transact (Store.Roles.find? id))

def createRole (now : Time.Instant) (caller : Identity) (request : CreateRoleRequest) :
    Action CatalogRole := do
  checkNew request.name request.note
  requireManager caller
  Action.store (Database.createRole ⟨request.name, request.role, request.note⟩ now)

/-- Changes a role for a caller; the level stays. -/
def updateRole (now : Time.Instant) (caller : Identity) (id : RoleId)
    (request : UpdateRoleRequest) : Action CatalogRole := do
  checkChange request.name request.note
  requireManager caller
  let role ← getRole id
  Action.require (!(role.builtin && renames role.name request.name))
    (.conflict s!"builtin role {role.name} cannot be renamed")
  let found ← Action.transact (Store.Roles.update id request.name request.note now)
  Action.require found (.notFound s!"role {id}")
  getRole id

def deleteRole (caller : Identity) (id : RoleId) : Action Unit := do
  requireManager caller
  let role ← getRole id
  Action.require (!role.builtin) (.conflict s!"builtin role {role.name} cannot be deleted")
  let references ← Action.transact (Store.Roles.references id)
  Action.require (!references.inUse)
    (.conflict
      s!"role {role.name} is held by {references.users} user(s) and {references.groups} group(s)")
  let found ← Action.transact (Store.Roles.delete id)
  Action.require found (.notFound s!"role {id}")

/-! ## Groups -/

def listGroups : Action (List CatalogGroup) :=
  Action.transact Store.Groups.list

def getGroup (id : GroupId) : Action CatalogGroup := do
  Action.found (.notFound s!"group {id}") (← Action.transact (Store.Groups.find? id))

def requireRoles (roles : List RoleId) : Action Unit := do
  let _ ← Action.transact (Store.Roles.findAll roles)

def createGroup (now : Time.Instant) (caller : Identity) (request : CreateGroupRequest) :
    Action CatalogGroup := do
  checkNew request.name request.note
  requireManager caller
  requireRoles request.roles
  Action.transact (Store.Groups.create ⟨request.name, request.note, request.roles⟩ now)

def updateGroup (now : Time.Instant) (caller : Identity) (id : GroupId)
    (request : UpdateGroupRequest) : Action CatalogGroup := do
  checkChange request.name request.note
  requireManager caller
  let group ← getGroup id
  Action.require (!(group.builtin && renames group.name request.name))
    (.conflict s!"builtin group {group.name} cannot be renamed")
  requireRoles (request.roles.getD [])
  let found ← Action.transact (Store.Groups.update id request.name request.note request.roles now)
  Action.require found (.notFound s!"group {id}")
  getGroup id

def deleteGroup (caller : Identity) (id : GroupId) : Action Unit := do
  requireManager caller
  let group ← getGroup id
  Action.require (!group.builtin) (.conflict s!"builtin group {group.name} cannot be deleted")
  let members ← Action.transact (Store.Groups.memberCount id)
  Action.require (members = 0) (.conflict s!"group {group.name} still has {members} member(s)")
  let found ← Action.transact (Store.Groups.delete id)
  Action.require found (.notFound s!"group {id}")

end Catalog

end RoleVault.Accounts
