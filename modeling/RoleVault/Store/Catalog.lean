import RoleVault.Store.Record
import RoleVault.Store.Tables
import RoleVault.Time.Rfc3339

/-!
Contract: the statements on the roles and the groups of the catalog.

Owns:
- adding, finding, listing, changing, counting uses of and deleting roles;
- the same for groups, with the lists of their roles;
- the builtin groups and roles, and adding what is missing of them.

Does not own: who may do so (`RoleVault.Accounts.Catalog`).

Names are unique, and the level of a role never changes.  The list of a group names existing roles,
each once.  A role in use and a group with members cannot be deleted.
-/

namespace RoleVault

namespace Store

open RoleVault.Time

structure NewRole where
  name : String
  role : Role
  note : String
deriving DecidableEq, Repr

structure RoleReferences where
  users : Nat
  groups : Nat
deriving DecidableEq, Repr

def RoleReferences.inUse (references : RoleReferences) : Bool :=
  0 < references.users || 0 < references.groups

def roleReferences (store : Store) (id : RoleId) : RoleReferences where
  users := (store.userRoles.filter (·.role == id)).length
  groups := (store.groupRoles.filter (·.role == id)).length

namespace Roles

/-- Adds a role under a key that was never used before. -/
def add (role : NewRole) (now : Instant) : Transaction RoleId := fun store => do
  let id ← nextKey store.lastRole (store.roles.map RoleRow.id)
  if store.roles.any (·.name == role.name) then throw (.taken s!"role {role.name}")
  let stamp := Rfc3339.renderOffset now
  return (id, { store with
    roles := store.roles ++ [⟨id, role.name, role.role.name, role.note, false, stamp, stamp⟩]
    lastRole := id })

def find? (id : RoleId) : Transaction (Option CatalogRole) :=
  .view fun store => readOptional RoleRow.read (store.roles.find? (·.id == id))

def findNamed? (name : String) : Transaction (Option CatalogRole) :=
  .view fun store => readOptional RoleRow.read (store.roles.find? (·.name == name))

/-- The role with a key, or the failure that there is none. -/
def find (id : RoleId) : Transaction CatalogRole := do
  match ← find? id with
  | some role => return role
  | none => throw (.notFound s!"role {id}")

/-- The roles with these keys, or the failure of the first that has none. -/
def findAll (ids : List RoleId) : Transaction (List CatalogRole) :=
  ids.mapM find

/-- All roles, in the order of their keys. -/
def list : Transaction (List CatalogRole) :=
  .view fun store =>
    (store.roles.mergeSort fun left right => left.id ≤ right.id).mapM RoleRow.read

/-- Gives a role another name, another note or both; tells whether there is such a role. -/
def update (id : RoleId) (name note : Option String) (now : Instant) : Transaction Bool :=
  fun store => do
    if !store.roles.any (·.id == id) then return (false, store)
    if store.roles.any fun row => row.id != id && name == some row.name then
      throw (.taken ("role " ++ name.getD ""))
    return (true, { store with
      roles := store.roles.map fun row =>
        if row.id == id then
          { row with
            name := name.getD row.name
            note := note.getD row.note
            updatedAt := Rfc3339.renderOffset now }
        else row })

def references (id : RoleId) : Transaction RoleReferences :=
  .view fun store => .ok (store.roleReferences id)

/-- Deletes a role that nothing names; tells whether there was one. -/
def delete (id : RoleId) : Transaction Bool := fun store => do
  if !store.roles.any (·.id == id) then return (false, store)
  if (store.roleReferences id).inUse then throw (.dangling s!"role {id}")
  return (true, { store with roles := store.roles.filter (·.id != id) })

end Roles

end Store

open RoleVault.Store

def Database.createRole (role : NewRole) (now : Time.Instant) : Database.Action CatalogRole := do
  let id ← transact (Roles.add role now)
  match ← transact (Roles.find? id) with
  | some created => return created
  | none => throw (.internal s!"role {id} vanished after insert")

end RoleVault

namespace RoleVault.Store

open RoleVault.Time

structure NewGroup where
  name : String
  note : String
  roles : List RoleId
deriving DecidableEq, Repr

def members (store : Store) (group : GroupId) : List UserRow :=
  store.users.filter (·.group == group)

namespace Groups

/-- Puts a role on the list of a group, unless it is there. -/
def addRole (group : GroupId) (role : RoleId) : Transaction Unit := fun store => do
  if store.groupRoles.contains ⟨group, role⟩ then return ((), store)
  if !(store.groups.any (·.id == group) && store.roles.any (·.id == role)) then
    throw (.dangling s!"role {role}")
  return ((), { store with groupRoles := store.groupRoles ++ [⟨group, role⟩] })

def setRoles (group : GroupId) (roles : List RoleId) : Transaction Unit := do
  Transaction.change fun store =>
    { store with groupRoles := store.groupRoles.filter (·.group != group) }
  roles.forM (addRole group)

def find? (id : GroupId) : Transaction (Option CatalogGroup) :=
  .view fun store => readOptional (·.read store) (store.groups.find? (·.id == id))

def findNamed? (name : String) : Transaction (Option CatalogGroup) :=
  .view fun store => readOptional (·.read store) (store.groups.find? (·.name == name))

/-- All groups, in the order of their keys. -/
def list : Transaction (List CatalogGroup) :=
  .view fun store =>
    (store.groups.mergeSort fun left right => left.id ≤ right.id).mapM (·.read store)

/-- Adds a group with an empty list under a key that was never used before. -/
def add (name note : String) (now : Instant) : Transaction GroupId := fun store => do
  let id ← nextKey store.lastGroup (store.groups.map GroupRow.id)
  if store.groups.any (·.name == name) then throw (.taken s!"group {name}")
  let stamp := Rfc3339.renderOffset now
  return (id, { store with
    groups := store.groups ++ [⟨id, name, note, false, stamp, stamp⟩]
    lastGroup := id })

def create (group : NewGroup) (now : Instant) : Transaction CatalogGroup := do
  let id ← add group.name group.note now
  setRoles id group.roles
  match ← find? id with
  | some created => return created
  | none => throw (.internal s!"group {id} vanished after insert")

/-- Gives a group another name, another note or both; tells whether there is such a group. -/
def relabel (id : GroupId) (name note : Option String) (now : Instant) : Transaction Bool :=
  fun store => do
    if !store.groups.any (·.id == id) then return (false, store)
    if store.groups.any fun row => row.id != id && name == some row.name then
      throw (.taken ("group " ++ name.getD ""))
    return (true, { store with
      groups := store.groups.map fun row =>
        if row.id == id then
          { row with
            name := name.getD row.name
            note := note.getD row.note
            updatedAt := Rfc3339.renderOffset now }
        else row })

/-- Gives a group another name, another note, another list or any of these; tells whether there is
such a group. -/
def update (id : GroupId) (name note : Option String) (roles : Option (List RoleId))
    (now : Instant) : Transaction Bool := do
  let found ← relabel id name note now
  match found, roles with
  | true, some roles => setRoles id roles
  | _, _ => pure ()
  return found

def memberCount (id : GroupId) : Transaction Nat :=
  .view fun store => .ok (store.members id).length

/-- Deletes a group without members, with its list; tells whether there was one. -/
def delete (id : GroupId) : Transaction Bool := fun store => do
  if !store.groups.any (·.id == id) then return (false, store)
  if !(store.members id).isEmpty then throw (.dangling s!"group {id}")
  return (true, { store with
    groups := store.groups.filter (·.id != id)
    groupRoles := store.groupRoles.filter (·.group != id) })

end Groups

end RoleVault.Store

namespace RoleVault

namespace Store.Seeds

open RoleVault.Time

/-- Adds a builtin group unless its key or its name is taken. -/
def addGroup (id : GroupId) (name note : String) (now : Instant) : Transaction Unit :=
  .change fun store =>
    let stamp := Rfc3339.renderZulu now.truncate
    { store with
      groups :=
        if store.groups.any fun row => row.id == id || row.name == name then store.groups
        else store.groups ++ [⟨id, name, note, true, stamp, stamp⟩]
      lastGroup := if store.lastGroup < id then id else store.lastGroup }

/-- Adds the builtin role of a level unless its key or its name is taken. -/
def addRole (role : Role) (note : String) (now : Instant) : Transaction Unit :=
  .change fun store =>
    let id := role.builtinId
    let stamp := Rfc3339.renderZulu now.truncate
    { store with
      roles :=
        if store.roles.any fun row => row.id == id || row.name == role.name then store.roles
        else store.roles ++ [⟨id, role.name, role.name, note, true, stamp, stamp⟩]
      lastRole := if store.lastRole < id then id else store.lastRole }

/-- Puts a role on the list of a group unless it is there; both have to exist. -/
def link (group : GroupId) (role : RoleId) : Transaction Unit := fun store => do
  if store.groupRoles.contains ⟨group, role⟩ then return ((), store)
  if !(store.groups.any (·.id == group) && store.roles.any (·.id == role)) then throw .database
  return ((), { store with groupRoles := store.groupRoles ++ [⟨group, role⟩] })

def statements (now : Instant) : List (Transaction Unit) := [
  addGroup defaultGroup "default" "Default group" now,
  addGroup operatorGroup "op_service" "Service operators" now,
  addRole .user "Regular user" now,
  addRole .admin "Group administrator" now,
  addRole .operator "Service operator" now,
  link defaultGroup Role.user.builtinId,
  link operatorGroup Role.operator.builtinId]

end Store.Seeds

open RoleVault.Store

/-- Adds what is missing of the builtin groups and roles, each statement on its own. -/
def Database.migrate (now : Time.Instant) : Database.Action Unit :=
  (Seeds.statements now).forM transact

/-- A database that holds the builtin groups and roles and nothing else. -/
def Database.fresh (now : Time.Instant) : Database :=
  (migrate now (opened {})).2

end RoleVault
