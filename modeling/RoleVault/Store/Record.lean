import RoleVault.Access.Basic
import RoleVault.Identity
import RoleVault.Store.Tables
import RoleVault.Text.Quoted
import RoleVault.Time.Rfc3339

/-!
Contract: what the rows mean.

Owns:
- the roles, groups and users that rows describe;
- reading them, and the failure of a row that describes none.

Does not own: which rows are read (`RoleVault.Store.Catalog`, `RoleVault.Store.Users`).
-/

namespace RoleVault.Store

open RoleVault.Access (Assignment Grant)
open RoleVault.Text RoleVault.Time

structure CatalogRole where
  id : RoleId
  name : String
  role : Role
  note : String
  builtin : Bool
  createdAt : Instant
  updatedAt : Instant
deriving DecidableEq, Repr

def CatalogRole.grant (role : CatalogRole) : Grant :=
  ⟨role.id, role.role⟩

structure CatalogGroup where
  id : GroupId
  name : String
  note : String
  builtin : Bool
  roles : List RoleId
  createdAt : Instant
  updatedAt : Instant
deriving DecidableEq, Repr

structure UserRecord where
  id : UserId
  name : String
  stored : String
  displayName : String
  email : Option String
  phone : Option String
  group : GroupId
  grants : List Grant
  createdAt : Instant
  updatedAt : Instant
deriving DecidableEq, Repr

namespace UserRecord

def assignment (user : UserRecord) : Assignment :=
  ⟨user.grants, user.group⟩

def roles (user : UserRecord) : List Role :=
  user.grants.map Grant.role

end UserRecord

/-! ## Reading columns -/

def readLevel (text : String) : Except StoreError Role :=
  match Role.ofName? text with
  | some role => .ok role
  | none => .error (.internal s!"stored role kind {Quoted.quote text} is not recognised")

def readTime (text : String) : Except StoreError Instant :=
  match Rfc3339.parse? text with
  | some instant => .ok instant
  | none => .error (.internal s!"invalid timestamp {Quoted.quote text}: ...")

def readUserId (text : String) : Except StoreError UserId :=
  match UserId.ofText? text with
  | some id => .ok id
  | none => .error (.internal s!"invalid user id {Quoted.quote text}: ...")

/-! ## Reading rows -/

def RoleRow.read (row : RoleRow) : Except StoreError CatalogRole := do
  let role ← readLevel row.level
  let createdAt ← readTime row.createdAt
  let updatedAt ← readTime row.updatedAt
  return ⟨row.id, row.name, role, row.note, row.builtin, createdAt, updatedAt⟩

def groupRoleIds (store : Store) (group : GroupId) : List RoleId :=
  ((store.groupRoles.filter (·.group == group)).map GroupRole.role).mergeSort (· ≤ ·)

def GroupRow.read (row : GroupRow) (store : Store) : Except StoreError CatalogGroup := do
  let createdAt ← readTime row.createdAt
  let updatedAt ← readTime row.updatedAt
  return ⟨row.id, row.name, row.note, row.builtin, store.groupRoleIds row.id, createdAt, updatedAt⟩

/-- The rows of the roles that a user holds, in the order of their keys. -/
def heldRoles (store : Store) (user : String) : List RoleRow :=
  let held := (store.userRoles.filter (·.user == user)).map UserRole.role
  (store.roles.filter fun role => held.contains role.id).mergeSort fun left right =>
    left.id ≤ right.id

def RoleRow.readGrant (row : RoleRow) : Except StoreError Grant := do
  return ⟨row.id, ← readLevel row.level⟩

def UserRow.read (row : UserRow) (store : Store) : Except StoreError UserRecord := do
  let grants ← (store.heldRoles row.id).mapM RoleRow.readGrant
  let id ← readUserId row.id
  let createdAt ← readTime row.createdAt
  let updatedAt ← readTime row.updatedAt
  return {
    id := id
    name := row.name
    stored := row.stored
    displayName := row.displayName
    email := row.email
    phone := row.phone
    group := row.group
    grants := grants
    createdAt := createdAt
    updatedAt := updatedAt }

def readOptional {ρ α : Type} (read : ρ → Except StoreError α) :
    Option ρ → Except StoreError (Option α)
  | none => .ok none
  | some row => (read row).map some

end RoleVault.Store
