import RoleVault.Json.Decode
import RoleVault.Json.Value
import RoleVault.Store.Tables

/-!
Contract: a database as the bytes of a file.

Owns: the written form of a database and the way back (`encode`, `decode?`).

Does not own: where the file is kept (`RoleVault.Store.Connection`).

A row is written as the array of its columns in their declared order.
-/

namespace RoleVault.Store.Snapshot

open RoleVault.Json RoleVault.Json.Decoder RoleVault.Text

/-! ## Writing -/

def optionalText : Option String → Value
  | none => .null
  | some text => .text text

def groupValue (row : GroupRow) : Value :=
  .array [.integer row.id.toInt, .text row.name, .text row.note, .bool row.builtin,
    .text row.createdAt, .text row.updatedAt]

def roleValue (row : RoleRow) : Value :=
  .array [.integer row.id.toInt, .text row.name, .text row.level, .text row.note, .bool row.builtin,
    .text row.createdAt, .text row.updatedAt]

def groupRoleValue (row : GroupRole) : Value :=
  .array [.integer row.group.toInt, .integer row.role.toInt]

def userValue (row : UserRow) : Value :=
  .array [.text row.id, .text row.name, .text row.stored, .text row.displayName,
    optionalText row.email, optionalText row.phone, .integer row.group.toInt, .text row.createdAt,
    .text row.updatedAt]

def userRoleValue (row : UserRole) : Value :=
  .array [.text row.user, .integer row.role.toInt]

def value (store : Store) (writeAhead : Bool) : Value :=
  .object [
    ("groups", .array (store.groups.map groupValue)),
    ("roles", .array (store.roles.map roleValue)),
    ("group_roles", .array (store.groupRoles.map groupRoleValue)),
    ("users", .array (store.users.map userValue)),
    ("user_roles", .array (store.userRoles.map userRoleValue)),
    ("last_group", .integer store.lastGroup.toInt),
    ("last_role", .integer store.lastRole.toInt),
    ("write_ahead", .bool writeAhead)]

def encode (store : Store) (writeAhead : Bool) : List UInt8 :=
  Utf8.encode (value store writeAhead).render

/-! ## Reading -/

def flag : Decoder Bool
  | .bool value => .ok value
  | node => .error (mismatch node)

def group : Decoder GroupRow
  | .array [id, name, note, builtin, createdAt, updatedAt] true => do
    return ⟨← int64 id, ← text name, ← text note, ← flag builtin, ← text createdAt, ← text updatedAt⟩
  | node => .error (mismatch node)

def role : Decoder RoleRow
  | .array [id, name, level, note, builtin, createdAt, updatedAt] true => do
    return ⟨← int64 id, ← text name, ← text level, ← text note, ← flag builtin, ← text createdAt,
      ← text updatedAt⟩
  | node => .error (mismatch node)

def groupRole : Decoder GroupRole
  | .array [group, role] true => do return ⟨← int64 group, ← int64 role⟩
  | node => .error (mismatch node)

def user : Decoder UserRow
  | .array [id, name, stored, displayName, email, phone, group, createdAt, updatedAt] true => do
    return ⟨← text id, ← text name, ← text stored, ← text displayName, ← optional text email,
      ← optional text phone, ← int64 group, ← text createdAt, ← text updatedAt⟩
  | node => .error (mismatch node)

def userRole : Decoder UserRole
  | .array [user, role] true => do return ⟨← text user, ← int64 role⟩
  | node => .error (mismatch node)

def database : Decoder (Store × Bool) := fun node => do
  let found ← fields [
    field "groups" (list group), field "roles" (list role), field "group_roles" (list groupRole),
    field "users" (list user), field "user_roles" (list userRole), field "last_group" int64,
    field "last_role" int64, field "write_ahead" flag] node
  let tables : Store := {
    groups := ← required found "groups" (list group)
    roles := ← required found "roles" (list role)
    groupRoles := ← required found "group_roles" (list groupRole)
    users := ← required found "users" (list user)
    userRoles := ← required found "user_roles" (list userRole)
    lastGroup := ← required found "last_group" int64
    lastRole := ← required found "last_role" int64 }
  return (tables, ← required found "write_ahead" flag)

/-- The database in a file, if it is the file of one. -/
def decode? (content : List UInt8) : Option (Store × Bool) :=
  (decodeBytes database content).toOption

end RoleVault.Store.Snapshot
