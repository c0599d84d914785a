import RoleVault.Store.Tables
import RoleVault.Text.Decimal

/-!
Contract: edits of single columns from outside the service.

Owns:
- the columns that an outsider may overwrite with a text and the rules of the tables that bind even
  there;
- the integer that a text stands for when it is put into a column of integers (`Affinity.integer?`).

Does not own: the changes that the service makes (`RoleVault.Store.Catalog`,
`RoleVault.Store.Users`).

| written | stands for |
| --- | --- |
| digits | the number as it is, if it fits sixty-four bits with a sign |
| digits with a point or an exponent | the number of double precision next to it, if that one is whole |

Blanks around the number do not matter.
-/

namespace RoleVault.Store.Affinity

open RoleVault.Text

structure Written where
  negative : Bool
  whole : List Char
  fraction : Option (List Char)
  exponent : Option Int
deriving DecidableEq, Repr

/-- A sign at the front, and what follows it. -/
def takeSign : List Char → Bool × List Char
  | '-' :: rest => (true, rest)
  | '+' :: rest => (false, rest)
  | chars => (false, chars)

/-- Digits at the front, and what follows them. -/
def takeDigits (chars : List Char) : List Char × List Char :=
  (chars.takeWhile Char.isDigit, chars.dropWhile Char.isDigit)

def exponent? (chars : List Char) : Option Int :=
  let (negative, digits) := takeSign chars
  (Decimal.toNat? digits).map fun (power : Nat) => if negative then -power else power

def read? (text : String) : Option Written := do
  let isBlank := fun char => " \t\n\x0b\x0c\r".contains char
  let chars := ((text.toList.dropWhile isBlank).reverse.dropWhile isBlank).reverse
  let (negative, chars) := takeSign chars
  let (whole, chars) := takeDigits chars
  let (fraction, chars) := match chars with
    | '.' :: rest => let (digits, rest) := takeDigits rest; (some digits, rest)
    | _ => (none, chars)
  if whole.isEmpty && (fraction.getD []).isEmpty then none
  match chars with
  | [] => return ⟨negative, whole, fraction, none⟩
  | mark :: rest =>
    if mark = 'e' ∨ mark = 'E' then return ⟨negative, whole, fraction, some (← exponent? rest)⟩
    else none

def integer? (text : String) : Option Int64 := do
  let written ← read? text
  let sign : Int := if written.negative then -1 else 1
  match written.fraction, written.exponent with
  | none, none =>
    let value := sign * (← Decimal.toNat? written.whole)
    if Int64.minValue.toInt ≤ value ∧ value ≤ Int64.maxValue.toInt then some (Int64.ofInt value)
    else none
  | fraction, exponent =>
    let fraction := fraction.getD []
    let significand ← Decimal.toNat? (written.whole ++ fraction)
    let value ← DoublePrecision.nearestWhole? (Int64.maxValue.toInt.toNat) significand
      (exponent.getD 0 - fraction.length)
    some (Int64.ofInt (sign * value))

end RoleVault.Store.Affinity

namespace RoleVault.Store

inductive Column where
  | groupId
  | groupName
  | groupNote
  | groupBuiltin
  | groupCreatedAt
  | groupUpdatedAt
  | roleId
  | roleName
  | roleLevel
  | roleNote
  | roleBuiltin
  | roleCreatedAt
  | roleUpdatedAt
  | userId
  | userName
  | userStored
  | userDisplayName
  | userEmail
  | userPhone
  | userGroup
  | userCreatedAt
  | userUpdatedAt
deriving DecidableEq, Repr

def Column.named : List (String × List (String × Column)) := [
  ("groups", [("id", .groupId), ("name", .groupName), ("annotation", .groupNote),
    ("builtin", .groupBuiltin), ("created_at", .groupCreatedAt), ("updated_at", .groupUpdatedAt)]),
  ("roles", [("id", .roleId), ("name", .roleName), ("kind", .roleLevel), ("annotation", .roleNote),
    ("builtin", .roleBuiltin), ("created_at", .roleCreatedAt), ("updated_at", .roleUpdatedAt)]),
  ("users", [("id", .userId), ("name", .userName), ("password", .userStored),
    ("display_name", .userDisplayName), ("email", .userEmail), ("phone", .userPhone),
    ("group_id", .userGroup), ("created_at", .userCreatedAt), ("updated_at", .userUpdatedAt)])]

/-- The column with a name in a table.  Such names are the same in any case of their letters. -/
def Column.find? (table name : String) : Option Column := do
  let lower := fun (text : String) => String.ofList (text.toList.map Char.toLower)
  (← Column.named.lookup (lower table)).lookup (lower name)

namespace Edit

def integer (value : String) : Except StoreError Int64 :=
  match Affinity.integer? value with
  | some number => .ok number
  | none => .error .database

/-- The flag that a text stands for in a column of integers.  One that stands for no integer leaves the
flag as it is. -/
def flag (value : String) (before : Bool) : Bool :=
  match Affinity.integer? value with
  | some number => number != 0
  | none => before

def groupRow (column : Column) (value : String) (row : GroupRow) : Except StoreError GroupRow := do
  match column with
  | .groupId => return { row with id := ← integer value }
  | .groupName => return { row with name := value }
  | .groupNote => return { row with note := value }
  | .groupBuiltin => return { row with builtin := flag value row.builtin }
  | .groupCreatedAt => return { row with createdAt := value }
  | .groupUpdatedAt => return { row with updatedAt := value }
  | _ => return row

def roleRow (column : Column) (value : String) (row : RoleRow) : Except StoreError RoleRow := do
  match column with
  | .roleId => return { row with id := ← integer value }
  | .roleName => return { row with name := value }
  | .roleLevel => return { row with level := value }
  | .roleNote => return { row with note := value }
  | .roleBuiltin => return { row with builtin := flag value row.builtin }
  | .roleCreatedAt => return { row with createdAt := value }
  | .roleUpdatedAt => return { row with updatedAt := value }
  | _ => return row

def userRow (column : Column) (value : String) (row : UserRow) : Except StoreError UserRow := do
  match column with
  | .userId => return { row with id := value }
  | .userName => return { row with name := value }
  | .userStored => return { row with stored := value }
  | .userDisplayName => return { row with displayName := value }
  | .userEmail => return { row with email := some value }
  | .userPhone => return { row with phone := some value }
  | .userGroup => return { row with group := ← integer value }
  | .userCreatedAt => return { row with createdAt := value }
  | .userUpdatedAt => return { row with updatedAt := value }
  | _ => return row

/-- Changes the one row with a name, if there is one: the rows after it and how many were changed. -/
def named {ρ : Type} (nameOf : ρ → String) (name : String) (write : ρ → Except StoreError ρ)
    (rows : List ρ) : Except StoreError (List ρ × Nat) := do
  let after ← rows.mapM fun row => if nameOf row == name then write row else .ok row
  return (after, (rows.filter (nameOf · == name)).length)

def unique (store : Store) : Bool :=
  (store.groups.map GroupRow.id).Nodup && (store.groups.map GroupRow.name).Nodup &&
    (store.roles.map RoleRow.id).Nodup && (store.roles.map RoleRow.name).Nodup &&
    (store.users.map UserRow.id).Nodup && (store.users.map UserRow.name).Nodup

def connected (store : Store) : Bool :=
  let isGroup (id : GroupId) : Bool := store.groups.any (·.id == id)
  let isRole (id : RoleId) : Bool := store.roles.any (·.id == id)
  store.groupRoles.all (fun listed => isGroup listed.group && isRole listed.role) &&
    store.users.all (fun user => isGroup user.group) &&
    store.userRoles.all fun held => store.users.any (·.id == held.user) && isRole held.role

end Edit

/-- Overwrites a column in the row with a name; tells how many rows that is. -/
def overwrite (column : Column) (name value : String) : Transaction Nat := fun store => do
  let (after, count) : Store × Nat ← match column with
    | .groupId | .groupName | .groupNote | .groupBuiltin | .groupCreatedAt | .groupUpdatedAt => do
      let (rows, count) ← Edit.named GroupRow.name name (Edit.groupRow column value) store.groups
      pure ({ store with groups := rows }, count)
    | .roleId | .roleName | .roleLevel | .roleNote | .roleBuiltin | .roleCreatedAt
    | .roleUpdatedAt => do
      let (rows, count) ← Edit.named RoleRow.name name (Edit.roleRow column value) store.roles
      pure ({ store with roles := rows }, count)
    | _ => do
      let (rows, count) ← Edit.named UserRow.name name (Edit.userRow column value) store.users
      pure ({ store with users := rows }, count)
  if !(Edit.unique after && Edit.connected after) then throw .database
  return (count, after)

/-- Overwrites the column with a name in a table; the database refuses where there is none. -/
def overwriteNamed (table columnName name value : String) : Transaction Nat :=
  match Column.find? table columnName with
  | some column => overwrite column name value
  | none => throw .database

end RoleVault.Store
