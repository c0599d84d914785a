import RoleVault.Store.Record
import RoleVault.Store.Tables

/-!
Contract: the statements on users.

Owns: adding, finding, listing, replacing and deleting users, and replacing the password of one.

Does not own: who may do so (`RoleVault.Accounts.Users`), nor how a password becomes the text that
is kept (`RoleVault.Vault`).

Names and keys are unique, a user belongs to an existing group, and the roles it holds exist, each
held once.
-/

namespace RoleVault.Store

open RoleVault.Time

/-- A user to be added; the password is in the form that is kept. -/
structure NewUser where
  id : UserId
  name : String
  stored : String
  displayName : String
  email : Option String
  phone : Option String
  group : GroupId
  roles : List RoleId
deriving DecidableEq, Repr

namespace Users

/-- Makes a user hold a role, unless it does. -/
def addRole (user : String) (role : RoleId) : Transaction Unit := fun store => do
  if store.userRoles.contains ⟨user, role⟩ then return ((), store)
  if !(store.users.any (·.id == user) && store.roles.any (·.id == role)) then
    throw (.dangling s!"role {role}")
  return ((), { store with userRoles := store.userRoles ++ [⟨user, role⟩] })

def setRoles (user : String) (roles : List RoleId) : Transaction Unit := do
  Transaction.change fun store =>
    { store with userRoles := store.userRoles.filter (·.user != user) }
  roles.forM (addRole user)

def newRow (user : NewUser) (now : Instant) : UserRow where
  id := user.id.text
  name := user.name
  stored := user.stored
  displayName := user.displayName
  email := user.email
  phone := user.phone
  group := user.group
  createdAt := Rfc3339.renderOffset now
  updatedAt := Rfc3339.renderOffset now

def add (row : UserRow) : Transaction Unit := fun store => do
  if store.users.any fun other => other.id == row.id || other.name == row.name then
    throw (.taken s!"user {row.name}")
  if !store.groups.any (·.id == row.group) then throw (.dangling s!"user {row.name}")
  return ((), { store with users := store.users ++ [row] })

def create (user : NewUser) (now : Instant) : Transaction Unit := do
  add (newRow user now)
  setRoles user.id.text user.roles

def find? (id : UserId) : Transaction (Option UserRecord) :=
  .view fun store => readOptional (·.read store) (store.users.find? (·.id == id.text))

def findNamed? (name : String) : Transaction (Option UserRecord) :=
  .view fun store => readOptional (·.read store) (store.users.find? (·.name == name))

/-- Rows in the order of their names. -/
def byName (rows : List UserRow) : List UserRow :=
  rows.mergeSort fun left right => left.name ≤ right.name

/-- All users, in the order of their names. -/
def list : Transaction (List UserRecord) :=
  .view fun store => (byName store.users).mapM (·.read store)

/-- The users of a group, in the order of their names. -/
def listInGroup (group : GroupId) : Transaction (List UserRecord) :=
  .view fun store => (byName (store.users.filter (·.group == group))).mapM (·.read store)

/-- The rows, of which the one with a key is changed. -/
def modifyRow (id : String) (write : UserRow → UserRow) (rows : List UserRow) : List UserRow :=
  rows.map fun row => if row.id == id then write row else row

/-- The row with all that a record says, its key and the time of its creation apart. -/
def overlay (user : UserRecord) (now : Instant) (row : UserRow) : UserRow :=
  { row with
    name := user.name
    stored := user.stored
    displayName := user.displayName
    email := user.email
    phone := user.phone
    group := user.group
    updatedAt := Rfc3339.renderOffset now }

/-- Overwrites the row of a user; tells whether there is such a user. -/
def replaceRow (user : UserRecord) (now : Instant) : Transaction Bool := fun store => do
  let id := user.id.text
  if !store.users.any (·.id == id) then return (false, store)
  if store.users.any fun row => row.id != id && row.name == user.name then
    throw (.taken s!"user {user.name}")
  if !store.groups.any (·.id == user.group) then throw (.dangling s!"user {user.name}")
  return (true, { store with users := modifyRow id (overlay user now) store.users })

/-- Gives a user all that a record says, its key and the time of its creation apart; tells whether
there is such a user. -/
def replace (user : UserRecord) (now : Instant) : Transaction Bool := do
  let found ← replaceRow user now
  if found then setRoles user.id.text (user.grants.map Access.Grant.id)
  return found

/-- Replaces the password of a user; tells whether there is such a user. -/
def setStored (id : UserId) (stored : String) (now : Instant) : Transaction Bool :=
  fun store =>
    if store.users.any (·.id == id.text) then
      .ok (true, { store with
        users := modifyRow id.text
          (fun row => { row with stored := stored, updatedAt := Rfc3339.renderOffset now })
          store.users })
    else .ok (false, store)

/-- Deletes a user with the roles it holds; tells whether there was one. -/
def delete (id : UserId) : Transaction Bool :=
  fun store =>
    if store.users.any (·.id == id.text) then
      .ok (true, { store with
        users := store.users.filter (·.id != id.text)
        userRoles := store.userRoles.filter (·.user != id.text) })
    else .ok (false, store)

end Users

end RoleVault.Store
