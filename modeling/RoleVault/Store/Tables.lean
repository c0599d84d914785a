import RoleVault.Role

/-!
Contract: the tables of the store, and how they are changed.

Owns:
- the five tables, their columns, and the counters from which the keys of roles and groups come;
- the failures of the store and their wording;
- `Transaction`, statements that all take effect or none does, and `Database`, which runs
  transactions while it is open;
- `Database.Action`, transactions one after another.

Does not own: what a row means (`RoleVault.Store.Record`), nor the rules between rows, which the
statements keep (`RoleVault.Store.Catalog`, `RoleVault.Store.Users`).

Levels, user keys and times are columns of text, because they can be edited from outside.  So can the
keys of roles and groups, which is why the counters may lag behind them.
-/

namespace RoleVault

inductive StoreError where
  /-- The database refuses or is closed; its own words are not passed on. -/
  | database
  | notFound (what : String)
  | conflict (what : String)
  | internal (reason : String)
deriving DecidableEq, Repr

namespace StoreError

def message : StoreError → String
  | database => "Database error: ..."
  | notFound what => "Not found: " ++ what
  | conflict what => "Conflict: " ++ what
  | internal reason => "Internal: " ++ reason

/-- A key or a name that has to be unique is taken. -/
def taken (what : String) : StoreError :=
  conflict (what ++ " already exists")

/-- A row is named that does not exist, or one is to go that others name. -/
def dangling (what : String) : StoreError :=
  conflict (what ++ " references a missing or in-use row")

end StoreError

namespace Store

structure GroupRow where
  id : GroupId
  name : String
  note : String
  builtin : Bool
  createdAt : String
  updatedAt : String
deriving DecidableEq, Repr

/-- A role of the catalog; `level` names the level it grants. -/
structure RoleRow where
  id : RoleId
  name : String
  level : String
  note : String
  builtin : Bool
  createdAt : String
  updatedAt : String
deriving DecidableEq, Repr

structure GroupRole where
  group : GroupId
  role : RoleId
deriving DecidableEq, Repr

/-- A user; `stored` is the password as it is kept. -/
structure UserRow where
  id : String
  name : String
  stored : String
  displayName : String
  email : Option String
  phone : Option String
  group : GroupId
  createdAt : String
  updatedAt : String
deriving DecidableEq, Repr

structure UserRole where
  user : String
  role : RoleId
deriving DecidableEq, Repr

end Store

/-- The tables of the store.  `lastGroup` and `lastRole` are the highest keys ever given out. -/
structure Store where
  groups : List Store.GroupRow := []
  roles : List Store.RoleRow := []
  groupRoles : List Store.GroupRole := []
  users : List Store.UserRow := []
  userRoles : List Store.UserRole := []
  lastGroup : GroupId := 0
  lastRole : RoleId := 0
deriving DecidableEq, Repr

namespace Store

/-- Statements of which all take effect, or none if one of them fails. -/
abbrev Transaction (α : Type) := StateT Store (Except StoreError) α

namespace Transaction

def view {α : Type} (read : Store → Except StoreError α) : Transaction α :=
  fun store => (read store).map fun result => (result, store)

/-- A transaction that changes the tables in a way that cannot fail. -/
def change (write : Store → Store) : Transaction Unit :=
  fun store => .ok ((), write store)

/-- Fails unless a condition on the tables holds. -/
def require (holds : Store → Bool) (failure : StoreError) : Transaction Unit :=
  fun store => if holds store then .ok ((), store) else .error failure

end Transaction

/-- The next key after the last one given out and after all that are in use.  Keys are never given
out twice, and there is none after the last. -/
def nextKey (last : Int64) (used : List Int64) : Except StoreError Int64 :=
  let highest := used.foldl (fun highest key => if highest < key then key else highest) last
  if highest = Int64.maxValue then .error .database else .ok (highest + 1)

end Store

open RoleVault.Store

/-- The tables, while they can be reached. -/
inductive Database where
  | closed
  | opened (store : Store)
deriving DecidableEq, Repr

namespace Database

/-- Transactions one after another; what has taken effect stays when a later one fails. -/
abbrev Action (α : Type) := ExceptT StoreError (StateM Database) α

def transact {α : Type} (transaction : Transaction α) : Action α :=
  ExceptT.mk fun database =>
    match database with
    | closed => (.error .database, closed)
    | opened store =>
      match transaction.run store with
      | .ok (result, after) => (.ok result, opened after)
      | .error failure => (.error failure, opened store)

end Database

end RoleVault
