/-!
Contract: the three levels of privilege and their order.

Owns:
- the type `Role`, its rank, canonical name and builtin catalog key;
- reading a role back from its name or builtin key;
- the highest of a list of roles.

Does not own: the roles of the catalog, which give a name of their own to one of these levels
(`RoleVault.Store.Tables`).
-/

namespace RoleVault

abbrev RoleId := Int64

abbrev GroupId := Int64

/-- The group that a new user joins where nothing else is said. -/
def defaultGroup : GroupId := 1

def operatorGroup : GroupId := 999

/-- A level of privilege. -/
inductive Role where
  /-- Manages only itself. -/
  | user
  /-- Manages the users of its own group. -/
  | admin
  /-- Manages everything. -/
  | operator
deriving DecidableEq, Repr

namespace Role

/-- All levels, lowest first. -/
def all : List Role := [.user, .admin, .operator]

/-- The place of a level in the order of privilege. -/
def rank : Role → Nat
  | .user => 1
  | .admin => 2
  | .operator => 3

def name : Role → String
  | .user => "user"
  | .admin => "admin"
  | .operator => "op_service"

instance : ToString Role := ⟨name⟩

def ofName? (name : String) : Option Role :=
  all.find? fun role => role.name == name

def builtinId : Role → RoleId
  | .user => 1
  | .admin => 888
  | .operator => 999

/-- The level that a builtin catalog role grants; other keys grant no fixed level. -/
def ofBuiltinId? (id : RoleId) : Option Role :=
  all.find? fun role => role.builtinId == id

/-- Whether a level has at least the privilege of another. -/
def atLeast (role other : Role) : Bool :=
  other.rank ≤ role.rank

def max (left right : Role) : Role :=
  if right.atLeast left then right else left

/-- The highest level of a list, the lowest of all where the list is empty. -/
def highest (roles : List Role) : Role :=
  roles.foldl max .user

/-- The levels of a list in ascending order. -/
def sorted (roles : List Role) : List Role :=
  roles.mergeSort fun left right => right.atLeast left

/-- A canonical name reads back. -/
theorem ofName?_name (role : Role) : ofName? role.name = some role := by
  cases role <;> decide

end Role

end RoleVault
