import RoleVault.Access.Gate
import RoleVault.Accounts.Action
import RoleVault.Store.Catalog
import RoleVault.Store.Users

/-!
Contract: the operations on users.

Owns:
- creating, updating, deleting, reading and listing users;
- revealing a password to those who may open it, and checking one;
- sealing passwords that are still kept as they are.

Does not own: the rules of the gate (`RoleVault.Access.Gate`), the statements on the tables
(`RoleVault.Store.Users`), sealing itself (`RoleVault.Vault`).

A change goes through the same steps in the same order: fields, gate, roles and group, gate for the
assignment, sealing, writing.  The first two look at nothing but the request and its caller or
target, and nothing is written before the sealed password is there.
-/

namespace RoleVault.Accounts

open RoleVault.Access (Assignment Decision Gate.assign Grant Target UserFields)
open RoleVault.Store (UserRecord Transaction)

/-! ## Requests and answers -/

/-- A request for a new user.  Without a display name the name is shown; without roles the user gets
the builtin user role. -/
structure CreateRequest where
  name : String
  password : Secret
  displayName : Option String := none
  email : Option String := none
  phone : Option String := none
  roles : List RoleId := []
  group : Option GroupId := none
deriving DecidableEq, Repr

/-- A request to change a user.  What is not supplied stays, and so do the roles if none is named. -/
structure UpdateRequest where
  name : String
  newName : Option String := none
  password : Option Secret := none
  displayName : Option String := none
  email : Option String := none
  phone : Option String := none
  roles : List RoleId := []
  group : Option GroupId := none
deriving DecidableEq, Repr

/-- What callers get to see of a user: all but the password. -/
structure Profile where
  id : UserId
  name : String
  displayName : String
  email : Option String
  phone : Option String
  group : GroupId
  grants : List Grant
  createdAt : Time.Instant
  updatedAt : Time.Instant
deriving DecidableEq, Repr

def Profile.highest (profile : Profile) : Role :=
  Role.highest (profile.grants.map Grant.role)

/-- What callers get to see of a record. -/
def Profile.ofRecord (user : UserRecord) : Profile where
  id := user.id
  name := user.name
  displayName := user.displayName
  email := user.email
  phone := user.phone
  group := user.group
  grants := user.grants
  createdAt := user.createdAt
  updatedAt := user.updatedAt

/-- The outcome of sealing all passwords: how many were sealed, how many had been, and the users
whose password could not be sealed, with the reason. -/
structure SealReport where
  sealed : Nat := 0
  alreadySealed : Nat := 0
  failed : List (String × String) := []
deriving DecidableEq, Repr

def CreateRequest.fields (request : CreateRequest) : UserFields :=
  ⟨some request.name, some request.password, request.displayName, request.email, request.phone⟩

def UpdateRequest.fields (request : UpdateRequest) : UserFields :=
  ⟨request.newName, request.password, request.displayName, request.email, request.phone⟩

/-- The record after a change of its fields and its assignment. -/
def UpdateRequest.applyTo (request : UpdateRequest) (user : UserRecord) (assignment : Assignment) :
    UserRecord :=
  { user with
    name := request.newName.getD user.name
    displayName := request.displayName.getD user.displayName
    email := request.email.or user.email
    phone := request.phone.or user.phone
    group := assignment.group
    grants := assignment.grants }

namespace Users

/-! ## Looking up -/

def target (user : UserRecord) : Target :=
  ⟨user.id, user.group, user.roles⟩

def find (name : String) : Action UserRecord := do
  Action.found (.notFound s!"user {name}") (← Action.transact (Store.Users.findNamed? name))

def writtenProfile (id : UserId) : Action Profile := do
  let user ← Action.found (.internal s!"user {id} vanished after write")
    (← Action.transact (Store.Users.find? id))
  return .ofRecord user

def grantsOf (roles : List RoleId) : Action (List Grant) := do
  return (← Action.transact (Store.Roles.findAll roles)).map (·.grant)

def requireGroup (id : GroupId) : Action Unit := do
  let _ ← Action.found (.notFound s!"group {id}") (← Action.transact (Store.Groups.find? id))

/-! ## Creating -/

/-- Seals the password, writes the user and reads it back. -/
def insert (context : Context) (request : CreateRequest) (assignment : Assignment) :
    Action Profile := do
  let stored ← Action.vault (context.vault.sealFor assignment.highest request.password)
  let user : Store.NewUser := {
    id := context.freshId
    name := request.name
    stored := stored
    displayName := request.displayName.getD request.name
    email := request.email
    phone := request.phone
    group := assignment.group
    roles := assignment.grants.map Grant.id }
  Action.transact (Store.Users.create user context.now)
  writtenProfile user.id

def create (context : Context) (caller : Identity) (request : CreateRequest) : Action Profile := do
  Action.check request.fields.validate
  Action.check (Access.Gate.createUser caller).toExcept
  let grants ← grantsOf request.roles
  let assignment := Assignment.forCreate caller grants request.group
  requireGroup assignment.group
  Action.check (Access.Gate.assign caller assignment).toExcept
  insert context request assignment

def operatorAssignment : Assignment :=
  ⟨[Grant.builtin .operator], operatorGroup⟩

/-- Creates a service operator without a caller, for the first user of an installation. -/
def createOperator (context : Context) (request : CreateRequest) : Action Profile := do
  Action.check request.fields.validate
  insert context request operatorAssignment

/-! ## Updating -/

/-- The password of a user sealed for another role.  One that is kept as it is stays so. -/
def reseal (vault : Vault) (user : UserRecord) (role : Role) : Action (Option String) := do
  match Vault.classify user.stored with
  | .plaintext => return none
  | .sealed =>
    let password ← Action.vault (vault.openWith .operator user.stored)
    return some (← Action.vault (vault.sealFor role password))

/-- The password that a change gives a user, if it gives one: a supplied password sealed for the new
role, or else the present one resealed where the role changes. -/
def newStored (vault : Vault) (user : UserRecord) (password : Option Secret) (role : Role) :
    Action (Option String) :=
  match password with
  | some password => do return some (← Action.vault (vault.sealFor role password))
  | none => if role = user.assignment.highest then return none else reseal vault user role

/-- Writes a record and a password, both or neither; tells whether there is such a user. -/
def save (user : UserRecord) (stored : Option String) (now : Time.Instant) : Transaction Bool := do
  let found ← Store.Users.replace user now
  match found, stored with
  | true, some stored => discard (Store.Users.setStored user.id stored now)
  | _, _ => pure ()
  return found

def update (context : Context) (caller : Identity) (request : UpdateRequest) : Action Profile := do
  Action.check request.fields.validate
  let user ← find request.name
  Action.check (Access.Gate.updateUser caller (target user)).toExcept
  let grants ← grantsOf request.roles
  let assignment := Assignment.forUpdate user.assignment grants request.group
  if assignment ≠ user.assignment then
    requireGroup assignment.group
    Action.check (Access.Gate.assign caller assignment).toExcept
  let stored ← newStored context.vault user request.password assignment.highest
  let found ← Action.transact (save (request.applyTo user assignment) stored context.now)
  Action.require found (.notFound s!"user {request.name}")
  writtenProfile user.id

/-! ## Deleting and reading -/

def delete (caller : Identity) (name : String) : Action Unit := do
  let user ← find name
  Action.check (Access.Gate.deleteUser caller (target user)).toExcept
  let found ← Action.transact (Store.Users.delete user.id)
  Action.require found (.notFound s!"user {name}")

def get (caller : Identity) (name : String) : Action Profile := do
  let user ← find name
  Action.check (Access.Gate.readUser caller (target user)).toExcept
  return .ofRecord user

/-- The users among whom a caller may see some: all for a service operator, those of its group for
an admin, itself for anyone else. -/
def candidates (caller : Identity) : Transaction (List UserRecord) :=
  match caller.highest with
  | .operator => Store.Users.list
  | .admin => Store.Users.listInGroup caller.group
  | .user => do return (← Store.Users.find? caller.id).toList

/-- Shows a caller the users that it may read, in the order of their names. -/
def list (caller : Identity) : Action (List Profile) := do
  let users ← Action.transact (candidates caller)
  return (users.filter fun user => (Access.Gate.readUser caller (target user)).isAllowed).map
    Profile.ofRecord

def reveal (context : Context) (caller : Identity) (name : String) : Action Secret := do
  let user ← find name
  Action.check (Access.Gate.readUser caller (target user)).toExcept
  match Vault.classify user.stored with
  | .plaintext => throw (.conflict s!"password of {name} has not been sealed yet")
  | .sealed => Action.vault (context.vault.openWith caller.highest user.stored)

/-! ## Checking a password -/

/-- Whether a password is the one of a user.  A sealed one that not even a service operator can open
matches nothing. -/
def matchesStored (vault : Vault) (user : UserRecord) (password : Secret) : Action Bool :=
  match Vault.classify user.stored with
  | .plaintext => return password.agrees ⟨user.stored⟩
  | .sealed => do
    match ← Action.outcome (Action.vault (vault.openWith .operator user.stored)) with
    | .ok kept => return kept.agrees password
    | .error .noPermission => return false
    | .error failure => throw failure

def identityOf (user : UserRecord) : Identity :=
  ⟨user.id, user.name, user.displayName, user.group, user.roles⟩

/-- Checks a name and a password.  An unknown name and a wrong password look the same. -/
def authenticate (context : Context) (name : String) (password : Secret) : Action Identity := do
  let user ← Action.found .invalidCredentials
    (← Action.transact (Store.Users.findNamed? name))
  Action.require (← matchesStored context.vault user password) .invalidCredentials
  return identityOf user

/-! ## Sealing what is kept as it is -/

def sealRecord (context : Context) (user : UserRecord) : Action Unit := do
  match Vault.classify user.stored with
  | .sealed => throw (.conflict s!"password of {user.name} is already sealed")
  | .plaintext =>
    Action.require (Access.isPasswordShaped user.stored)
      (.invalidInput s!"stored password of {user.name} is not a valid password")
    let stored ← Action.vault (context.vault.sealFor (Role.highest user.roles) ⟨user.stored⟩)
    let found ← Action.transact (Store.Users.setStored user.id stored context.now)
    Action.require found (.notFound s!"user {user.name}")

def sealNamed (context : Context) (name : String) : Action Unit := do
  sealRecord context (← find name)

/-- The report after one more user.  A vault that cannot be used ends the sweep. -/
def SealReport.add (report : SealReport) (user : UserRecord) :
    Except AccountsError Unit → Except AccountsError SealReport
  | .ok () => .ok { report with sealed := report.sealed + 1 }
  | .error (.conflict _) => .ok { report with alreadySealed := report.alreadySealed + 1 }
  | .error (.engineUnavailable reason) => .error (.engineUnavailable reason)
  | .error failure => .ok { report with failed := report.failed ++ [(user.name, failure.message)] }

/-- Seals the passwords of these users, one after the other. -/
def sealEach (context : Context) : List UserRecord → SealReport → Action SealReport
  | [], report => return report
  | user :: rest, report => do
    let outcome ← Action.outcome (sealRecord context user)
    match SealReport.add report user outcome with
    | .ok report => sealEach context rest report
    | .error failure => throw failure

def sealAll (context : Context) : Action SealReport := do
  sealEach context (← Action.transact Store.Users.list) {}

end Users

end RoleVault.Accounts
