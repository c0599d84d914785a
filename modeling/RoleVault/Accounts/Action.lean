import RoleVault.Access.Basic
import RoleVault.Identity
import RoleVault.Store.Tables
import RoleVault.Time.Calendar
import RoleVault.Vault.Basic
import RoleVault.Vault.Engine

/-!
Contract: operations on accounts as sequences of checks, transactions and work of the vault.

Owns:
- the failures that a request can answer with: their kinds, their wording and status, and what a
  failure of a check, of the vault or of the store means to the one who sent the request;
- `State`, what operations see and change, and `Context`, what each of them is given;
- `Action`, an operation that may fail, and the three kinds of steps it is made of.

Does not own: the operations (`RoleVault.Accounts.Users` and its neighbours).

A failed step ends an operation, and what earlier steps have done stays.
-/

namespace RoleVault

inductive AccountsError where
  | invalidInput (reason : String)
  | permissionDenied (reason : String)
  | notFound (what : String)
  | conflict (reason : String)
  /-- No such user, a wrong password, or a credential that cannot be opened; the answer does not
  tell which. -/
  | invalidCredentials
  | unauthenticated (reason : String)
  | noPermission
  | engineUnavailable (reason : String)
  | transportFailure (reason : String)
  | internal (reason : String)
deriving DecidableEq, Repr

namespace AccountsError

def message : AccountsError → String
  | invalidInput reason => "invalid input: " ++ reason
  | permissionDenied reason => "permission denied: " ++ reason
  | notFound what => "not found: " ++ what
  | conflict reason => "conflict: " ++ reason
  | invalidCredentials => "invalid credentials"
  | unauthenticated reason => "unauthenticated: " ++ reason
  | noPermission => "role does not permit unsealing this credential"
  | engineUnavailable reason => "credential engine unavailable: " ++ reason
  | transportFailure reason => "credential engine transport failure: " ++ reason
  | internal reason => "internal error: " ++ reason

def isInternal : AccountsError → Bool
  | engineUnavailable _ | transportFailure _ | internal _ => true
  | _ => false

def status : AccountsError → Nat
  | invalidInput _ => 400
  | invalidCredentials | unauthenticated _ => 401
  | permissionDenied _ | noPermission => 403
  | notFound _ => 404
  | conflict _ => 409
  | internal _ => 500
  | engineUnavailable _ | transportFailure _ => 503

def ofAccess : AccessError → AccountsError
  | .invalidInput reason => invalidInput reason
  | .unknownRole name => invalidInput ("unknown role: " ++ name)
  | .permissionDenied reason => permissionDenied reason
  | .configuration reason => internal reason
  | failure => unauthenticated failure.message

def ofVault : VaultError → AccountsError
  | .noPermission => noPermission
  | .invalidRole name => invalidInput ("invalid role: " ++ name)
  | .keysExist => conflict VaultError.keysExist.message
  | .malformedCiphertext reason => internal (VaultError.malformedCiphertext reason).message
  | failure =>
    if failure.isUnavailable then engineUnavailable failure.message
    else transportFailure failure.message

def ofStore : StoreError → AccountsError
  | .notFound what => notFound what
  | .conflict what => conflict what
  | failure => internal failure.message

end AccountsError

end RoleVault

namespace RoleVault.Accounts

open RoleVault.Store (Transaction)

structure State where
  database : Database
  workspace : Vault.Workspace := {}
deriving DecidableEq, Repr

/-- What an operation is given: the vault, the present, and an identifier that no user has. -/
structure Context where
  vault : Vault
  now : Time.Instant
  freshId : UserId

abbrev Action (α : Type) := ExceptT AccountsError (StateM State) α

namespace Action

/-- A check that looks at nothing but its arguments. -/
def check {α : Type} (outcome : Except AccessError α) : Action α :=
  ExceptT.mk fun state => (outcome.mapError AccountsError.ofAccess, state)

def store {α : Type} (work : Database.Action α) : Action α :=
  ExceptT.mk fun state =>
    let (outcome, database) := work.run state.database
    (outcome.mapError AccountsError.ofStore, { state with database := database })

def transact {α : Type} (transaction : Transaction α) : Action α :=
  store (Database.transact transaction)

def vault {α : Type} (work : Vault.Attempt α) : Action α :=
  ExceptT.mk fun state =>
    let (outcome, workspace) := work.run.run state.workspace
    (outcome.mapError AccountsError.ofVault, { state with workspace := workspace })

/-- The outcome of an operation, be it a failure, as a value. -/
def outcome {α : Type} (action : Action α) : Action (Except AccountsError α) :=
  ExceptT.mk fun state =>
    let (result, after) := action.run state
    (.ok result, after)

def found {α : Type} (failure : AccountsError) : Option α → Action α
  | some value => pure value
  | none => throw failure

def require (holds : Bool) (failure : AccountsError) : Action Unit :=
  if holds then pure () else throw failure

end Action

end RoleVault.Accounts
