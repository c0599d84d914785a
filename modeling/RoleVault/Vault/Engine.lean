import RoleVault.Files.Disk
import RoleVault.Role

/-!
Contract: what the vault expects of the cryptography behind it.

Owns:
- the failures of the vault: their kinds, their wording, the status that a request answers with, and
  which of them are faults of the service or mean that the engine cannot be used;
- the policy and the attributes of each role, the way back from them, and when a key satisfies a
  policy;
- `Workspace`, all that the steps of the vault can see and change, and `Procedure`, a sequence of
  atomic steps with a result, which can be run at one go or step by step;
- the places of the two keys, and the type of engines, whose four calls each either end with an
  outcome or never end.

Does not own: any engine (`RoleVault.Vault.InProcess`, `RoleVault.Vault.Tools`), or the steps of
sealing and opening (`RoleVault.Vault.Basic`).

| role | policy | attributes |
| --- | --- | --- |
| op_service | `(op_service = 1)` | `op_service`, `op_service = 1` |
| admin | `op_service or (admin = 2)` | `admin`, `admin = 2` |
| user | `op_service or admin or (user = 3)` | `user = 3` |
-/

namespace RoleVault

open RoleVault.Files

inductive Vault.Operation where
  | setup
  | encrypt
  | keygen
  | decrypt
deriving DecidableEq, Repr

def Vault.Operation.word : Vault.Operation → String
  | setup => "setup"
  | encrypt => "encrypt"
  | keygen => "keygen"
  | decrypt => "decrypt"

inductive VaultError where
  | missingPublicKey
  | missingMasterKey
  | keysExist
  | invalidRole (name : String)
  | malformedCiphertext (reason : String)
  /-- The role does not reach the one that the credential was sealed for. -/
  | noPermission
  | engineTimeout (operation : Vault.Operation) (milliseconds : Nat)
  | engineNotInstalled (tool : String)
  | commandFailed (tool : String) (reason : String)
  | disk (error : DiskError)
deriving DecidableEq, Repr

namespace VaultError

def message : VaultError → String
  | missingPublicKey => "public key artifact does not exist"
  | missingMasterKey => "master key artifact does not exist"
  | keysExist => "key artifacts already exist, refusing to overwrite"
  | invalidRole name => "role is invalid: " ++ name
  | malformedCiphertext reason => "malformed ciphertext: " ++ reason
  | noPermission => "the role permission denied"
  | engineTimeout operation milliseconds =>
    s!"engine {operation.word} timed out after {milliseconds} ms"
  | engineNotInstalled tool => "engine binary not found: " ++ tool
  | commandFailed tool reason => s!"engine command failed: {tool}: {reason}"
  | disk error => "io error: " ++ error.message

def isInternal : VaultError → Bool
  | keysExist | invalidRole _ | noPermission => false
  | _ => true

def status : VaultError → Nat
  | invalidRole _ => 400
  | noPermission => 403
  | keysExist => 409
  | missingPublicKey | missingMasterKey | engineNotInstalled _ => 503
  | engineTimeout _ _ => 504
  | malformedCiphertext _ | commandFailed _ _ | disk _ => 500

def isUnavailable : VaultError → Bool
  | missingPublicKey | missingMasterKey | engineNotInstalled _ => true
  | _ => false

def ofDisk {α : Type} (outcome : Except DiskError α) : Except VaultError α :=
  outcome.mapError .disk

end VaultError

end RoleVault

namespace RoleVault.Vault

open RoleVault.Files

def attributeValue : Role → Nat
  | .operator => 1
  | .admin => 2
  | .user => 3

def parseRole (name : String) : Except VaultError Role :=
  match Role.ofName? name with
  | some role => .ok role
  | none => .error (.invalidRole name)

structure Policy where
  expression : String
deriving DecidableEq, Repr

def Policy.forRole (role : Role) : Policy :=
  let value := attributeValue role
  match role with
  | .operator => ⟨s!"(op_service = {value})"⟩
  | .admin => ⟨s!"op_service or (admin = {value})"⟩
  | .user => ⟨s!"op_service or admin or (user = {value})"⟩

def Policy.role? (policy : Policy) : Option Role :=
  Role.all.find? fun role => Policy.forRole role == policy

structure KeyAttributes where
  names : List String
deriving DecidableEq, Repr

def KeyAttributes.forRole (role : Role) : KeyAttributes :=
  let value := attributeValue role
  match role with
  | .operator => ⟨["op_service", s!"op_service = {value}"]⟩
  | .admin => ⟨["admin", s!"admin = {value}"]⟩
  | .user => ⟨[s!"user = {value}"]⟩

/-- The role of a set of attributes, if they are those of one. -/
def KeyAttributes.role? (attributes : KeyAttributes) : Option Role :=
  Role.all.find? fun role => KeyAttributes.forRole role == attributes

def satisfies (key sealed : Role) : Bool :=
  key.atLeast sealed

/-- The files, the number of the next scratch directory, and the paths under which the in-process
engine has written private keys. -/
structure Workspace where
  disk : Disk := {}
  nextScratch : Nat := 0
  issuedKeys : List Path := []
deriving DecidableEq, Repr

/-- A sequence of atomic steps.  Each step changes the workspace, and what comes after it depends on
the workspace that it found. -/
inductive Procedure (α : Type) where
  | done (result : α)
  | step (effect : Workspace → Workspace) (next : Workspace → Procedure α)

namespace Procedure

/-- Does all steps, one after the other. -/
def run {α : Type} : Procedure α → Workspace → α × Workspace
  | done result, workspace => (result, workspace)
  | step effect next, workspace => (next workspace).run (effect workspace)

/-- One procedure after another, which may depend on the result of the first. -/
def andThen {α β : Type} : Procedure α → (α → Procedure β) → Procedure β
  | done result, following => following result
  | step effect next, following => step effect fun workspace => (next workspace).andThen following

instance : Monad Procedure where
  pure := done
  bind := andThen

def act {α : Type} (action : Workspace → α × Workspace) : Procedure α :=
  step (fun workspace => (action workspace).2) fun workspace => done (action workspace).1

def observe {α : Type} (view : Workspace → α) : Procedure α :=
  act fun workspace => (view workspace, workspace)

/-- Does the first step, if there is one left. -/
def advance {α : Type} : Procedure α → Workspace → Procedure α × Workspace
  | done result, workspace => (done result, workspace)
  | step effect next, workspace => (next workspace, effect workspace)

/-- Running one procedure after another runs the second where the first left off. -/
theorem run_andThen {α β : Type} (first : Procedure α) (following : α → Procedure β)
    (workspace : Workspace) :
    (first.andThen following).run workspace =
      (following (first.run workspace).1).run (first.run workspace).2 := by
  induction first generalizing workspace with
  | done result => rfl
  | step effect next inductionHypothesis =>
    exact inductionHypothesis workspace (effect workspace)

/-- Doing one step first does not change the outcome. -/
theorem run_advance {α : Type} (procedure : Procedure α) (workspace : Workspace) :
    (procedure.advance workspace).1.run (procedure.advance workspace).2 =
      procedure.run workspace := by
  cases procedure <;> rfl

end Procedure

structure KeyPaths where
  publicKey : Path
  masterKey : Path
deriving DecidableEq, Repr

/-- The keys in a directory, under their usual names. -/
def KeyPaths.inDirectory (directory : Path) : KeyPaths :=
  ⟨directory.child "pub_key", directory.child "master_key"⟩

/-- How a call of an engine ends, if it does. -/
inductive Outcome where
  | ended (result : Except VaultError Unit)
  | hangs

/-- A call of an engine, one atomic step. -/
abbrev Call := Workspace → Outcome × Workspace

structure Engine where
  name : String
  /-- Makes a new pair of keys. -/
  setup : KeyPaths → Call
  /-- Encrypts the input under a policy into the output. -/
  encrypt : (publicKey input : Path) → Policy → (output : Path) → Call
  /-- Writes a private key for the attributes to the output. -/
  keygen : KeyPaths → KeyAttributes → (output : Path) → Call
  /-- Decrypts the input with a private key into the output. -/
  decrypt : (publicKey privateKey input output : Path) → Call

end RoleVault.Vault
