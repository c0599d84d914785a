import RoleVault.Access.Fields
import RoleVault.Text.Base64
import RoleVault.Vault.Engine

/-!
Contract: the credential vault.

Owns:
- making the keys (`Vault.setup`), sealing a password for a role (`Vault.sealFor`) and opening it with
  a role (`Vault.openWith`);
- telling a sealed password from one that was stored as it is (`Vault.classify`).

Does not own: the engine (`RoleVault.Vault.Engine`) or where sealed passwords are kept
(`RoleVault.Store`).

Sealing and opening work in a directory of their own below the scratch root, which is removed
however they end.
-/

namespace RoleVault

open RoleVault.Files RoleVault.Text RoleVault.Vault

/-- A vault: its engine, its keys, the root of its scratch directories, and the time that a call of
the engine may take. -/
structure Vault where
  engine : Engine
  keys : KeyPaths
  scratchRoot : Path
  timeout : Nat

namespace Vault

inductive StoredForm where
  | sealed
  | plaintext
deriving DecidableEq, Repr

/-- Tells what a stored password is: anything of the shape of a password is one, and so is anything
that is not the base64 form of some bytes. -/
def classify (stored : String) : StoredForm :=
  if Access.isPasswordShaped stored then .plaintext
  else
    match Base64.decode Base64.standard stored with
    | .ok (_ :: _) => .sealed
    | _ => .plaintext

structure KeyStatus where
  publicKey : Bool
  masterKey : Bool
deriving DecidableEq, Repr

/-- Which of the two keys are there; a directory is not a key. -/
def keyStatus (vault : Vault) (disk : Disk) : KeyStatus :=
  ⟨disk.isFile vault.keys.publicKey, disk.isFile vault.keys.masterKey⟩

abbrev Attempt (α : Type) := ExceptT VaultError Procedure α

namespace Attempt

def act {α : Type} (action : Workspace → Except VaultError α × Workspace) : Attempt α :=
  ExceptT.mk (Procedure.act action)

def observe {α : Type} (view : Disk → Except VaultError α) : Attempt α :=
  act fun workspace => (view workspace.disk, workspace)

/-- A single step that changes the files or fails and leaves them alone. -/
def change (operation : Disk → Except DiskError Disk) : Attempt Unit :=
  act fun workspace =>
    match operation workspace.disk with
    | .ok disk => (.ok (), { workspace with disk := disk })
    | .error error => (.error (.disk error), workspace)

/-- A single step that creates a directory with those above it; some of them may stay after a
failure. -/
def directories (path? : Option Path) : Attempt Unit :=
  act fun workspace =>
    match path? with
    | none => (.ok (), workspace)
    | some path =>
      let (outcome, disk) := workspace.disk.createDirectories path
      (outcome.mapError .disk, { workspace with disk := disk })

end Attempt

/-- A call of the engine, given up after the time it may take. -/
def bounded (vault : Vault) (operation : Operation) (call : Call) : Attempt Unit :=
  Attempt.act fun workspace =>
    match call workspace with
    | (.ended result, after) => (result, after)
    | (.hangs, after) => (.error (.engineTimeout operation vault.timeout), after)

def requirePublicKey (vault : Vault) : Attempt Unit :=
  Attempt.observe fun disk =>
    if disk.isFile vault.keys.publicKey then .ok () else .error .missingPublicKey

def requireMasterKey (vault : Vault) : Attempt Unit :=
  Attempt.observe fun disk =>
    if disk.isFile vault.keys.masterKey then .ok () else .error .missingMasterKey

/-- Makes a new pair of keys.  Keys that are there are replaced only by force, because that makes
every sealed password unreadable. -/
def setup (vault : Vault) (force : Bool) : Attempt Unit := do
  Attempt.observe fun disk =>
    let status := vault.keyStatus disk
    if (status.publicKey || status.masterKey) && !force then .error .keysExist else .ok ()
  Attempt.directories vault.keys.publicKey.parent?
  Attempt.directories vault.keys.masterKey.parent?
  vault.bounded .setup (vault.engine.setup vault.keys)
  vault.requirePublicKey
  vault.requireMasterKey

/-! ## Scratch directories -/

def scratchPath (vault : Vault) (label : String) (number : Nat) : Path :=
  vault.scratchRoot.child s!"{label}-{number}"

/-- The first number from `start` on under which no scratch directory exists.  There are no more
numbers in use than entries in the tree of files. -/
def freshNumber (vault : Vault) (label : String) (start : Nat) (disk : Disk) : Nat :=
  let numbers := (List.range (disk.entries.length + 1)).map (start + ·)
  (numbers.find? fun number => !disk.exists? (vault.scratchPath label number)).getD start

def createScratch (vault : Vault) (label : String) : Attempt Path := do
  Attempt.directories (some vault.scratchRoot)
  Attempt.act fun workspace =>
    let number := vault.freshNumber label workspace.nextScratch workspace.disk
    let scratch := vault.scratchPath label number
    match workspace.disk.createDirectory scratch with
    | .error error => (.error (.disk error), workspace)
    | .ok disk => (.ok scratch, { workspace with disk := disk, nextScratch := number + 1 })

def removeScratch (scratch : Path) : Procedure Unit :=
  Procedure.act fun workspace =>
    ((), { workspace with disk := workspace.disk.removeTree scratch })

/-- Works in a scratch directory, which is removed however the work ends. -/
def inScratch {α : Type} (vault : Vault) (label : String) (work : Path → Attempt α) : Attempt α := do
  let scratch ← vault.createScratch label
  ExceptT.mk do
    let result ← (work scratch).run
    removeScratch scratch
    return result

/-! ## Sealing and opening -/

/-- Seals a password so that a role and those above it can open it.  The result is the base64 form
of the ciphertext. -/
def sealFor (vault : Vault) (role : Role) (password : Secret) : Attempt String := do
  vault.requirePublicKey
  vault.inScratch "seal" fun scratch => do
    let input := scratch.child "plain"
    let output := scratch.child "plain.cpabe"
    Attempt.change fun disk => disk.write input (Utf8.encode password.expose)
    vault.bounded .encrypt
      (vault.engine.encrypt vault.keys.publicKey input (Policy.forRole role) output)
    Attempt.observe fun disk => do
      let ciphertext ← VaultError.ofDisk (disk.read output)
      if ciphertext.isEmpty then
        throw (.commandFailed vault.engine.name "encrypt produced no ciphertext")
      return Base64.encode Base64.standard ciphertext

def ciphertextOf (stored : String) : Except VaultError (List UInt8) :=
  match Base64.decode Base64.standard stored with
  | .error fault => .error (.malformedCiphertext ("base64 decode failed: " ++ fault.message))
  | .ok [] => .error (.malformedCiphertext "empty ciphertext")
  | .ok ciphertext => .ok ciphertext

/-- What decrypting has written: nothing at all means that the key does not fit. -/
def readPlaintext (disk : Disk) (output : Path) : Except VaultError Secret :=
  match disk.read output with
  | .error .notFound | .ok [] => .error .noPermission
  | .error error => .error (.disk error)
  | .ok content =>
    match Utf8.decode? content with
    | some text => .ok ⟨text⟩
    | none => .error (.malformedCiphertext "plaintext is not utf-8")

def openWith (vault : Vault) (role : Role) (stored : String) : Attempt Secret := do
  let ciphertext ← ExceptT.mk (Procedure.done (ciphertextOf stored))
  vault.requirePublicKey
  vault.requireMasterKey
  vault.inScratch "unseal" fun scratch => do
    let key := scratch.child "priv_key"
    let input := scratch.child "sealed.cpabe"
    let output := scratch.child "plain"
    vault.bounded .keygen (vault.engine.keygen vault.keys (KeyAttributes.forRole role) key)
    Attempt.change fun disk => disk.write input ciphertext
    vault.bounded .decrypt (vault.engine.decrypt vault.keys.publicKey key input output)
    Attempt.observe fun disk => readPlaintext disk output

end Vault

end RoleVault
