import RoleVault.Text.Utf8
import RoleVault.Vault.Engine

/-!
Contract: a scheme that enforces policies without secrecy, for trials and for reasoning, and the
engine that runs it inside the program.

Owns:
- the ciphertexts of the scheme, which name their policy in front of the content, and its keys, which
  are role names;
- what its four calls do to the files;
- these calls as an engine, which can be told to hang, and the record of the paths under which it
  writes private keys.

Does not own: the scheme behind tools (`RoleVault.Vault.Tools`).
-/

namespace RoleVault.Vault.Scheme

open RoleVault.Files RoleVault.Text

/-- The first bytes of every ciphertext. -/
def magic : List UInt8 := Utf8.encode "FAKEABE1\n"

def newline : UInt8 := 10

def frame (policy : Policy) (content : List UInt8) : List UInt8 :=
  magic ++ Utf8.encode policy.expression ++ newline :: content

def unframe? (ciphertext : List UInt8) : Option (Policy × List UInt8) :=
  if magic.isPrefixOf ciphertext then
    let body := ciphertext.drop magic.length
    match body.dropWhile (· != newline) with
    | [] => none
    | _ :: content => some (⟨Utf8.decodeLossy (body.takeWhile (· != newline))⟩, content)
  else none

def openWith (key : Role) (ciphertext : List UInt8) : Except VaultError (List UInt8) :=
  match unframe? ciphertext with
  | none => .error .noPermission
  | some (policy, content) =>
    match policy.role? with
    | none => .error .noPermission
    | some sealed => if satisfies key sealed then .ok content else .error .noPermission

def name : String := "fake-abe"

def failed (reason : String) : VaultError :=
  .commandFailed name reason

/-- What a call does to the files, and how it ends.  A call that fails may have changed some. -/
abbrev Effect := Disk → Except VaultError Unit × Disk

/-- Writes a file and goes on, or fails and leaves the files alone. -/
def writing (place : Path) (content : List UInt8) (following : Effect) : Effect := fun disk =>
  match disk.write place content with
  | .error error => (.error (.disk error), disk)
  | .ok disk => following disk

def finish : Effect := fun disk => (.ok (), disk)

/-- Writes both keys, the public key first. -/
def setup (keys : KeyPaths) : Effect :=
  writing keys.publicKey (Utf8.encode "fake public parameters") <|
    writing keys.masterKey (Utf8.encode "fake master secret") finish

/-- Encrypts a file; the public key has to exist. -/
def encrypt (publicKey input : Path) (policy : Policy) (output : Path) : Effect := fun disk =>
  if !disk.exists? publicKey then (.error (failed "public key unreadable"), disk)
  else
    match disk.read input with
    | .error error => (.error (.disk error), disk)
    | .ok content => writing output (frame policy content) finish disk

/-- Writes the key of a role; the master key has to exist and the attributes to be those of a
role. -/
def keygen (keys : KeyPaths) (attributes : KeyAttributes) (output : Path) : Effect := fun disk =>
  if !disk.exists? keys.masterKey then (.error (failed "master key unreadable"), disk)
  else
    match attributes.role? with
    | none => (.error (failed "unrecognised attribute set"), disk)
    | some role => writing output (Utf8.encode role.name) finish disk

def keyRole (disk : Disk) (place : Path) : Except VaultError Role :=
  match disk.read place with
  | .error error => .error (.disk error)
  | .ok content =>
    match Utf8.decode? content with
    | none => .error (.disk .notText)
    | some text =>
      match Role.ofName? text with
      | none => .error (failed "unreadable private key")
      | some role => .ok role

def decrypt (privateKey input output : Path) : Effect := fun disk =>
  match keyRole disk privateKey with
  | .error error => (.error error, disk)
  | .ok role =>
    match disk.read input with
    | .error error => (.error (.disk error), disk)
    | .ok ciphertext =>
      match openWith role ciphertext with
      | .error error => (.error error, disk)
      | .ok content => writing output content finish disk

end RoleVault.Vault.Scheme

namespace RoleVault.Vault

open RoleVault.Files

def Scheme.Effect.toCall (effect : Scheme.Effect) : Call := fun workspace =>
  let (result, disk) := effect workspace.disk
  (.ended result, { workspace with disk := disk })

/-- A call that never ends while the engine hangs. -/
def unlessHanging (hanging : Bool) (call : Call) : Call := fun workspace =>
  if hanging then (.hangs, workspace) else call workspace

/-- A call that makes a key, followed by a note of its path if it succeeds. -/
def recordingKey (output : Path) (call : Call) : Call := fun workspace =>
  match call workspace with
  | (.ended (.ok ()), after) =>
    (.ended (.ok ()), { after with issuedKeys := after.issuedKeys ++ [output] })
  | other => other

/-- The trial scheme as an engine.  While it hangs, only setup ends. -/
def Engine.inProcess (hanging : Bool) : Engine where
  name := Scheme.name
  setup keys := Scheme.Effect.toCall (Scheme.setup keys)
  encrypt publicKey input policy output :=
    unlessHanging hanging (Scheme.Effect.toCall (Scheme.encrypt publicKey input policy output))
  keygen keys attributes output :=
    unlessHanging hanging
      (recordingKey output (Scheme.Effect.toCall (Scheme.keygen keys attributes output)))
  decrypt _ privateKey input output :=
    unlessHanging hanging (Scheme.Effect.toCall (Scheme.decrypt privateKey input output))

end RoleVault.Vault
