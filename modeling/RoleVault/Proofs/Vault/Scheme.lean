import RoleVault.Proofs.Vault.Classification
import RoleVault.Vault.InProcess

/-!
Contract: what the trial scheme seals, it opens for the roles that the policy admits, and for no
others.

Owns:
- `openWith_frame`, which decides what a key finds in a ciphertext;
- `sealedText`, the text that a password is sealed into, with its class and its ciphertext;
- `Call.Writes`, what a call does that writes one file or fails, and that the calls of the engine
  inside the program are such.

Does not own: the steps of sealing and opening (`RoleVault.Proofs.Vault.Sealing` and its neighbour).
-/

namespace RoleVault.Vault

open RoleVault.Files RoleVault.Text

/-! ## Policies and ciphertexts -/

@[simp] theorem role?_forRole (role : Role) : (Policy.forRole role).role? = some role := by
  cases role <;> decide

@[simp] theorem attributes_role?_forRole (role : Role) :
    (KeyAttributes.forRole role).role? = some role := by
  cases role <;> decide

namespace Scheme

/-- No policy holds the byte that ends it, and each reads back from its bytes. -/
theorem expression_reads (role : Role) :
    (∀ byte ∈ Utf8.encode (Policy.forRole role).expression, (byte != newline) = true) ∧
      Utf8.decodeLossy (Utf8.encode (Policy.forRole role).expression) =
        (Policy.forRole role).expression := by
  have plain : (Utf8.encode (Policy.forRole role).expression).all (· != newline) = true := by
    cases role <;> decide
  refine ⟨List.all_eq_true.mp plain, ?_⟩
  cases role <;> decide

private theorem unframe?_frame (role : Role) (content : List UInt8) :
    unframe? (frame (Policy.forRole role) content) = some (Policy.forRole role, content) := by
  obtain ⟨plain, reads⟩ := expression_reads role
  have headed : magic <+: frame (Policy.forRole role) content := by
    rw [frame, List.append_assoc]
    exact List.prefix_append _ _
  have body : (frame (Policy.forRole role) content).drop magic.length =
      Utf8.encode (Policy.forRole role).expression ++ newline :: content := by
    rw [frame, List.append_assoc, List.drop_left]
  rw [unframe?, if_pos (List.isPrefixOf_iff_prefix.mpr headed), body]
  simp [List.dropWhile_append_of_pos plain, List.takeWhile_append_of_pos plain, reads]

/-- A key finds the content exactly where its role reaches the one that the policy is for. -/
theorem openWith_frame (key role : Role) (content : List UInt8) :
    openWith key (frame (Policy.forRole role) content) =
      if key.atLeast role then .ok content else .error .noPermission := by
  rw [openWith, unframe?_frame]
  simp only [role?_forRole]
  rfl

/-- Whatever a ciphertext is like, the only failure is that the key does not fit. -/
theorem openWith_error {key : Role} {ciphertext : List UInt8} {failure : VaultError}
    (fails : openWith key ciphertext = .error failure) : failure = .noPermission := by
  unfold openWith at fails
  split at fails
  · cases fails
    rfl
  · split at fails
    · cases fails
      rfl
    · split at fails <;> cases fails
      rfl

private theorem length_frame (role : Role) (content : List UInt8) :
    25 < (frame (Policy.forRole role) content).length := by
  have policy : 16 ≤ (Utf8.encode (Policy.forRole role).expression).length := by
    cases role <;> decide
  have head : magic.length = 9 := by decide
  simp [frame, head]
  omega

/-! ## How effects end -/

/-- Whether a call of the scheme has succeeded, or has failed at a file. -/
def EndsAtFiles (result : Except VaultError Unit) : Prop :=
  result = .ok () ∨ ∃ reason, result = .error (.disk reason)

/-- Writing a file ends well or at that file. -/
theorem writing_ends {following : Effect} (place : Path) (content : List UInt8)
    (ends : ∀ disk, EndsAtFiles (following disk).1) (disk : Disk) :
    EndsAtFiles (writing place content following disk).1 := by
  unfold writing
  split
  · exact .inr ⟨_, rfl⟩
  · exact ends _

theorem finish_ends (disk : Disk) : EndsAtFiles (finish disk).1 := .inl rfl

theorem setup_ends (keys : KeyPaths) (disk : Disk) : EndsAtFiles (setup keys disk).1 :=
  writing_ends _ _ (writing_ends _ _ finish_ends) disk

section Effects

variable {disk after : Disk} {publicKey privateKey input output : Path} {content : List UInt8}

/-- With the key and the input there, encrypting comes down to writing the ciphertext. -/
theorem encrypt_writing (policy : Policy) (present : disk.exists? publicKey = true)
    (reads : disk.read input = .ok content) :
    encrypt publicKey input policy output disk =
      writing output (frame policy content) finish disk := by
  simp [encrypt, present, reads]

/-- A file is encrypted where the public key is there and the output can be written. -/
theorem encrypt_succeeds (policy : Policy) (present : disk.exists? publicKey = true)
    (reads : disk.read input = .ok content)
    (writes : disk.write output (frame policy content) = .ok after) :
    encrypt publicKey input policy output disk = (.ok (), after) := by
  simp [encrypt_writing policy present reads, writing, writes, finish]

/-- With the master key there, making the key of a role comes down to writing it. -/
theorem keygen_writing {keys : KeyPaths} {role : Role}
    (present : disk.exists? keys.masterKey = true) :
    keygen keys (KeyAttributes.forRole role) output disk =
      writing output (Utf8.encode role.name) finish disk := by
  simp [keygen, present]

theorem keygen_succeeds {keys : KeyPaths} {role : Role}
    (present : disk.exists? keys.masterKey = true)
    (writes : disk.write output (Utf8.encode role.name) = .ok after) :
    keygen keys (KeyAttributes.forRole role) output disk = (.ok (), after) := by
  simp [keygen_writing present, writing, writes, finish]

/-- Decrypting fails for want of permission only, where its files can be read and written. -/
theorem decrypt_ends {role : Role} (holds : keyRole disk privateKey = .ok role)
    (reads : disk.read input = .ok content)
    (writes : ∀ opened, ∃ after, disk.write output opened = .ok after) :
    (decrypt privateKey input output disk).1 = .ok () ∨
      (decrypt privateKey input output disk).1 = .error .noPermission := by
  rw [decrypt, holds]
  simp only [reads]
  cases opens : openWith role content with
  | error failure =>
    rw [openWith_error opens]
    exact .inr rfl
  | ok opened =>
    obtain ⟨after, written⟩ := writes opened
    simp [writing, written, finish]

end Effects

end Scheme

/-! ## Sealed passwords -/

/-- The text that a password is sealed into for a role. -/
def sealedText (role : Role) (password : String) : String :=
  Base64.encode Base64.standard (Scheme.frame (Policy.forRole role) (Utf8.encode password))

private theorem decode_sealedText (role : Role) (password : String) :
    Base64.decode Base64.standard (sealedText role password) =
      .ok (Scheme.frame (Policy.forRole role) (Utf8.encode password)) :=
  Base64.decode_encode Base64.isLawful_standard _

theorem frame_ne_nil (role : Role) (content : List UInt8) :
    Scheme.frame (Policy.forRole role) content ≠ [] := by
  have long := Scheme.length_frame role content
  rintro empty
  simp [empty] at long

/-- Every sealed password is too long to have the shape of a password. -/
@[simp] theorem classify_sealedText (role : Role) (password : String) :
    Vault.classify (sealedText role password) = .sealed := by
  have long := Scheme.length_frame role (Utf8.encode password)
  exact classify_encode_of_long (by omega)

/-- The ciphertext in a sealed text is the password under the policy of its role. -/
theorem ciphertextOf_sealedText (role : Role) (password : String) :
    Vault.ciphertextOf (sealedText role password) =
      .ok (Scheme.frame (Policy.forRole role) (Utf8.encode password)) := by
  rw [Vault.ciphertextOf, decode_sealedText]
  cases framed : Scheme.frame (Policy.forRole role) (Utf8.encode password) with
  | nil => exact absurd framed (frame_ne_nil role _)
  | cons first rest => rfl

/-! ## Calls -/

/-- A call that writes one file, whose content the files before it determine, or else hangs or fails
and leaves the files alone; it never fails for want of a key or of the engine. -/
def Call.Writes (output : Path) (content : Disk → List UInt8 → Prop) (call : Call) : Prop :=
  ∀ workspace,
    (∃ bytes, content workspace.disk bytes ∧ (call workspace).1 = .ended (.ok ()) ∧
      workspace.disk.write output bytes = .ok (call workspace).2.disk) ∨
    ((call workspace).1 = .hangs ∨
      ∃ failure, (call workspace).1 = .ended (.error failure) ∧ failure.isUnavailable = false) ∧
      (call workspace).2.disk = workspace.disk

section Calls

variable {output : Path} {content : Disk → List UInt8 → Prop} {call : Call}

/-- A call that ends by writing a file, where it does not fail before. -/
theorem toCall_writes {effect : Scheme.Effect}
    (ends : ∀ disk, (∃ bytes, content disk bytes ∧
        effect disk = Scheme.writing output bytes Scheme.finish disk) ∨
      ∃ failure, effect disk = (.error failure, disk) ∧ failure.isUnavailable = false) :
    Call.Writes output content effect.toCall := by
  intro workspace
  rcases ends workspace.disk with ⟨bytes, holds, writes⟩ | ⟨failure, fails, available⟩
  · rw [Scheme.Effect.toCall, writes, Scheme.writing]
    cases written : workspace.disk.write output bytes with
    | ok disk => exact .inl ⟨bytes, holds, rfl, written⟩
    | error error => exact .inr ⟨.inr ⟨.disk error, rfl, rfl⟩, rfl⟩
  · rw [Scheme.Effect.toCall, fails]
    exact .inr ⟨.inr ⟨failure, rfl, available⟩, rfl⟩

theorem Call.Writes.unlessHanging (writes : Call.Writes output content call) (hanging : Bool) :
    Call.Writes output content (unlessHanging hanging call) := by
  intro workspace
  cases hanging with
  | true => exact .inr ⟨.inl rfl, rfl⟩
  | false => exact writes workspace

/-- The note of a key that was written changes nothing else. -/
theorem recordingKey_same (output : Path) (call : Call) (workspace : Workspace) :
    (recordingKey output call workspace).1 = (call workspace).1 ∧
      (recordingKey output call workspace).2.disk = (call workspace).2.disk ∧
      (recordingKey output call workspace).2.nextScratch = (call workspace).2.nextScratch := by
  unfold recordingKey
  split
  · rename_i ended
    simp [ended]
  · exact ⟨rfl, rfl, rfl⟩

theorem Call.Writes.recordingKey (writes : Call.Writes output content call) :
    Call.Writes output content (recordingKey output call) := by
  intro workspace
  obtain ⟨outcome, disk, _⟩ := recordingKey_same output call workspace
  rw [outcome, disk]
  exact writes workspace

variable (hanging : Bool) (keys : KeyPaths) (input : Path)

theorem encrypt_writes (publicKey : Path) (policy : Policy) (output : Path) :
    Call.Writes output
      (fun disk bytes => ∃ content, disk.read input = .ok content ∧
        bytes = Scheme.frame policy content)
      ((Engine.inProcess hanging).encrypt publicKey input policy output) := by
  refine Call.Writes.unlessHanging (toCall_writes fun disk => ?_) hanging
  unfold Scheme.encrypt
  split
  · exact .inr ⟨_, rfl, rfl⟩
  · split
    · exact .inr ⟨_, rfl, rfl⟩
    · rename_i content reads
      exact .inl ⟨_, ⟨content, reads, rfl⟩, rfl⟩

theorem keygen_writes (role : Role) (output : Path) :
    Call.Writes output (fun _ bytes => bytes = Utf8.encode role.name)
      ((Engine.inProcess hanging).keygen keys (KeyAttributes.forRole role) output) := by
  refine Call.Writes.unlessHanging (Call.Writes.recordingKey (toCall_writes fun disk => ?_)) hanging
  unfold Scheme.keygen
  split
  · exact .inr ⟨_, rfl, rfl⟩
  · rw [attributes_role?_forRole]
    exact .inl ⟨_, rfl, rfl⟩

private theorem keyRole_available {disk : Disk} {place : Path} {failure : VaultError}
    (fails : Scheme.keyRole disk place = .error failure) : failure.isUnavailable = false := by
  unfold Scheme.keyRole at fails
  split at fails
  · cases fails
    rfl
  · split at fails
    · cases fails
      rfl
    · split at fails <;> cases fails
      rfl

private theorem openWith_available {role : Role} {ciphertext : List UInt8} {failure : VaultError}
    (fails : Scheme.openWith role ciphertext = .error failure) :
    failure.isUnavailable = false := by
  rw [Scheme.openWith_error fails]
  rfl

theorem decrypt_writes (publicKey privateKey output : Path) :
    Call.Writes output
      (fun disk bytes => ∃ role ciphertext, Scheme.keyRole disk privateKey = .ok role ∧
        disk.read input = .ok ciphertext ∧ Scheme.openWith role ciphertext = .ok bytes)
      ((Engine.inProcess hanging).decrypt publicKey privateKey input output) := by
  refine Call.Writes.unlessHanging (toCall_writes fun disk => ?_) hanging
  unfold Scheme.decrypt
  split
  · rename_i failure fails
    exact .inr ⟨_, rfl, keyRole_available fails⟩
  · rename_i role holds
    split
    · exact .inr ⟨_, rfl, rfl⟩
    · rename_i ciphertext reads
      split
      · rename_i failure fails
        exact .inr ⟨_, rfl, openWith_available fails⟩
      · rename_i bytes opens
        exact .inl ⟨_, ⟨role, ciphertext, holds, reads, opens⟩, rfl⟩

end Calls

end RoleVault.Vault
