import RoleVault.Proofs.Vault.Sealing

/-!
Contract: what opening with the engine inside the program gives.

Owns:
- `plaintextOf`, the password that an opened content is;
- `openWith_opened`: whatever the files were like, opening gives what the scheme finds or fails;
- `Ready`, a vault that can open, and `openWith_decoded`: such a vault makes of any ciphertext what the
  scheme makes of it;
- `openWith_ready`: it opens a sealed password for the roles that reach the one it was sealed for, and
  for no others.

Does not own: sealing (`RoleVault.Proofs.Vault.Sealing`).
-/

namespace RoleVault.Vault

open RoleVault.Files RoleVault.Text

variable {vault : Vault} {key role : Role} {password : String} {workspace after : Workspace}

/-! ## The content of a ciphertext -/

/-- What an opened content is as a password. -/
def plaintextOf : List UInt8 → Except VaultError Secret
  | [] => .error .noPermission
  | content =>
    match Utf8.decode? content with
    | some text => .ok ⟨text⟩
    | none => .error (.malformedCiphertext "plaintext is not utf-8")

/-- A content is a password unless it is empty. -/
theorem plaintextOf_encode (password : String) :
    plaintextOf (Utf8.encode password) =
      if password = "" then .error .noPermission else .ok ⟨password⟩ := by
  unfold plaintextOf
  split
  · rename_i none
    rw [if_pos (Utf8.encode_eq_nil_iff.mp none)]
  · rename_i filled
    have named : password ≠ "" := fun empty => filled (Utf8.encode_eq_nil_iff.mpr empty)
    rw [Utf8.decode?_encode, if_neg named]

/-! ## The files of an opening -/

section Files

variable {disk : Disk} {scratch : Path} {place : Location}

theorem keyRole_of_read {file : Path} (reads : disk.read file = .ok (Utf8.encode key.name)) :
    Scheme.keyRole disk file = .ok key := by
  simp [Scheme.keyRole, reads, Utf8.decode?_encode, Role.ofName?_name]

theorem keyRole_written
    (leads : Disk.Leads disk (disk.origin scratch) scratch.steps place .directory)
    (text : Disk.IsPathText (scratch.child "priv_key").text)
    (stands : disk.get? (place ++ ["priv_key"]) = some (.file (Utf8.encode key.name))) :
    Scheme.keyRole disk (scratch.child "priv_key") = .ok key :=
  keyRole_of_read (Disk.read_child leads (by decide) text stands)

theorem readPlaintext_of_read {output : Path} {content : List UInt8}
    (reads : disk.read output = .ok content) :
    Vault.readPlaintext disk output = plaintextOf content := by
  rw [Vault.readPlaintext, reads]
  cases content <;> rfl

end Files

/-! ## An opening that succeeds -/

/-- Whatever the files were like, what opening gives is what the scheme finds in the ciphertext. -/
theorem openWith_opened {hanging : Bool} (inProcess : vault.engine = Engine.inProcess hanging)
    {stored : String} {opened : Secret}
    (ends : Attempt.exec (vault.openWith key stored) workspace = (.ok opened, after)) :
    ∃ ciphertext, Vault.ciphertextOf stored = .ok ciphertext ∧
      (Scheme.openWith key ciphertext).bind plaintextOf = .ok opened := by
  rw [Vault.openWith, inProcess] at ends
  obtain ⟨ciphertext, _, decoded, ends⟩ := Attempt.bind_ok ends
  rw [Attempt.exec_done] at decoded
  refine ⟨ciphertext, congrArg Prod.fst decoded, ?_⟩
  obtain ⟨_, _, _, ends⟩ := Attempt.bind_ok ends
  obtain ⟨_, checked, _, ends⟩ := Attempt.bind_ok ends
  obtain ⟨scratch, made, _, creates, works⟩ := Attempt.inScratch_ok ends
  obtain ⟨place, _, _, working, _⟩ := createScratch_ok creates
  obtain ⟨_, keyed, generated, works⟩ := Attempt.bind_ok works
  obtain ⟨_, filled, changed, works⟩ := Attempt.bind_ok works
  obtain ⟨_, decrypted, called, observed⟩ := Attempt.bind_ok works
  obtain ⟨_, rfl, keyWritten⟩ := bounded_ok (keygen_writes hanging _ key _) generated
  have keyedLeads := (working.write (by decide) keyWritten).leads
  have inputWritten := Attempt.change_ok changed
  have filledLeads := ((working.write (by decide) keyWritten).write (by decide) inputWritten).leads
  obtain ⟨keyText, keyedDisk, keyFree⟩ := Disk.write_child working.leads (by decide) keyWritten
  obtain ⟨_, filledDisk, _⟩ := Disk.write_child keyedLeads (by decide) inputWritten
  -- the key file is still what keygen wrote, for the ciphertext went to another name
  have keyStands : filled.disk.get? (place ++ ["priv_key"]) =
      some (.file (Utf8.encode key.name)) := by
    rw [filledDisk, Disk.get?_put_of_ne (by simp), keyedDisk, Disk.get?_put_self keyFree]
  obtain ⟨bytes, ⟨holder, input, holds, reads, opens⟩, written⟩ :=
    bounded_ok (decrypt_writes hanging _ _ _ _) called
  rw [keyRole_written filledLeads keyText keyStands] at holds
  obtain rfl := Except.ok.inj holds
  rw [Disk.read_write inputWritten] at reads
  obtain rfl := Except.ok.inj reads
  rw [Attempt.exec_observe, readPlaintext_of_read (Disk.read_write written)] at observed
  rw [opens]
  exact congrArg Prod.fst observed

/-- Opening gives nothing but the sealed password, and only to a role that reaches the one it was
sealed for. -/
theorem openWith_ok {hanging : Bool} (inProcess : vault.engine = Engine.inProcess hanging)
    {opened : Secret}
    (ends : Attempt.exec (vault.openWith key (sealedText role password)) workspace =
      (.ok opened, after)) :
    opened = ⟨password⟩ ∧ key.atLeast role = true := by
  obtain ⟨ciphertext, decoded, reads⟩ := openWith_opened inProcess ends
  rw [ciphertextOf_sealedText] at decoded
  obtain rfl := Except.ok.inj decoded
  rw [Scheme.openWith_frame] at reads
  split at reads
  · rename_i reaches
    change plaintextOf _ = _ at reads
    rw [plaintextOf_encode] at reads
    split at reads <;> cases reads
    exact ⟨rfl, reaches⟩
  · cases reads

/-! ## An opening that is possible -/

/-- A vault that can open: the engine inside the program does not hang, both keys are there, and so
is a scratch root that can be used, in a tree of files in which everything stands in a directory. -/
structure Ready (vault : Vault) (workspace : Workspace) : Prop where
  inProcess : vault.engine = Engine.inProcess false
  tree : Disk.IsTree workspace.disk
  publicKey : workspace.disk.isFile vault.keys.publicKey = true
  masterKey : workspace.disk.isFile vault.keys.masterKey = true
  usable : IsUsable vault "unseal" workspace

section Calls

variable {keyPlace input output : Path} {disk other : Disk} (present : workspace.disk = disk)

include present

private theorem exec_keygen (inProcess : vault.engine = Engine.inProcess false)
    (master : disk.exists? vault.keys.masterKey = true)
    (written : disk.write output (Utf8.encode key.name) = .ok other) :
    Attempt.exec (vault.bounded .keygen
        (vault.engine.keygen vault.keys (KeyAttributes.forRole key) output)) workspace =
      (.ok (), { workspace with
        disk := other, issuedKeys := workspace.issuedKeys ++ [output] }) := by
  subst present
  rw [inProcess, Attempt.exec_bounded]
  simp [Engine.inProcess, unlessHanging, recordingKey, Scheme.Effect.toCall, Scheme.keygen, master,
    Scheme.writing, written, Scheme.finish]

/-- What is decrypted and then read is what the scheme finds in the ciphertext. -/
theorem exec_decrypt_read {ciphertext : List UInt8}
    (inProcess : vault.engine = Engine.inProcess false)
    (holds : Scheme.keyRole disk keyPlace = .ok key) (reads : disk.read input = .ok ciphertext)
    (writes : ∀ content, ∃ other, disk.write output content = .ok other) :
    (Attempt.exec (do
        vault.bounded .decrypt (vault.engine.decrypt vault.keys.publicKey keyPlace input output)
        Attempt.observe fun disk => Vault.readPlaintext disk output) workspace).1 =
      (Scheme.openWith key ciphertext).bind plaintextOf := by
  subst present
  rw [Attempt.exec_bind, inProcess, Attempt.exec_bounded]
  cases opens : Scheme.openWith key ciphertext with
  | error failure =>
    simp [Engine.inProcess, unlessHanging, Scheme.Effect.toCall, Scheme.decrypt, holds, reads, opens,
      Except.bind]
  | ok content =>
    obtain ⟨other, written⟩ := writes content
    simp [Engine.inProcess, unlessHanging, Scheme.Effect.toCall, Scheme.decrypt, holds, reads, opens,
      Scheme.writing, written, Scheme.finish, Attempt.exec_observe,
      readPlaintext_of_read (Disk.read_write written), Except.bind]

end Calls

/-- A vault that is ready makes of a ciphertext what the scheme makes of it. -/
theorem openWith_decoded {stored : String} {ciphertext : List UInt8} (ready : Ready vault workspace)
    (decoded : Vault.ciphertextOf stored = .ok ciphertext) :
    (Attempt.exec (vault.openWith key stored) workspace).1 =
      (Scheme.openWith key ciphertext).bind plaintextOf := by
  obtain ⟨inProcess, tree, publicKey, masterKey, usable⟩ := ready
  obtain ⟨scratch, made, place, before, creates, grows, working, free, text⟩ := usable.new tree
  have masterExists : made.disk.exists? vault.keys.masterKey = true :=
    Disk.exists?_of_isFile (working.isFile (Disk.isFile_extend grows masterKey))
  -- the key, the ciphertext and the plaintext are written side by side
  have keyText := text "priv_key" (by decide) (by decide)
  obtain ⟨keyed, keyWritten, keyedWorking, keyStands, keyBeside⟩ :=
    working.write_new (Utf8.encode key.name) (by decide) keyText (free _)
  obtain ⟨filled, inputWritten, filledWorking, _, inputBeside⟩ :=
    keyedWorking.write_new ciphertext (by decide) (text "sealed.cpabe" (by decide) (by decide))
      ((keyBeside _ (by decide)).trans (free _))
  have plainFree : filled.get? (place ++ ["plain"]) = none := by
    rw [inputBeside _ (by decide), keyBeside _ (by decide), free]
  have writes (content : List UInt8) :
      ∃ other, filled.write (scratch.child "plain") content = .ok other := by
    obtain ⟨other, written, _⟩ := filledWorking.write_new content (by decide)
      (text "plain" (by decide) (by decide)) plainFree
    exact ⟨other, written⟩
  have holds : Scheme.keyRole filled (scratch.child "priv_key") = .ok key :=
    keyRole_written filledWorking.leads keyText ((inputBeside _ (by decide)).trans keyStands)
  have reads := Disk.read_write inputWritten
  have generates := exec_keygen rfl inProcess masterExists keyWritten
  have fills (workspace : Workspace) (same : workspace.disk = keyed) :
      Attempt.exec (Attempt.change fun disk => disk.write (scratch.child "sealed.cpabe")
        ciphertext) workspace = (.ok (), { workspace with disk := filled }) := by
    rw [Attempt.exec_change, same, inputWritten]
  rw [Vault.openWith, decoded, Attempt.exec_bind_ok (Attempt.exec_done _ _),
    Attempt.exec_bind_ok (by rw [Vault.requirePublicKey, Attempt.exec_observe, if_pos publicKey]),
    Attempt.exec_bind_ok (by rw [Vault.requireMasterKey, Attempt.exec_observe, if_pos masterKey]),
    Attempt.exec_inScratch creates]
  simp only
  rw [Attempt.exec_bind_ok generates, Attempt.exec_bind_ok (fills _ rfl)]
  exact exec_decrypt_read rfl inProcess holds reads writes

/-- A vault that is ready opens a sealed password exactly for the roles that reach the one it was
sealed for; one that is empty it opens for none. -/
theorem openWith_ready (ready : Ready vault workspace) :
    (Attempt.exec (vault.openWith key (sealedText role password)) workspace).1 =
      if key.atLeast role = true ∧ password ≠ "" then .ok ⟨password⟩ else .error .noPermission := by
  rw [openWith_decoded ready (ciphertextOf_sealedText role password), Scheme.openWith_frame]
  by_cases reaches : key.atLeast role = true
  · rw [if_pos reaches]
    show plaintextOf _ = _
    rw [plaintextOf_encode]
    by_cases empty : password = "" <;> simp [empty, reaches]
  · simp [reaches, Except.bind]

end RoleVault.Vault
