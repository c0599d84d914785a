import RoleVault.Proofs.Files.Tree
import RoleVault.Proofs.Vault.Scheme
import RoleVault.Proofs.Vault.Scratch

/-!
Contract: what sealing with the engine inside the program gives, where it gives anything.

Owns:
- `sealFor_ok`: a sealed password is `sealedText`, whatever the files were like;
- `sealFor_find?`: whatever a path leads to, it still leads to after sealing;
- `sealFor_available`: with the public key there, no failure makes the vault unavailable;
- `exec_sealFor_ready`: with a scratch root that can be used as well, sealing does not fail, and of its
  scratch directory nothing stays;
- `CanSeal`, a vault that can seal some passwords one after the other, and that it can seal the rest
  after the first.

Does not own: opening (`RoleVault.Proofs.Vault.Opening`).
-/

namespace RoleVault.Vault

open RoleVault.Files RoleVault.Text

/-! ## Calls of an engine -/

section Calls

variable {vault : Vault} {operation : Operation} {call : Call} {output : Path}
variable {content : Disk → List UInt8 → Prop} {workspace after : Workspace}

/-- A call that writes its output has written what it should. -/
theorem bounded_ok (writes : Call.Writes output content call)
    (ends : Attempt.exec (vault.bounded operation call) workspace = (.ok (), after)) :
    ∃ bytes, content workspace.disk bytes ∧
      workspace.disk.write output bytes = .ok after.disk := by
  rw [Attempt.exec_bounded] at ends
  rcases writes workspace with ⟨bytes, holds, ended, written⟩ | ⟨stopped, _⟩
  · split at ends
    · rename_i result later calls
      cases ends
      rw [calls] at written
      exact ⟨bytes, holds, written⟩
    · cases ends
  · split at ends
    · rename_i result later calls
      cases ends
      rw [calls] at stopped
      rcases stopped with hangs | ⟨failure, fails, _⟩
      · cases hangs
      · cases fails
    · cases ends

/-- A call that writes its output never fails as if keys or engine were missing. -/
theorem FailsOnly.bounded (writes : Call.Writes output content call) :
    Attempt.FailsOnly (fun failure => failure.isUnavailable = false)
      (vault.bounded operation call) := by
  intro workspace failure after ends
  rw [Attempt.exec_bounded] at ends
  split at ends
  · rename_i result later calls
    cases ends
    rcases writes workspace with ⟨_, _, ended, _⟩ | ⟨hangs | ⟨cause, fails, available⟩, _⟩
    · rw [calls] at ended
      cases ended
    · rw [calls] at hangs
      cases hangs
    · rw [calls] at fails
      cases fails
      exact available
  · cases ends
    rfl

theorem KeepsTo.boundedCall {scratch : Path} {name : String} (descends : Disk.GoesDown name)
    (writes : Call.Writes (scratch.child name) content call) :
    KeepsTo scratch (vault.bounded operation call) := by
  refine KeepsTo.bounded descends fun workspace => ?_
  rcases writes workspace with ⟨bytes, _, _, written⟩ | ⟨_, same⟩
  · exact .inr ⟨bytes, written⟩
  · exact .inl same

end Calls

/-! ## Sealing -/

section Sealing

variable {vault : Vault} {hanging : Bool} (inProcess : vault.engine = Engine.inProcess hanging)
variable {role : Role} {password : Secret} {workspace after : Workspace} {stored : String}

include inProcess

/-- A sealed password is the text of its ciphertext under the policy of the role. -/
theorem sealFor_ok
    (ends : Attempt.exec (vault.sealFor role password) workspace = (.ok stored, after)) :
    stored = sealedText role password.expose := by
  obtain ⟨_, checked, _, works⟩ := Attempt.bind_ok ends
  obtain ⟨scratch, made, _, _, works⟩ := Attempt.inScratch_ok works
  obtain ⟨_, filled, changed, works⟩ := Attempt.bind_ok works
  obtain ⟨_, encrypted, called, observed⟩ := Attempt.bind_ok works
  have readsInput : filled.disk.read (scratch.child "plain") =
      .ok (Utf8.encode password.expose) :=
    Disk.read_write (Attempt.change_ok changed)
  rw [inProcess] at called
  obtain ⟨_, ⟨content, reads, rfl⟩, written⟩ :=
    bounded_ok (encrypt_writes hanging _ _ (Policy.forRole role) _) called
  obtain rfl : Utf8.encode password.expose = content := by
    rw [readsInput] at reads
    exact Except.ok.inj reads
  have readsOutput := Disk.read_write written
  rw [Attempt.exec_observe, readsOutput] at observed
  cases framed : Scheme.frame (Policy.forRole role) (Utf8.encode password.expose) with
  | nil => exact absurd framed (frame_ne_nil role _)
  | cons first rest =>
    rw [framed] at observed
    cases observed
    rw [sealedText, framed]

/-- Whatever a path leads to before sealing, it leads to afterwards. -/
theorem sealFor_find? {path : Path} {entry : Entry}
    (found : workspace.disk.find? path = some entry) :
    (Attempt.exec (vault.sealFor role password) workspace).2.disk.find? path = some entry := by
  rw [Vault.sealFor, Attempt.exec_bind, Vault.requirePublicKey, Attempt.exec_observe]
  by_cases present : workspace.disk.isFile vault.keys.publicKey
  · simp only [present, if_true]
    refine inScratch_find? (fun scratch => ?_) found
    refine .bind (.write (by decide) _) fun _ => .bind ?_ fun _ => .observe _
    rw [inProcess]
    exact .boundedCall (by decide) (encrypt_writes hanging _ _ _ _)
  · simp only [present]
    exact found

/-- Sealing a password keeps the files that were there. -/
theorem sealFor_isFile {path : Path} (file : workspace.disk.isFile path = true) :
    (Attempt.exec (vault.sealFor role password) workspace).2.disk.isFile path = true := by
  obtain ⟨entry, found, same⟩ := Disk.find?_of_isFile file
  exact same _ (sealFor_find? inProcess found)

/-- With the public key there, no failure means that keys or the engine are missing. -/
theorem sealFor_available {failure : VaultError}
    (present : workspace.disk.isFile vault.keys.publicKey = true)
    (ends : Attempt.exec (vault.sealFor role password) workspace = (.error failure, after)) :
    failure.isUnavailable = false := by
  rw [Vault.sealFor, Attempt.exec_bind, Vault.requirePublicKey, Attempt.exec_observe] at ends
  simp only [present, if_true] at ends
  refine Attempt.FailsOnly.inScratch (fun failure => failure.isUnavailable = false)
    (fun _ => rfl) (fun scratch => ?_) _ _ _ ends
  refine .bind (.change _ fun _ => rfl) fun _ => .bind ?_ fun _ => .observe ?_
  · rw [inProcess]
    exact FailsOnly.bounded (encrypt_writes hanging _ _ _ _)
  · intro disk failure fails
    cases reads : disk.read (scratch.child "plain.cpabe") with
    | error error =>
      rw [reads] at fails
      cases fails
      rfl
    | ok ciphertext =>
      rw [reads] at fails
      cases ciphertext with
      | nil =>
        cases fails
        rfl
      | cons first rest => cases fails

omit inProcess in
/-- With the public key there and a new scratch directory, sealing does not fail, and the directory is
removed with all that was written in it. -/
theorem exec_sealFor_ready {scratch : Path} {made : Workspace}
    (running : vault.engine = Engine.inProcess false) (tree : Disk.IsTree workspace.disk)
    (creates : Attempt.exec (vault.createScratch "seal") workspace = (.ok scratch, made))
    (fits : (scratch.child "sealed.cpabe").text.utf8ByteSize ≤ maxPathSize)
    (present : workspace.disk.isFile vault.keys.publicKey = true) (role : Role)
    (password : Secret) :
    Attempt.exec (vault.sealFor role password) workspace =
      (.ok (sealedText role password.expose),
        { made with disk := made.disk.removeTree scratch }) := by
  obtain ⟨place, before, grows, working, free, text⟩ := createScratch_new tree creates fits
  -- the plaintext and the ciphertext are written side by side
  obtain ⟨filled, inputWritten, filledWorking, _, inputBeside⟩ :=
    working.write_new (Utf8.encode password.expose) (by decide)
      (text "plain" (by decide) (by decide)) (free _)
  obtain ⟨encrypted, outputWritten, _, _, _⟩ :=
    filledWorking.write_new (Scheme.frame (Policy.forRole role) (Utf8.encode password.expose))
      (by decide) (text "plain.cpabe" (by decide) (by decide))
      ((inputBeside _ (by decide)).trans (free _))
  have publicExists : filled.exists? vault.keys.publicKey = true :=
    Disk.exists?_of_isFile (filledWorking.isFile (Disk.isFile_extend grows present))
  have fills : Attempt.exec (Attempt.change fun disk => disk.write (scratch.child "plain")
      (Utf8.encode password.expose)) made = (.ok (), { made with disk := filled }) := by
    rw [Attempt.exec_change, inputWritten]
  have encrypts : Attempt.exec (vault.bounded .encrypt (vault.engine.encrypt vault.keys.publicKey
      (scratch.child "plain") (Policy.forRole role) (scratch.child "plain.cpabe")))
        { made with disk := filled } = (.ok (), { made with disk := encrypted }) := by
    rw [running, Attempt.exec_bounded]
    simp [Engine.inProcess, unlessHanging, Scheme.Effect.toCall, Scheme.encrypt,
      publicExists, Disk.read_write inputWritten, Scheme.writing, outputWritten,
      Scheme.finish]
  have cleared : encrypted.removeTree scratch = made.disk.removeTree scratch :=
    (filledWorking.removeTree_write (by decide) outputWritten).trans
      (working.removeTree_write (by decide) inputWritten)
  rw [Vault.sealFor, Attempt.exec_bind_ok (by rw [Vault.requirePublicKey, Attempt.exec_observe,
    if_pos present]), Attempt.exec_inScratch creates]
  simp only
  rw [Attempt.exec_bind_ok fills, Attempt.exec_bind_ok encrypts, Attempt.exec_observe,
    Disk.read_write outputWritten]
  cases framed : Scheme.frame (Policy.forRole role) (Utf8.encode password.expose) with
  | nil => exact absurd framed (frame_ne_nil role _)
  | cons first rest =>
    rw [sealedText, framed, ← cleared]
    rfl

omit inProcess in
/-- A vault that has the public key, and a scratch root that can be used, seals every password. -/
theorem sealFor_ready (running : vault.engine = Engine.inProcess false)
    (tree : Disk.IsTree workspace.disk) (usable : IsUsable vault "seal" workspace)
    (present : workspace.disk.isFile vault.keys.publicKey = true) :
    (Attempt.exec (vault.sealFor role password) workspace).1 =
      .ok (sealedText role password.expose) := by
  obtain ⟨scratch, made, creates, fits⟩ := usable
  rw [exec_sealFor_ready running tree creates fits present]

omit inProcess in
/-- Without the public key, sealing does nothing at all. -/
theorem sealFor_missing (absent : workspace.disk.isFile vault.keys.publicKey = false) :
    Attempt.exec (vault.sealFor role password) workspace =
      (.error .missingPublicKey, workspace) := by
  rw [Vault.sealFor, Attempt.exec_bind, Vault.requirePublicKey, Attempt.exec_observe]
  simp [absent]

end Sealing

/-! ## One password after the other -/

/-- Whether scratch directories can be made this many times, each removed before the next, with paths
that are not too long. -/
def IsUsableTimes (vault : Vault) (label : String) : Nat → Workspace → Prop
  | 0, _ => True
  | times + 1, workspace => ∃ scratch made,
      Attempt.exec (vault.createScratch label) workspace = (.ok scratch, made) ∧
      (scratch.child "sealed.cpabe").text.utf8ByteSize ≤ maxPathSize ∧
      IsUsableTimes vault label times { made with disk := made.disk.removeTree scratch }

/-- A vault that can seal this many passwords: the engine inside the program does not hang, the public
key is there, and so is a scratch root that can be used as often, in a tree of files in which
everything stands in a directory. -/
structure CanSeal (vault : Vault) (times : Nat) (workspace : Workspace) : Prop where
  inProcess : vault.engine = Engine.inProcess false
  tree : Disk.IsTree workspace.disk
  publicKey : workspace.disk.isFile vault.keys.publicKey = true
  usable : IsUsableTimes vault "seal" times workspace

/-- After one password, a vault can seal the others. -/
theorem CanSeal.sealFor {vault : Vault} {times : Nat} {workspace : Workspace}
    (can : CanSeal vault (times + 1) workspace) (role : Role) (password : Secret) :
    ∃ after, Attempt.exec (vault.sealFor role password) workspace =
        (.ok (sealedText role password.expose), after) ∧
      CanSeal vault times after := by
  obtain ⟨inProcess, tree, publicKey, scratch, made, creates, fits, others⟩ := can
  have seals := exec_sealFor_ready inProcess tree creates fits publicKey role password
  have still : (Attempt.exec (vault.sealFor role password) workspace).2.disk.isFile
      vault.keys.publicKey = true := sealFor_isFile inProcess publicKey
  rw [seals] at still
  exact ⟨_, seals, inProcess, Disk.removeTree_isTree (createScratch_isTree tree creates) scratch,
    still, others⟩

end RoleVault.Vault
