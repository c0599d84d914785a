import Mathlib
import RoleVault.Proofs.Vault.Opening

/-!
Contract: what one role seals, the roles that reach it open, and no others.

Owns:
- `Serves`, a vault in a state in which it can seal and open;
- `opens_for_reaching_roles`: sealing never fails there, no sealed text looks like a password, and
  opening gives back the very password or refuses.

Does not own: what opening makes of texts that were not sealed.
-/

namespace RoleVault.Vault

open RoleVault.Files

/-- A vault that is ready, with a scratch root that can be used for sealing as well. -/
structure Serves (vault : Vault) (workspace : Workspace) : Prop extends Ready vault workspace where
  usableToSeal : IsUsable vault "seal" workspace

/-- Sealing and opening may be any time apart: the sealed text depends on nothing but the role and the
password, and the vault that opens it needs nothing but its keys and some room to work in. -/
theorem opens_for_reaching_roles {vault : Vault} {sealing opening : Workspace}
    (before : Serves vault sealing) (later : Serves vault opening) (role : Role)
    (password : String) :
    ∃ stored, (Attempt.exec (vault.sealFor role ⟨password⟩) sealing).1 = .ok stored ∧
      Vault.classify stored = .sealed ∧
      ∀ key : Role, (Attempt.exec (vault.openWith key stored) opening).1 =
        if key.atLeast role = true ∧ password ≠ "" then .ok ⟨password⟩
        else .error .noPermission := by
  have seals : (Attempt.exec (vault.sealFor role ⟨password⟩) sealing).1 =
      .ok (sealedText role password) :=
    sealFor_ready before.inProcess before.tree before.usableToSeal before.publicKey
  refine ⟨sealedText role password, seals, classify_sealedText role password, ?_⟩
  intro key
  exact openWith_ready later.toReady

/-! ## A password of several lines -/

namespace Sample

/-- A vault with its keys in one directory and its scratch root in another, which is not there. -/
def vault : Vault where
  engine := .inProcess false
  keys := .inDirectory ⟨"", ["keys"]⟩
  scratchRoot := ⟨"", ["scratch"]⟩
  timeout := 1000

/-- Nothing but the keys. -/
def files : Workspace where
  disk := { entries := [(["keys"], .directory), (["keys", "pub_key"], .file [1]),
    (["keys", "master_key"], .file [1])] }

theorem fits {name : String} (short : name.utf8ByteSize ≤ 16) :
    (Path.child ⟨"", ["scratch", name]⟩ "sealed.cpabe").text.utf8ByteSize ≤ maxPathSize := by
  have sizes : "".utf8ByteSize = 0 ∧ "scratch".utf8ByteSize = 7 ∧
      "sealed.cpabe".utf8ByteSize = 12 ∧ maxPathSize = 4095 := by decide
  refine Nat.le_trans (size_text_le _) ?_
  simp only [Path.child, List.cons_append, List.nil_append, namesSize]
  omega

theorem usable {label : String} (known : label = "seal" ∨ label = "unseal") :
    IsUsable vault label files := by
  rcases known with rfl | rfl
  · exact ⟨⟨"", ["scratch", "seal-0"]⟩, _, by cbv, fits (by decide)⟩
  · exact ⟨⟨"", ["scratch", "unseal-0"]⟩, _, by cbv, fits (by decide)⟩

theorem serves : Serves vault files where
  inProcess := rfl
  tree := by
    apply Disk.isTree_of_entries
    decide
  publicKey := by cbv
  masterKey := by cbv
  usable := usable (.inr rfl)
  usableToSeal := usable (.inl rfl)

/-- A password that looks like a ciphertext of the scheme itself. -/
def password : String := "FAKEABE1\n(op_service = 1)\n\x00α"

end Sample

/-- What an admin seals, a service operator opens and a plain user does not, whatever the password
looks like. -/
theorem framed_password_opens_for_operator :
    Serves Sample.vault Sample.files ∧
      ∃ stored,
        (Attempt.exec (Sample.vault.sealFor .admin ⟨Sample.password⟩) Sample.files).1 =
          .ok stored ∧
        (Attempt.exec (Sample.vault.openWith .operator stored) Sample.files).1 =
          .ok ⟨Sample.password⟩ ∧
        (Attempt.exec (Sample.vault.openWith .user stored) Sample.files).1 =
          .error .noPermission := by
  obtain ⟨stored, seals, _, opens⟩ :=
    opens_for_reaching_roles Sample.serves Sample.serves .admin Sample.password
  refine ⟨Sample.serves, stored, seals, ?_, ?_⟩
  · rw [opens, if_pos (by decide)]
  · rw [opens, if_neg (by decide)]

end RoleVault.Vault
