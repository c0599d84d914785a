import Mathlib
import RoleVault.Proofs.Text.Canonical
import RoleVault.Proofs.Text.Lossy
import RoleVault.Proofs.Text.Scan
import RoleVault.Proofs.Vault.Dominance

/-!
Contract: a vault opens what it seals, and nothing else.

Owns:
- `Scheme.openWith_eq_ok_iff`: a key finds a content only in the one ciphertext that frames it for a
  role that the key reaches;
- `exec_openWith`, what a ready vault makes of any text;
- `IsMalformed`, the texts that are no ciphertext or hide no password;
- `opens_exactly_sealed`: the password that a text opens as, and the failure of every other text.

Does not own: what opening makes of the files (`RoleVault.Proofs.Vault.Opening`).
-/

namespace RoleVault.Vault

open RoleVault.Files RoleVault.Text

/-! ## Ciphertexts -/

namespace Scheme

private theorem role?_eq_some {policy : Policy} {role : Role} (named : policy.role? = some role) :
    policy = Policy.forRole role := by
  have same := List.find?_some named
  exact (beq_iff_eq.mp same).symm

private theorem expression_ascii (role : Role) :
    ∀ char ∈ (Policy.forRole role).expression.toList, char.toNat < 128 := by
  have plain : (Policy.forRole role).expression.toList.all (·.toNat < 128) = true := by
    cases role <;> decide
  intro char member
  exact of_decide_eq_true (List.all_eq_true.mp plain char member)

/-- A ciphertext that names the policy of a role frames its content for that role: a policy that is
read leniently as one of ASCII is written by the same bytes, and the first newline ends it. -/
theorem eq_frame_of_unframe? {ciphertext content : List UInt8} {policy : Policy} {role : Role}
    (reads : unframe? ciphertext = some (policy, content)) (named : policy.role? = some role) :
    ciphertext = frame (Policy.forRole role) content := by
  unfold unframe? at reads
  split at reads
  · rename_i headed
    obtain ⟨body, rfl⟩ := List.isPrefixOf_iff_prefix.mp headed
    simp only [List.drop_left] at reads
    split at reads
    · cases reads
    · rename_i delimiter later rest
      cases reads
      have text := congrArg Policy.expression (role?_eq_some named)
      simp only at text
      have written : Utf8.encode (Policy.forRole role).expression =
          body.takeWhile (· != newline) := by
        rw [← text]
        apply Utf8.encode_decodeLossy
        rw [text]
        exact expression_ascii role
      have ends : newline :: content = body.dropWhile (· != newline) := by
        have stops := List.head?_dropWhile_not (· != newline) body
        rw [rest] at stops ⊢
        have delimits : delimiter = newline := by simpa using stops
        rw [delimits]
      rw [frame, written, ends, List.append_assoc, List.takeWhile_append_dropWhile]
  · cases reads

/-- A key finds a content exactly in the ciphertexts that frame it for a role that the key reaches. -/
theorem openWith_eq_ok_iff {key : Role} {ciphertext content : List UInt8} :
    openWith key ciphertext = .ok content ↔
      ∃ role, key.atLeast role = true ∧ ciphertext = frame (Policy.forRole role) content := by
  constructor
  · intro opens
    unfold openWith at opens
    split at opens
    · cases opens
    · rename_i policy found reads
      split at opens
      · cases opens
      · rename_i role named
        split at opens
        · rename_i reaches
          cases opens
          exact ⟨role, reaches, eq_frame_of_unframe? reads named⟩
        · cases opens
  · rintro ⟨role, reaches, rfl⟩
    rw [openWith_frame, if_pos reaches]

end Scheme

/-- A text stands for a ciphertext exactly where it is its base64 form; no ciphertext is empty. -/
theorem ciphertextOf_eq_ok_iff {stored : String} {ciphertext : List UInt8} :
    Vault.ciphertextOf stored = .ok ciphertext ↔
      ciphertext ≠ [] ∧ stored = Base64.encode Base64.standard ciphertext := by
  rw [← Base64.decode_eq_ok_iff Base64.isLawful_standard]
  unfold Vault.ciphertextOf
  split
  · rename_i fault reads
    simp [reads]
  · rename_i reads
    simp [reads]
  · rename_i bytes filled reads
    rw [reads]
    constructor
    · rintro ⟨rfl⟩
      exact ⟨filled, rfl⟩
    · rintro ⟨_, ⟨rfl⟩⟩
      rfl

private theorem plaintextOf_eq_ok_iff {content : List UInt8} {password : Secret} :
    plaintextOf content = .ok password ↔
      password.expose ≠ "" ∧ content = Utf8.encode password.expose := by
  constructor
  · intro reads
    unfold plaintextOf at reads
    split at reads
    · cases reads
    · rename_i filled
      split at reads
      · rename_i text decoded
        cases reads
        have written := Utf8.decode?_eq_some_iff.mp decoded
        refine ⟨?_, written.symm⟩
        rintro rfl
        exact filled written.symm
      · cases reads
  · rintro ⟨named, rfl⟩
    rw [plaintextOf_encode, if_neg named]

/-- A content that is not empty and not UTF-8. -/
def IsIllegible (content : List UInt8) : Prop :=
  content ≠ [] ∧ ∀ text, Utf8.encode text ≠ content

private theorem plaintextOf_illegible {content : List UInt8} (illegible : IsIllegible content) :
    plaintextOf content = .error (.malformedCiphertext "plaintext is not utf-8") := by
  cases content with
  | nil => exact absurd rfl illegible.1
  | cons first rest =>
    cases decoded : Utf8.decode? (first :: rest) with
    | some text => exact absurd (Utf8.decode?_eq_some_iff.mp decoded) (illegible.2 text)
    | none => simp only [plaintextOf, decoded]

/-- An opened content that is no password is empty, which stands for a key that does not fit, or it is
illegible. -/
theorem plaintextOf_error {content : List UInt8} {failure : VaultError}
    (fails : plaintextOf content = .error failure) :
    failure = .noPermission ∨
      IsIllegible content ∧ ∃ reason, failure = .malformedCiphertext reason := by
  cases content with
  | nil =>
    cases fails
    exact .inl rfl
  | cons first rest =>
    cases decoded : Utf8.decode? (first :: rest) with
    | some text =>
      simp only [plaintextOf, decoded] at fails
      cases fails
    | none =>
      have illegible : IsIllegible (first :: rest) := by
        refine ⟨List.cons_ne_nil first rest, ?_⟩
        intro text written
        rw [Utf8.decode?_eq_some_iff.mpr written] at decoded
        cases decoded
      rw [plaintextOf_illegible illegible] at fails
      cases fails
      exact .inr ⟨illegible, _, rfl⟩

/-! ## Texts -/

/-- The texts that are no ciphertext, and those in which a key finds something that is no text: no
bytes are written by the text, or none at all, or they frame an illegible content for a role that the
key reaches. -/
inductive IsMalformed (key : Role) (stored : String) : Prop where
  | unwritten (foreign : ∀ bytes, stored ≠ Base64.encode Base64.standard bytes)
  | empty (nothing : stored = Base64.encode Base64.standard [])
  | illegible {role : Role} {content : List UInt8} (reaches : key.atLeast role = true)
      (framed : stored =
        Base64.encode Base64.standard (Scheme.frame (Policy.forRole role) content))
      (illegible : IsIllegible content)

section Texts

variable {vault : Vault} {workspace : Workspace} {key : Role} {stored : String}

/-- What a vault that is ready makes of a text. -/
theorem exec_openWith (ready : Ready vault workspace) :
    (Attempt.exec (vault.openWith key stored) workspace).1 =
      (Vault.ciphertextOf stored >>= fun ciphertext =>
        Scheme.openWith key ciphertext >>= plaintextOf) := by
  cases decoded : Vault.ciphertextOf stored with
  | error failure =>
    rw [Vault.openWith, decoded]
    rfl
  | ok ciphertext =>
    rw [openWith_decoded ready decoded]
    rfl

private theorem ciphertextOf_error {failure : VaultError} (key : Role)
    (fails : Vault.ciphertextOf stored = .error failure) :
    IsMalformed key stored ∧ ∃ reason, failure = .malformedCiphertext reason := by
  unfold Vault.ciphertextOf at fails
  split at fails
  · rename_i fault refused
    cases fails
    refine ⟨.unwritten ?_, _, rfl⟩
    rintro bytes rfl
    rw [Base64.decode_encode Base64.isLawful_standard] at refused
    cases refused
  · rename_i nothing
    cases fails
    exact ⟨.empty ((Base64.decode_eq_ok_iff Base64.isLawful_standard).mp nothing), _, rfl⟩
  · cases fails

/-- A text that the scheme opens is what sealing the password for a role that the key reaches gives. -/
theorem opened_iff {password : Secret} :
    (∃ ciphertext, Vault.ciphertextOf stored = .ok ciphertext ∧
        (Scheme.openWith key ciphertext).bind plaintextOf = .ok password) ↔
      password.expose ≠ "" ∧
        ∃ role, key.atLeast role = true ∧ stored = sealedText role password.expose := by
  have binds (ciphertext : List UInt8) :
      (Scheme.openWith key ciphertext).bind plaintextOf = .ok password ↔
        ∃ content, Scheme.openWith key ciphertext = .ok content ∧
          plaintextOf content = .ok password :=
    bind_eq_ok_iff
  simp only [binds, ciphertextOf_eq_ok_iff, Scheme.openWith_eq_ok_iff, plaintextOf_eq_ok_iff]
  constructor
  · rintro ⟨_, ⟨_, written⟩, _, ⟨role, reaches, rfl⟩, named, rfl⟩
    exact ⟨named, role, reaches, written⟩
  · rintro ⟨named, role, reaches, written⟩
    exact ⟨_, ⟨frame_ne_nil role _, written⟩, _, ⟨role, reaches, rfl⟩, named, rfl⟩

/-- Whatever the files were like, a text that is opened is what sealing gives. -/
theorem eq_sealedText_of_opened {hanging : Bool} {after : Workspace} {password : Secret}
    (inProcess : vault.engine = Engine.inProcess hanging)
    (ends : Attempt.exec (vault.openWith key stored) workspace = (.ok password, after)) :
    ∃ role, key.atLeast role = true ∧ stored = sealedText role password.expose :=
  (opened_iff.mp (openWith_opened inProcess ends)).2

private theorem exec_openWith_error (ready : Ready vault workspace) {failure : VaultError}
    (fails : (Attempt.exec (vault.openWith key stored) workspace).1 = .error failure) :
    failure = .noPermission ∨
      IsMalformed key stored ∧ ∃ reason, failure = .malformedCiphertext reason := by
  rw [exec_openWith ready, bind_eq_error_iff] at fails
  rcases fails with undecoded | ⟨ciphertext, decoded, fails⟩
  · exact .inr (ciphertextOf_error key undecoded)
  · rcases bind_eq_error_iff.mp fails with refused | ⟨content, opens, unread⟩
    · exact .inl (Scheme.openWith_error refused)
    · rcases plaintextOf_error unread with denied | ⟨illegible, named⟩
      · exact .inl denied
      · obtain ⟨role, reaches, rfl⟩ := Scheme.openWith_eq_ok_iff.mp opens
        exact .inr ⟨.illegible reaches (ciphertextOf_eq_ok_iff.mp decoded).2 illegible, named⟩

private theorem exec_openWith_malformed (ready : Ready vault workspace)
    (malformed : IsMalformed key stored) :
    ∃ reason, (Attempt.exec (vault.openWith key stored) workspace).1 =
      .error (.malformedCiphertext reason) := by
  rw [exec_openWith ready]
  cases malformed with
  | @illegible role content reaches framed illegible =>
    have decoded := ciphertextOf_eq_ok_iff.mpr ⟨frame_ne_nil role content, framed⟩
    refine ⟨"plaintext is not utf-8", ?_⟩
    rw [decoded]
    change (Scheme.openWith key _ >>= plaintextOf) = _
    rw [Scheme.openWith_frame, if_pos reaches]
    exact plaintextOf_illegible illegible
  | unwritten foreign =>
    cases decoded : Vault.ciphertextOf stored with
    | error failure =>
      obtain ⟨_, reason, rfl⟩ := ciphertextOf_error key decoded
      exact ⟨reason, rfl⟩
    | ok ciphertext => exact absurd (ciphertextOf_eq_ok_iff.mp decoded).2 (foreign ciphertext)
  | empty nothing =>
    subst nothing
    exact ⟨_, rfl⟩

end Texts

/-! ## Exactness -/

/-- A vault that can work opens exactly the texts that sealing gives, each as the password that was
sealed and for the roles that reach the one it was sealed for.  Of the other texts it tells those that
are malformed, and all that are left it refuses as sealed for someone else. -/
theorem opens_exactly_sealed {vault : Vault} {sealing opening : Workspace}
    (before : Serves vault sealing) (later : Serves vault opening) (key : Role) (stored : String) :
    (∀ password : Secret,
      (Attempt.exec (vault.openWith key stored) opening).1 = .ok password ↔
        password.expose ≠ "" ∧
          ∃ role, key.atLeast role = true ∧
            (Attempt.exec (vault.sealFor role password) sealing).1 = .ok stored) ∧
      ((∃ reason, (Attempt.exec (vault.openWith key stored) opening).1 =
          .error (.malformedCiphertext reason)) ↔ IsMalformed key stored) ∧
      ∀ failure, (Attempt.exec (vault.openWith key stored) opening).1 = .error failure →
        failure = .noPermission ∨ ∃ reason, failure = .malformedCiphertext reason := by
  have seals (role : Role) (password : Secret) :
      (Attempt.exec (vault.sealFor role password) sealing).1 = .ok stored ↔
        stored = sealedText role password.expose := by
    rw [sealFor_ready before.inProcess before.tree before.usableToSeal before.publicKey,
      Except.ok.injEq, eq_comm]
  refine ⟨?_, ?_, ?_⟩
  · intro password
    rw [exec_openWith later.toReady, bind_eq_ok_iff]
    simp only [seals]
    exact opened_iff
  · constructor
    · rintro ⟨reason, fails⟩
      rcases exec_openWith_error later.toReady fails with denied | ⟨malformed, _⟩
      · cases denied
      · exact malformed
    · exact exec_openWith_malformed later.toReady
  · intro failure fails
    exact (exec_openWith_error later.toReady fails).imp id And.right

/-- What is sealed for users opens for a user; with a line break after it, it is no ciphertext. -/
theorem sealed_for_user_opens_exactly :
    Serves Sample.vault Sample.files ∧
      (Attempt.exec (Sample.vault.openWith .user (sealedText .user Sample.password))
        Sample.files).1 = .ok ⟨Sample.password⟩ ∧
      ∃ reason, (Attempt.exec (Sample.vault.openWith .user "RkFLRUFCRTEK\n") Sample.files).1 =
        .error (.malformedCiphertext reason) := by
  have serves := Sample.serves
  refine ⟨serves, ?_, ?_⟩
  · apply ((opens_exactly_sealed serves serves .user _).1 ⟨Sample.password⟩).mpr
    refine ⟨by decide, .user, by decide, ?_⟩
    exact sealFor_ready serves.inProcess serves.tree serves.usableToSeal serves.publicKey
  · apply (opens_exactly_sealed serves serves .user "RkFLRUFCRTEK\n").2.1.mpr
    apply IsMalformed.unwritten
    intro bytes written
    have reads := (Base64.decode_eq_ok_iff Base64.isLawful_standard).mpr written
    have refused : Base64.decode Base64.standard "RkFLRUFCRTEK\n" =
        .error (.invalidSymbol 12 10) := by decide
    rw [refused] at reads
    cases reads

end RoleVault.Vault
