import RoleVault.Proofs.Access.Fields
import RoleVault.Proofs.Text.Canonical
import RoleVault.Vault.Basic

/-!
Contract: a stored text is taken for a sealed password exactly where it is the base64 form of some
bytes and has not the shape of a password.

Owns:
- `isPasswordShaped_encode_iff`, the few byte sequences whose base64 text has that shape;
- `classify_eq_sealed_iff`, the texts that are taken for sealed passwords;
- `classify_encode_eq_plaintext_iff`, the ciphertexts that are not.

Does not own: the ciphertexts that sealing writes, all of which are long
(`RoleVault.Proofs.Vault.Scheme`).
-/

namespace RoleVault.Vault

open RoleVault.Access RoleVault.Text RoleVault.Text.Base64

/-! ## Base64 that looks like a password -/

/-- Of the characters of base64, passwords lack two symbols and the padding. -/
theorem isPasswordChar_of_mem (bytes : List UInt8) :
    ∀ byte ∈ standard.encodeBytes bytes,
      (isPasswordChar (Char.ofNat byte.toNat) = true ↔ byte ≠ 43 ∧ byte ≠ 47 ∧ byte ≠ pad) := by
  have symbols : ∀ symbol : Fin 64,
      (isPasswordChar (Char.ofNat (standard.byte symbol.val).toNat) = true ↔
        standard.byte symbol.val ≠ 43 ∧ standard.byte symbol.val ≠ 47 ∧
          standard.byte symbol.val ≠ pad) := by
    decide
  exact forall_mem_encodeBytes (fun symbol small => symbols ⟨symbol, small⟩)
    (fun _ => by decide) bytes

/-- Texts of base64 have only characters of passwords where their bytes come in groups of three and
bring up neither of the two symbols. -/
theorem all_isPasswordChar_iff (bytes : List UInt8) :
    (encode standard bytes).toList.all isPasswordChar = true ↔
      '+' ∉ (encode standard bytes).toList ∧ '/' ∉ (encode standard bytes).toList ∧
        bytes.length % 3 = 0 := by
  have plus : '+' ∈ (encode standard bytes).toList ↔ 43 ∈ standard.encodeBytes bytes :=
    mem_encode_iff 43 bytes
  have slash : '/' ∈ (encode standard bytes).toList ↔ 47 ∈ standard.encodeBytes bytes :=
    mem_encode_iff 47 bytes
  have padding : pad ∉ standard.encodeBytes bytes ↔ bytes.length % 3 = 0 := by
    rw [pad_mem_encodeBytes_iff isLawful_standard rfl, Decidable.not_not]
  rw [plus, slash, ← padding, encode, String.toList_ofList, List.all_map, List.all_eq_true]
  constructor
  · intro shaped
    have apart (byte : UInt8) (member : byte ∈ standard.encodeBytes bytes) :=
      (isPasswordChar_of_mem bytes byte member).mp (shaped byte member)
    exact ⟨fun member => (apart 43 member).1 rfl, fun member => (apart 47 member).2.1 rfl,
      fun member => (apart pad member).2.2 rfl⟩
  · rintro ⟨noPlus, noSlash, noPad⟩ byte member
    apply (isPasswordChar_of_mem bytes byte member).mpr
    exact ⟨fun same => noPlus (same ▸ member), fun same => noSlash (same ▸ member),
      fun same => noPad (same ▸ member)⟩

/-- Between eight and eighteen characters of base64 without padding there are just three lengths. -/
theorem isPasswordShaped_encode_iff (bytes : List UInt8) :
    isPasswordShaped (encode standard bytes) = true ↔
      (bytes.length = 6 ∨ bytes.length = 9 ∨ bytes.length = 12) ∧
        '+' ∉ (encode standard bytes).toList ∧ '/' ∉ (encode standard bytes).toList := by
  have length : (encode standard bytes).toList.length =
      bytes.length / 3 * 4 + if bytes.length % 3 = 0 then 0 else 4 := by
    rw [length_encode, length_encodeBytes]
    rfl
  rw [isPasswordShaped, Bool.and_eq_true, Bool.and_eq_true, all_isPasswordChar_iff,
    decide_eq_true_eq, decide_eq_true_eq, length]
  constructor
  · rintro ⟨⟨⟨noPlus, noSlash, groups⟩, least⟩, most⟩
    rw [if_pos groups] at least most
    exact ⟨by omega, noPlus, noSlash⟩
  · rintro ⟨lengths, noPlus, noSlash⟩
    have groups : bytes.length % 3 = 0 := by omega
    rw [if_pos groups]
    exact ⟨⟨⟨noPlus, noSlash, groups⟩, by omega⟩, by omega⟩

/-! ## Stored texts -/

/-- A text is taken for a sealed password where it has not the shape of a password and is the base64
form of some bytes, at least one. -/
theorem classify_eq_sealed_iff {stored : String} :
    classify stored = .sealed ↔
      isPasswordShaped stored = false ∧ ∃ bytes, bytes ≠ [] ∧ stored = encode standard bytes := by
  unfold classify
  cases isPasswordShaped stored with
  | true => simp
  | false =>
    rw [if_neg Bool.false_ne_true]
    constructor
    · intro closed
      cases reads : decode standard stored with
      | error fault => simp [reads] at closed
      | ok bytes =>
        have filled : bytes ≠ [] := by
          rintro rfl
          simp [reads] at closed
        exact ⟨rfl, bytes, filled, (decode_eq_ok_iff isLawful_standard).mp reads⟩
    · rintro ⟨_, bytes, filled, rfl⟩
      obtain ⟨first, rest, rfl⟩ := List.exists_cons_of_ne_nil filled
      rw [decode_encode isLawful_standard]

/-- The ciphertexts that are not known for what they are: the empty one, and those whose text has
the shape of a password. -/
theorem classify_encode_eq_plaintext_iff (bytes : List UInt8) :
    classify (encode standard bytes) = .plaintext ↔
      bytes = [] ∨ isPasswordShaped (encode standard bytes) = true := by
  rw [classify, decode_encode isLawful_standard]
  cases isPasswordShaped (encode standard bytes) with
  | true => simp
  | false => cases bytes <;> simp

/-- Base64 of thirteen bytes or more is taken for a sealed password. -/
theorem classify_encode_of_long {bytes : List UInt8} (long : 13 ≤ bytes.length) :
    classify (encode standard bytes) = .sealed := by
  have shapeless : isPasswordShaped (encode standard bytes) = false := by
    rw [Bool.eq_false_iff, ne_eq, isPasswordShaped_encode_iff]
    omega
  have filled : bytes ≠ [] := by
    rintro rfl
    cases long
  exact classify_eq_sealed_iff.mpr ⟨shapeless, bytes, filled, rfl⟩

/-- A password that is accepted is never taken for a ciphertext. -/
theorem classify_of_valid {password : String} (valid : validatePassword ⟨password⟩ = .ok ()) :
    classify password = .plaintext := by
  rw [classify, if_pos (require_eq_ok_iff.mp valid)]

/-! ## Where the classification errs -/

/-- Of the ciphertexts, classification misses the empty one and those of six, nine or twelve bytes
whose text has neither of the two symbols that passwords lack, so none of more than twelve bytes.
Of the texts, it takes no acceptable password for a ciphertext, and for ciphertexts just the base64
forms of some bytes that have not the shape of a password. -/
theorem classification_errs_exactly :
    (∀ bytes : List UInt8, classify (encode standard bytes) = .plaintext ↔
      bytes = [] ∨ (bytes.length = 6 ∨ bytes.length = 9 ∨ bytes.length = 12) ∧
        '+' ∉ (encode standard bytes).toList ∧ '/' ∉ (encode standard bytes).toList) ∧
    (∀ bytes : List UInt8, 13 ≤ bytes.length → classify (encode standard bytes) = .sealed) ∧
    (∀ stored : String, validatePassword ⟨stored⟩ = .ok () → classify stored = .plaintext) ∧
    ∀ stored : String, classify stored = .sealed ↔
      isPasswordShaped stored = false ∧
        ∃ bytes, bytes ≠ [] ∧ stored = encode standard bytes := by
  refine ⟨?_, fun _ => classify_encode_of_long, fun _ => classify_of_valid,
    fun _ => classify_eq_sealed_iff⟩
  intro bytes
  rw [classify_encode_eq_plaintext_iff, isPasswordShaped_encode_iff]

/-- Twelve bytes may pass for a password, thirteen never do, and a password passes for no
ciphertext. -/
theorem thirteen_bytes_are_sealed :
    classify (encode standard (List.replicate 12 0)) = .plaintext ∧
      13 ≤ (List.replicate 13 (0 : UInt8)).length ∧
      classify (encode standard (List.replicate 13 0)) = .sealed ∧
      validatePassword ⟨"hunter2-hunter2"⟩ = .ok () ∧ classify "hunter2-hunter2" = .plaintext := by
  have long : 13 ≤ (List.replicate 13 (0 : UInt8)).length := by decide
  have valid : validatePassword ⟨"hunter2-hunter2"⟩ = .ok () := by cbv
  obtain ⟨missed, known, passwords, _⟩ := classification_errs_exactly
  refine ⟨(missed _).mpr (.inr ⟨?_, ?_, ?_⟩), long, known _ long, valid, passwords _ valid⟩
  · exact .inr (.inr rfl)
  · decide
  · decide

end RoleVault.Vault
