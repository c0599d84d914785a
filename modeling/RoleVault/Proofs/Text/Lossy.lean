import RoleVault.Proofs.Text.Utf8

/-!
Contract: text of ASCII that is read leniently out of bytes is what those bytes write.

Owns:
- `head_character`: a character at the front of some bytes is their first byte or lies beyond ASCII;
- `encode_decodeLossy`: reading leniently hides nothing behind a text of ASCII.

Does not own: what other bytes are read as.
-/

namespace RoleVault.Text.Utf8

/-! ## Codes of several bytes -/

private theorem toNat_ofNat_valid {code : Nat} (valid : code.isValidChar) :
    (Char.ofNat code).toNat = code := by
  rw [Char.ofNat, dif_pos valid]
  rfl

private theorem code_of_two {first second : UInt8} (least : 194 ≤ first.toNat)
    (most : first.toNat ≤ 223) :
    128 ≤ (first.toNat - 0xC0) * 64 + payload second ∧
      ((first.toNat - 0xC0) * 64 + payload second).isValidChar := by
  unfold payload Nat.isValidChar
  omega

/-- What may stand second in a character of three bytes keeps it out of the shorter forms and out of
the surrogates. -/
theorem secondOfThree_bounds {first second : UInt8} (fits : secondOfThree first second = true) :
    128 ≤ second.toNat ∧ second.toNat ≤ 191 ∧ (first.toNat = 224 → 160 ≤ second.toNat) ∧
      (first.toNat = 237 → second.toNat ≤ 159) := by
  unfold secondOfThree isContinuation at fits
  repeat' split at fits
  all_goals
    simp only [beq_iff_eq, ← UInt8.toNat_inj, Bool.and_eq_true, decide_eq_true_eq,
      UInt8.le_iff_toNat_le, UInt8.reduceToNat] at *
    omega

private theorem code_of_three {first second third : UInt8} (least : 224 ≤ first.toNat)
    (most : first.toNat ≤ 239) (fits : secondOfThree first second = true) :
    128 ≤ (first.toNat - 0xE0) * 4096 + payload second * 64 + payload third ∧
      ((first.toNat - 0xE0) * 4096 + payload second * 64 + payload third).isValidChar := by
  have bounds := secondOfThree_bounds fits
  unfold payload Nat.isValidChar
  omega

private theorem secondOfFour_bounds {first second : UInt8}
    (fits : secondOfFour first second = true) :
    128 ≤ second.toNat ∧ second.toNat ≤ 191 ∧ (first.toNat = 240 → 144 ≤ second.toNat) ∧
      (first.toNat = 244 → second.toNat ≤ 143) := by
  unfold secondOfFour isContinuation at fits
  repeat' split at fits
  all_goals
    simp only [beq_iff_eq, ← UInt8.toNat_inj, Bool.and_eq_true, decide_eq_true_eq,
      UInt8.le_iff_toNat_le, UInt8.reduceToNat] at *
    omega

private theorem code_of_four {first second third fourth : UInt8} (least : 240 ≤ first.toNat)
    (most : first.toNat ≤ 244) (fits : secondOfFour first second = true) :
    128 ≤ (first.toNat - 0xF0) * 262144 + payload second * 4096 + payload third * 64 +
        payload fourth ∧
      ((first.toNat - 0xF0) * 262144 + payload second * 4096 + payload third * 64 +
        payload fourth).isValidChar := by
  have bounds := secondOfFour_bounds fits
  unfold payload Nat.isValidChar
  omega

/-! ## The character at the front -/

/-- A character at the front is a byte of ASCII, or lies beyond ASCII. -/
theorem head_character {first : UInt8} {rest : List UInt8} {value : Char} {width : Nat}
    (reads : head first rest = .character value width) :
    (first < 128 ∧ value = Char.ofNat first.toNat ∧ width = 1) ∨ 128 ≤ value.toNat := by
  have wide {code : Nat} (beyond : 128 ≤ code ∧ code.isValidChar) :
      128 ≤ (Char.ofNat code).toNat := by
    rw [toNat_ofNat_valid beyond.2]
    exact beyond.1
  have bounds {least most : UInt8}
      (within : (decide (least ≤ first) && decide (first ≤ most)) = true) :
      least.toNat ≤ first.toNat ∧ first.toNat ≤ most.toNat := by
    simpa [UInt8.le_iff_toNat_le] using within
  unfold head at reads
  split at reads
  · rename_i small
    cases reads
    exact .inl ⟨small, rfl, rfl⟩
  · right
    split at reads
    · rename_i two
      split at reads
      · split at reads
        · cases reads
          exact wide (code_of_two (bounds two).1 (bounds two).2)
        · cases reads
      · cases reads
    · split at reads
      · rename_i three
        split at reads
        · split at reads
          · cases reads
          · rename_i fits
            split at reads
            · cases reads
            · cases reads
              exact wide (code_of_three (bounds three).1 (bounds three).2 (by simpa using fits))
        · split at reads <;> cases reads
        · cases reads
      · split at reads
        · rename_i four
          split at reads
          · split at reads
            · cases reads
            · rename_i fits
              split at reads
              · cases reads
              · split at reads
                · cases reads
                · cases reads
                  exact wide (code_of_four (bounds four).1 (bounds four).2 (by simpa using fits))
          · split at reads
            · cases reads
            · split at reads <;> cases reads
          · split at reads <;> cases reads
          · cases reads
        · cases reads

/-! ## Whole texts -/

/-- Bytes that are read leniently as a text of ASCII are the bytes of that text. -/
theorem encode_decodeLossy {bytes : List UInt8}
    (ascii : ∀ char ∈ (decodeLossy bytes).toList, char.toNat < 128) :
    encode (decodeLossy bytes) = bytes := by
  rw [decodeLossy, String.toList_ofList] at ascii
  rw [decodeLossy, encode_ofList]
  induction bytes with
  | nil => rfl
  | cons first rest inductionHypothesis =>
    rw [charactersFrom] at ascii ⊢
    cases front : head first rest with
    | broken width =>
      rw [front] at ascii
      exact absurd (ascii _ List.mem_cons_self) (by decide)
    | character value width =>
      rw [front] at ascii
      simp only [List.forall_mem_cons] at ascii
      rcases head_character front with ⟨small, rfl, rfl⟩ | beyond
      · rw [encodeChars_cons, utf8EncodeChar_ascii small, inductionHypothesis ascii.2]
        rfl
      · exact absurd ascii.1 (Nat.not_lt.mpr beyond)

end RoleVault.Text.Utf8
