import RoleVault.Proofs.Text.Utf8
import RoleVault.Secret

/-!
Contract: two secrets agree where they are the same text.

Owns:
- `difference_eq_zero_iff`, what the gathered differences leave open;
- `constantTimeEq_iff` and `agrees_iff`, that with the lengths they decide equality.

Does not own: what is compared with what (`RoleVault.Proofs.Accounts.Login`).
-/

namespace RoleVault.Secret

open RoleVault.Text

/-- No difference is gathered where none was at first and no two bytes differ. -/
theorem foldl_difference_eq_zero_iff (pairs : List (UInt8 × UInt8)) (start : UInt8) :
    pairs.foldl (fun gathered (one, other) => gathered ||| (one ^^^ other)) start = 0 ↔
      start = 0 ∧ ∀ pair ∈ pairs, pair.1 = pair.2 := by
  induction pairs generalizing start with
  | nil => simp
  | cons first rest inductionHypothesis =>
    rw [List.foldl_cons, inductionHypothesis, UInt8.or_eq_zero_iff, UInt8.xor_eq_zero_iff,
      List.forall_mem_cons, and_assoc]

/-- Zipped together, two byte sequences never differ where one begins with the other: nothing past
the end of the shorter is looked at. -/
theorem zip_same_iff {left right : List UInt8} :
    (∀ pair ∈ left.zip right, pair.1 = pair.2) ↔ left <+: right ∨ right <+: left := by
  induction left generalizing right with
  | nil => simp
  | cons first rest inductionHypothesis =>
    cases right with
    | nil => simp
    | cons other others =>
      rw [List.zip_cons_cons, List.forall_mem_cons, inductionHypothesis, List.cons_prefix_cons,
        List.cons_prefix_cons, eq_comm (a := other), ← and_or_left]

/-- The differences alone do not tell a text from its beginning, so lengths are compared first. -/
theorem difference_eq_zero_iff {left right : List UInt8} :
    difference left right = 0 ↔ left <+: right ∨ right <+: left := by
  rw [difference, foldl_difference_eq_zero_iff, zip_same_iff]
  exact and_iff_right rfl

/-- The comparison in constant time decides equality of bytes. -/
theorem constantTimeEq_iff {left right : List UInt8} :
    constantTimeEq left right = true ↔ left = right := by
  rw [constantTimeEq, Bool.and_eq_true, beq_iff_eq, beq_iff_eq, difference_eq_zero_iff]
  constructor
  · rintro ⟨length, begins | begins⟩
    · exact begins.eq_of_length length
    · exact (begins.eq_of_length length.symm).symm
  · rintro rfl
    exact ⟨rfl, .inl List.prefix_rfl⟩

/-- Secrets agree only if they are the same. -/
theorem agrees_iff {left right : Secret} : left.agrees right = true ↔ left = right := by
  rw [agrees, constantTimeEq_iff]
  constructor
  · intro same
    cases left
    cases right
    exact congrArg Secret.mk (Utf8.encode_injective same)
  · rintro rfl
    rfl

/-- Gathering differences decides equality, of bytes and so of the texts of two secrets, of whatever
lengths and characters. -/
theorem comparison_decides_equality :
    (∀ left right : List UInt8, constantTimeEq left right = true ↔ left = right) ∧
      ∀ left right : Secret, left.agrees right = true ↔ left.expose = right.expose := by
  refine ⟨fun _ _ => constantTimeEq_iff, ?_⟩
  intro left right
  rw [agrees_iff]
  constructor
  · rintro rfl
    rfl
  · exact congrArg Secret.mk

/-- A text beyond ASCII does not agree with its beginning, though no byte differs. -/
example : difference (Utf8.encode "café") (Utf8.encode "cafés") = 0 ∧
    Secret.agrees ⟨"café"⟩ ⟨"cafés"⟩ = false := by
  decide

end RoleVault.Secret
