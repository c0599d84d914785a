import Mathlib.Algebra.Group.Nat.Defs
import RoleVault.Text.Scan

/-!
Contract: readers are read back step by step.

Owns:
- what a first step and a last one do where both together succeed, or fail;
- the length and the digits of a padded number, and `number_run` and `number_padded`: numbers of
  fixed width are taken off the front of a text as they were written.

Does not own: the readers that put such steps together.
-/

namespace RoleVault

variable {ε α β : Type} {value : β} {failure : ε}

/-- A sequence succeeds where its parts do, one after the other. -/
theorem bind_eq_ok_iff {first : Except ε α} {following : α → Except ε β} :
    (first >>= following) = .ok value ↔
      ∃ between, first = .ok between ∧ following between = .ok value := by
  cases first <;> simp [bind, Except.bind]

/-- A sequence fails in its first part, or behind it. -/
theorem bind_eq_error_iff {first : Except ε α} {following : α → Except ε β} :
    (first >>= following) = .error failure ↔
      first = .error failure ∨ ∃ between, first = .ok between ∧ following between = .error failure := by
  cases first <;> simp [bind, Except.bind]

end RoleVault

namespace RoleVault.Text

namespace Decimal

private theorem toList_padded (width value : Nat) :
    (padded width value).toList =
      List.replicate (width - (digits value).length) '0' ++ digits value := by
  rw [padded, String.toList_ofList]

theorem length_padded {width value : Nat} (wide : 0 < width) (small : value < 10 ^ width) :
    (padded width value).toList.length = width := by
  have fits : (digits value).length ≤ width :=
    (Nat.length_toDigits_le_iff (by decide) wide).mpr small
  rw [toList_padded, List.length_append, List.length_replicate]
  omega

theorem padded_ne_nil (width value : Nat) : (padded width value).toList ≠ [] := by
  rw [toList_padded]
  exact List.append_ne_nil_of_right_ne_nil _ (digits_ne_nil value)

theorem isDigit_padded (width value : Nat) :
    ∀ char ∈ (padded width value).toList, CharClass.isDigit char = true := by
  intro char member
  rw [toList_padded, List.mem_append] at member
  have plain : char.isDigit = true := by
    rcases member with filled | written
    · rw [(List.mem_replicate.mp filled).2]
      decide
    · exact Nat.isDigit_of_mem_toDigits (by decide) (by decide) written
  simpa [Char.isDigit, CharClass.isDigit, Char.le_def] using plain

/-- Padding does not change the value of digits. -/
theorem ofDigitChars_padded (width value : Nat) :
    Nat.ofDigitChars 10 (padded width value).toList 0 = value := by
  rw [toList_padded, Nat.ofDigitChars_append, Nat.ofDigitChars_replicate_zero, Nat.mul_zero,
    digits, Nat.ofDigitChars_ten_toDigits]

end Decimal

namespace Scan

def EndsNumber (rest : List Char) : Prop :=
  ∀ char, rest.head? = some char → CharClass.isDigit char = false

private theorem takeWhile_digits {run rest : List Char}
    (digits : ∀ char ∈ run, CharClass.isDigit char = true) (ends : EndsNumber rest) :
    (run ++ rest).takeWhile CharClass.isDigit = run := by
  rw [List.takeWhile_append_of_pos digits]
  cases rest with
  | nil => simp
  | cons first rest => simp [ends first rfl]

/-- The run of digits that a number takes. -/
theorem take_digits (most : Nat) {run : List Char} (rest : List Char)
    (digits : ∀ char ∈ run, CharClass.isDigit char = true) (fits : run.length ≤ most)
    (ends : run.length = most ∨ EndsNumber rest) :
    ((run ++ rest).take most).takeWhile CharClass.isDigit = run := by
  rw [List.take_append, List.take_of_length_le fits]
  apply takeWhile_digits digits
  rcases ends with full | ends
  · simp [EndsNumber, full]
  · intro char first
    cases rest with
    | nil => simp at first
    | cons head tail =>
      cases left : most - run.length with
      | zero => simp [left] at first
      | succ count =>
        apply ends
        simpa [left] using first

/-- A run of digits is taken as its number where the reader takes no more digits than it has, or
where no digit follows. -/
theorem number_run {least most : Nat} {run rest : List Char}
    (digits : ∀ char ∈ run, CharClass.isDigit char = true) (enough : least ≤ run.length)
    (fits : run.length ≤ most) (limit : Nat.ofDigitChars 10 run 0 < Decimal.signedLimit)
    (ends : run.length = most ∨ EndsNumber rest) :
    number least most (run ++ rest) = some (Nat.ofDigitChars 10 run 0, rest) := by
  simp only [number, take_digits most rest digits fits ends, Bool.or_eq_true, decide_eq_true_eq]
  rw [if_neg (by omega), List.drop_left]

/-- A padded number reads back where the reader takes no more digits than it has, or where no digit
follows. -/
theorem number_padded {least most width value : Nat} {rest : List Char} (wide : 0 < width)
    (small : value < 10 ^ width) (enough : least ≤ width) (fits : width ≤ most)
    (limit : value < Decimal.signedLimit) (ends : width = most ∨ EndsNumber rest) :
    number least most ((Decimal.padded width value).toList ++ rest) = some (value, rest) := by
  have length := Decimal.length_padded wide small
  have read := @number_run least most _ rest (Decimal.isDigit_padded width value) (by omega)
    (by omega) (by rwa [Decimal.ofDigitChars_padded]) (by rwa [length])
  rwa [Decimal.ofDigitChars_padded] at read

theorem literal_cons (char : Char) (rest : List Char) :
    literal char (char :: rest) = some ((), rest) := by
  simp [literal]

end Scan

end RoleVault.Text
