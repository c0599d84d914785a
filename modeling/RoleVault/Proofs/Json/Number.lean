import RoleVault.Proofs.Json.Text

/-!
Contract: written integers read back.

Owns:
- `IsWord`, the integers that fit sixty-four bits with or without a sign;
- `EndsNumber`, what may follow a number, and `number_ofInt`: a written integer reads back before it.

Does not own: numbers with a fraction or an exponent, which this library never writes.
-/

namespace RoleVault.Text.Decimal

/-- Only zero is written with a leading zero. -/
theorem eq_zero_of_head_digits {value : Nat} (leading : (digits value).head? = some '0') :
    value = 0 := by
  induction value using Nat.strongRecOn with
  | _ value inductionHypothesis =>
    rw [digits, Nat.toDigits_eq_if (by decide)] at leading
    split at leading
    · rename_i single
      have table : ∀ digit : Fin 10, [Nat.digitChar digit.val].head? = some '0' → digit.val = 0 := by
        decide
      exact table ⟨value, single⟩ leading
    · rename_i several
      obtain ⟨first, others, whole⟩ := List.exists_cons_of_ne_nil (digits_ne_nil (value / 10))
      have quotient := inductionHypothesis (value / 10) (by omega)
      rw [digits] at whole quotient
      rw [whole] at leading quotient
      have zero := quotient leading
      omega

end RoleVault.Text.Decimal

namespace RoleVault.Json.Reader

open RoleVault.Text

/-- The integers that fit sixty-four bits, with or without a sign. -/
def IsWord (value : Int) : Prop :=
  -Decimal.signedLimit ≤ value ∧ value < Decimal.wordLimit

/-- What cannot be taken for more of a number. -/
def EndsNumber (rest : Bytes) : Prop :=
  ∀ byte, rest.head? = some byte →
    isDigit byte = false ∧ byte ≠ ascii '.' ∧ byte ≠ ascii 'e' ∧ byte ≠ ascii 'E'

theorem endsNumber_nil : EndsNumber [] := by
  intro byte first
  cases first

theorem endsNumber_cons {byte : UInt8} {rest : Bytes}
    (other : isDigit byte = false ∧ byte ≠ ascii '.' ∧ byte ≠ ascii 'e' ∧ byte ≠ ascii 'E') :
    EndsNumber (byte :: rest) := by
  intro first same
  rw [List.head?_cons, Option.some.injEq] at same
  rwa [← same]

/-! ## Digits -/

private theorem lt_of_isDigit {char : Char} (digit : char.isDigit = true) : char.toNat < 128 := by
  simp only [Char.isDigit, Bool.and_eq_true, decide_eq_true_eq] at digit
  have upper : char.val.toNat ≤ 57 := digit.2
  exact Nat.lt_of_le_of_lt upper (by decide)

private theorem isDigit_ascii {char : Char} (digit : char.isDigit = true) :
    isDigit (ascii char) = true := by
  have value := toNat_ascii (lt_of_isDigit digit)
  simp only [Char.isDigit, Bool.and_eq_true, decide_eq_true_eq] at digit
  have lower : 48 ≤ char.toNat := digit.1
  have upper : char.toNat ≤ 57 := digit.2
  simp only [isDigit, Bool.and_eq_true, decide_eq_true_eq, UInt8.le_iff_toNat_le, value]
  exact ⟨lower, upper⟩

def digitBytes (value : Nat) : Bytes :=
  Utf8.encodeChars (Decimal.digits value)

private theorem isDigit_of_mem {value : Nat} {char : Char} (member : char ∈ Decimal.digits value) :
    char.isDigit = true :=
  List.all_eq_true.mp (Decimal.all_isDigit_digits value) char member

private theorem encodeChars_digits {chars : List Char}
    (digits : ∀ char ∈ chars, char.isDigit = true) :
    Utf8.encodeChars chars = chars.map ascii := by
  induction chars with
  | nil => rfl
  | cons char rest inductionHypothesis =>
    have first := digits char List.mem_cons_self
    rw [encodeChars_ascii (lt_of_isDigit first), List.map_cons,
      inductionHypothesis fun other member => digits other (List.mem_cons_of_mem _ member)]

private theorem digitBytes_eq (value : Nat) : digitBytes value = (Decimal.digits value).map ascii :=
  encodeChars_digits fun _ member => isDigit_of_mem member

/-- A written number has digits only. -/
theorem isDigit_of_mem_digitBytes {value : Nat} {byte : UInt8} (member : byte ∈ digitBytes value) :
    isDigit byte = true := by
  rw [digitBytes_eq] at member
  obtain ⟨char, written, rfl⟩ := List.mem_map.mp member
  exact isDigit_ascii (isDigit_of_mem written)

theorem exists_digitBytes (value : Nat) :
    ∃ first rest, digitBytes value = first :: rest ∧ isDigit first = true := by
  have filled : digitBytes value ≠ [] := by
    rw [digitBytes_eq]
    simp [Decimal.digits_ne_nil]
  obtain ⟨first, rest, whole⟩ := List.exists_cons_of_ne_nil filled
  exact ⟨first, rest, whole, isDigit_of_mem_digitBytes (by rw [whole]; exact List.mem_cons_self)⟩

/-- Only zero has a leading zero, and no other digit. -/
theorem digitBytes_of_head {value : Nat} (leading : (digitBytes value).head? = some (ascii '0')) :
    digitBytes value = [ascii '0'] := by
  have zero : (Decimal.digits value).head? = some '0' := by
    rw [digitBytes_eq, List.head?_map, Option.map_eq_some_iff] at leading
    obtain ⟨char, first, same⟩ := leading
    have digit : char.isDigit = true := isDigit_of_mem (List.mem_of_head? first)
    rw [first]
    apply congrArg some
    exact ascii_injective (lt_of_isDigit digit) (by decide) same
  rw [Decimal.eq_zero_of_head_digits zero]
  rfl

private theorem digitsValue_map {chars : List Char} (digits : ∀ char ∈ chars, char.isDigit = true)
    (start : Nat) : digitsValue start (chars.map ascii) = Nat.ofDigitChars 10 chars start := by
  induction chars generalizing start with
  | nil => rfl
  | cons char rest inductionHypothesis =>
    have later := inductionHypothesis
      (fun other member => digits other (List.mem_cons_of_mem _ member))
      (start * 10 + (char.toNat - 0x30))
    have first := toNat_ascii (lt_of_isDigit (digits char List.mem_cons_self))
    rw [List.map_cons, digitsValue, List.foldl_cons, first, Nat.ofDigitChars_cons, Nat.mul_comm 10]
    exact later

private theorem digitsValue_digitBytes (value : Nat) :
    digitsValue 0 (digitBytes value) = value := by
  rw [digitBytes_eq, digitsValue_map fun _ member => isDigit_of_mem member, Decimal.digits,
    Nat.ofDigitChars_toDigits (by decide) (by decide)]

/-! ## Numbers -/

/-- A run of digits is taken whole where the number ends behind it. -/
theorem digits_run {run rest : Bytes} (all : ∀ byte ∈ run, isDigit byte = true)
    (ends : EndsNumber rest) : digits (run ++ rest) = (run, rest) := by
  rw [digits, List.takeWhile_append_of_pos all, List.dropWhile_append_of_pos all]
  cases rest with
  | nil => simp
  | cons byte rest => simp [(ends byte rfl).1]

private theorem wholePart_digitBytes {value : Nat} {rest : Bytes} (ends : EndsNumber rest) :
    wholePart (digitBytes value ++ rest) = some (digitBytes value, rest) := by
  obtain ⟨first, others, whole, -⟩ := exists_digitBytes value
  have short : ((digitBytes value).head? == some (ascii '0') &&
      (digitBytes value).length != 1) = false := by
    rw [Bool.and_eq_false_imp]
    intro leading
    rw [digitBytes_of_head (beq_iff_eq.mp leading)]
    rfl
  rw [wholePart, digits_run (fun _ member => isDigit_of_mem_digitBytes member) ends]
  rw [whole] at short ⊢
  simp only [short, Bool.false_eq_true, ↓reduceIte]

private theorem fraction_none {rest : Bytes} (ends : EndsNumber rest) :
    fraction rest = some (none, rest) := by
  cases rest with
  | nil => rfl
  | cons byte rest => simp [fraction, (ends byte rfl).2.1]

private theorem exponent_none {rest : Bytes} (ends : EndsNumber rest) :
    exponent rest = some (none, rest) := by
  cases rest with
  | nil => rfl
  | cons byte rest =>
    obtain ⟨-, -, small, capital⟩ := ends byte rfl
    simp [exponent, small, capital]

private theorem unsigned_digitBytes (negative : Bool) (value : Nat) {rest : Bytes}
    (ends : EndsNumber rest) :
    unsigned negative (digitBytes value ++ rest) =
      some (numberNode negative (digitBytes value) none none, rest) := by
  simp [unsigned, wholePart_digitBytes ends, fraction_none ends, exponent_none ends]

/-- The digits of a word read back as its value. -/
theorem numberNode_ofNat {value : Nat} (small : value < Decimal.wordLimit) :
    numberNode false (digitBytes value) none none = .integer value := by
  have fits : (value : Int) < Decimal.wordLimit := Int.ofNat_lt.mpr small
  simp [numberNode, digitsValue_digitBytes, fits]

/-- So do those of a negative number, behind a minus sign. -/
theorem numberNode_negSucc {value : Nat} (small : value + 1 ≤ Decimal.signedLimit) :
    numberNode true (digitBytes (value + 1)) none none = .integer (.negSucc value) := by
  have fits : ((value + 1 : Nat) : Int) ≤ Decimal.signedLimit := Int.ofNat_le.mpr small
  have positive : (0 : Int) < ((value + 1 : Nat) : Int) := by omega
  have negated : -((value + 1 : Nat) : Int) = .negSucc value := rfl
  simp only [numberNode, digitsValue_digitBytes, negated, positive, fits, decide_true, Bool.and_self,
    Option.isNone_none, ↓reduceIte]

theorem encodeChars_ofNat (value : Nat) :
    Utf8.encodeChars (Decimal.ofInt (.ofNat value)).toList = digitBytes value := by
  rw [Decimal.ofInt, Decimal.ofNat, String.toList_ofList, digitBytes]

theorem encodeChars_negSucc (value : Nat) :
    Utf8.encodeChars (Decimal.ofInt (.negSucc value)).toList =
      ascii '-' :: digitBytes (value + 1) := by
  rw [Decimal.ofInt, Decimal.ofNat, String.toList_append, String.toList_ofList,
    String.toList_ofList, List.singleton_append, encodeChars_ascii (by decide), digitBytes]

/-- A written integer reads back where nothing that follows can be taken for more of it. -/
theorem number_ofInt {value : Int} (word : IsWord value) {rest : Bytes} (ends : EndsNumber rest) :
    number (Utf8.encodeChars (Decimal.ofInt value).toList ++ rest) = some (.integer value, rest) := by
  obtain ⟨least, most⟩ := word
  cases value with
  | ofNat value =>
    obtain ⟨first, others, whole, digit⟩ := exists_digitBytes value
    have plain : (first == ascii '-') = false := by
      rw [beq_eq_false_iff_ne]
      rintro rfl
      revert digit
      decide
    have read := unsigned_digitBytes false value ends
    rw [numberNode_ofNat (Int.ofNat_lt.mp most)] at read
    rw [encodeChars_ofNat]
    rw [whole, List.cons_append] at read ⊢
    simp only [number, plain, Bool.false_eq_true, ↓reduceIte, read]
    rfl
  | negSucc value =>
    have read := unsigned_digitBytes true (value + 1) ends
    rw [numberNode_negSucc (by omega)] at read
    rw [encodeChars_negSucc, List.cons_append]
    simp only [number, beq_self_eq_true, ↓reduceIte, read]

end RoleVault.Json.Reader
