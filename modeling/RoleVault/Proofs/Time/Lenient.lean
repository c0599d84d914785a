import RoleVault.Proofs.Time.Rfc3339

/-!
Contract: every instant reads back with the looser reader.

Owns: `parseLenient?_renderZulu`, over all years that instants have, those with a sign among them.

Does not own: spellings that only the looser reader takes and that are never written.
-/

namespace RoleVault.Time.Rfc3339

open RoleVault.Text RoleVault.Text.Scan

/-! ## Blanks -/

private theorem isBlank_of_isDigit {char : Char} (digit : CharClass.isDigit char = true) :
    CharClass.isBlank char = false := by
  simp only [CharClass.isDigit, Bool.and_eq_true, decide_eq_true_eq] at digit
  have lower : 48 ≤ char.toNat := digit.1
  have upper : char.toNat ≤ 57 := digit.2
  simp only [CharClass.isBlank, Bool.or_eq_false_iff, Bool.and_eq_false_iff, decide_eq_false_iff_not,
    beq_eq_false_iff_ne]
  omega

theorem dropBlanks_cons {char : Char} (solid : CharClass.isBlank char = false) (rest : List Char) :
    dropBlanks (char :: rest) = char :: rest := by
  simp [dropBlanks, solid]

/-- A padded number begins with a digit. -/
theorem exists_padded (width value : Nat) :
    ∃ first others, (Decimal.padded width value).toList = first :: others ∧
      CharClass.isDigit first = true := by
  obtain ⟨first, others, whole⟩ := List.exists_cons_of_ne_nil (Decimal.padded_ne_nil width value)
  have digits := Decimal.isDigit_padded width value
  rw [whole] at digits
  exact ⟨first, others, whole, digits first List.mem_cons_self⟩

private theorem dropBlanks_padded (width value : Nat) (rest : List Char) :
    dropBlanks ((Decimal.padded width value).toList ++ rest) =
      (Decimal.padded width value).toList ++ rest := by
  obtain ⟨first, others, whole, digit⟩ := exists_padded width value
  rw [whole, List.cons_append, dropBlanks_cons (isBlank_of_isDigit digit)]

private theorem looseNumber_padded {value : Nat} {rest : List Char} (small : value < 100) :
    looseNumber ((Decimal.padded 2 value).toList ++ rest) = some (value, rest) := by
  rw [looseNumber, dropBlanks_padded]
  exact number_padded (by decide) small (by decide) (by decide)
    (Nat.lt_trans small (by decide)) (Or.inl rfl)

private theorem looseLiteral_cons {char : Char} (solid : CharClass.isBlank char = false)
    (rest : List Char) :
    looseLiteral char (char :: rest) = some ((), rest) := by
  rw [looseLiteral, dropBlanks_cons solid, literal_cons]

/-! ## Years -/

/-- A year keeps its digits, however many it has, where a hyphen ends it. -/
theorem number_year {value : Nat} (limit : value < Decimal.signedLimit) (rest : List Char) :
    number 1 ((Decimal.padded 4 value).toList ++ '-' :: rest).length
      ((Decimal.padded 4 value).toList ++ '-' :: rest) = some (value, '-' :: rest) := by
  obtain ⟨first, others, whole, -⟩ := exists_padded 4 value
  have ends : EndsNumber ('-' :: rest) := by
    intro char head
    rw [List.head?_cons, Option.some.injEq] at head
    rw [← head]
    decide
  have enough : 1 ≤ (Decimal.padded 4 value).toList.length := by simp [whole]
  have fits : (Decimal.padded 4 value).toList.length ≤
      ((Decimal.padded 4 value).toList ++ '-' :: rest).length := by simp
  have read := number_run (Decimal.isDigit_padded 4 value) enough fits
    (by rwa [Decimal.ofDigitChars_padded]) (Or.inr ends)
  rwa [Decimal.ofDigitChars_padded] at read

/-- Without a sign a year has at most four digits. -/
theorem signedYear_of_isDigit {first : Char} (digit : CharClass.isDigit first = true)
    (rest : List Char) :
    signedYear (first :: rest) =
      (number 1 4 (first :: rest)).map fun (value, rest) => ((value : Int), rest) := by
  have unsigned {sign : Char} (other : CharClass.isDigit sign = false) : first ≠ sign := by
    rintro rfl
    rw [digit] at other
    cases other
  unfold signedYear
  split
  · rename_i same
    exact absurd (List.cons.inj same).1 (unsigned (by decide))
  · rename_i same
    exact absurd (List.cons.inj same).1 (unsigned (by decide))
  · rfl

private theorem signedYear_year {value : Int} (first : -262143 ≤ value) (last : value ≤ 262142)
    (rest : List Char) :
    signedYear (dropBlanks ((year value).toList ++ '-' :: rest)) = some (value, '-' :: rest) := by
  have limit : value.natAbs < Decimal.signedLimit :=
    Nat.lt_of_le_of_lt (show value.natAbs ≤ 262143 by omega) (by decide)
  unfold year
  by_cases dated : 0 ≤ value ∧ value ≤ 9999
  · obtain ⟨head, others, whole, digit⟩ := exists_padded 4 value.toNat
    have read : number 1 4 ((Decimal.padded 4 value.toNat).toList ++ '-' :: rest) =
        some (value.toNat, '-' :: rest) :=
      number_padded (by decide) (show value.toNat < 10 ^ 4 by omega) (by decide) (by decide)
        (Nat.lt_of_le_of_lt (show value.toNat ≤ 9999 by omega) (by decide)) (Or.inl rfl)
    have magnitude : (value.toNat : Int) = value := Int.toNat_of_nonneg dated.1
    rw [if_pos dated, dropBlanks_padded]
    rw [whole, List.cons_append] at read ⊢
    simp only [signedYear_of_isDigit digit, read, Option.map_some, magnitude]
  · have read := number_year limit rest
    rw [if_neg dated, String.toList_append]
    rcases Int.lt_or_le value 0 with negative | positive
    · have magnitude : -(value.natAbs : Int) = value := by omega
      have sign : "-".toList = ['-'] := rfl
      rw [if_pos negative, sign, List.singleton_append, List.cons_append, dropBlanks_cons (by decide)]
      simp only [signedYear, read, Option.map_some, magnitude]
    · have magnitude : (value.natAbs : Int) = value := by omega
      have sign : "+".toList = ['+'] := rfl
      rw [if_neg (by omega), sign, List.singleton_append, List.cons_append,
        dropBlanks_cons (by decide)]
      simp only [signedYear, read, Option.map_some, magnitude]

/-! ## Whole texts -/

/-- The looser reader finds the parts that were put together. -/
theorem parseLenient?_text {reading : Reading} (narrow : reading.IsNarrow) :
    parseLenient? (reading.text "Z") = reading.toInstant? := by
  have hyphen : "-".toList = ['-'] := rfl
  have colon : ":".toList = [':'] := rfl
  have time : "T".toList = ['T'] := rfl
  have separated (rest : List Char) : separator ('T' :: rest) = some ((), rest) := rfl
  have zone : looseOffset (dropBlanks "Z".toList) = some (0, []) := rfl
  have spelled : IsZone "Z" := .zulu
  simp only [parseLenient?, Reading.text, String.toList_append, List.append_assoc, hyphen, colon, time,
    List.cons_append, List.nil_append, bind, Option.bind, signedYear_year narrow.first narrow.last,
    looseLiteral_cons (show CharClass.isBlank '-' = false by decide),
    looseLiteral_cons (show CharClass.isBlank ':' = false by decide), separated,
    looseNumber_padded narrow.month, looseNumber_padded narrow.day, looseNumber_padded narrow.hour,
    looseNumber_padded narrow.minute, looseNumber_padded narrow.second,
    optionalFraction_fraction narrow.nanos spelled.endsNumber spelled.undotted, zone]
  have nothing : (dropBlanks []).isEmpty = true := rfl
  rw [if_pos nothing, ← narrow.offset]

/-- Every instant reads back with the looser reader, leap seconds and signed years included. -/
theorem parseLenient?_renderZulu (instant : Instant) :
    parseLenient? (renderZulu instant) = some instant := by
  obtain ⟨reading, narrow, -, written, makes⟩ := exists_reading instant
  rw [renderZulu, written, parseLenient?_text narrow, makes]

end RoleVault.Time.Rfc3339
