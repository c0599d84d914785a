import RoleVault.Proofs.Text.Scan
import RoleVault.Proofs.Time.Calendar
import RoleVault.Time.Rfc3339

/-!
Contract: stored times read back.

Owns:
- `exists_reading`: every instant is written as a reading that makes it up again;
- `Instant.IsDated`, the instants of the years 0 to 9999;
- `parse?_renderOffset` and `parse?_renderZulu`: each of these instants reads back from both
  spellings.

Does not own: the instants of other years, whose text only the looser reader takes
(`RoleVault.Proofs.Time.Lenient`).
-/

namespace RoleVault.Time

/-- The instants of the years 0 to 9999, which a year of four digits can name. -/
def Instant.IsDated (instant : Instant) : Prop :=
  -62167219200 ≤ instant.seconds ∧ instant.seconds ≤ 253402300799

instance (instant : Instant) : Decidable instant.IsDated := by
  unfold Instant.IsDated
  infer_instance

namespace Rfc3339

open RoleVault.Text RoleVault.Text.Scan

/-! ## Fractions -/

/-- Digits after the decimal point count from the left, so that trailing zeros may be left out. -/
theorem fractionDigits_padded {width value : Nat} {rest : List Char} (wide : 0 < width)
    (narrow : width ≤ 9) (small : value < 10 ^ width) (ends : EndsNumber rest) :
    fractionDigits ((Decimal.padded width value).toList ++ rest) =
      some (value * 10 ^ (9 - width), rest) := by
  have limit : value < Decimal.signedLimit := by
    have bound : 10 ^ width ≤ 10 ^ 9 := Nat.pow_le_pow_right (by decide) narrow
    have room : 10 ^ 9 < Decimal.signedLimit := by decide
    omega
  have tail : rest.dropWhile CharClass.isDigit = rest := by
    cases rest with
    | nil => rfl
    | cons first rest => simp [ends first rfl]
  simp only [fractionDigits, bind, Option.bind, pure,
    number_padded wide small wide narrow limit (Or.inr ends), tail, List.length_append,
    Decimal.length_padded wide small, Nat.add_sub_cancel, Nat.pow_eq]

private theorem optionalFraction_padded {width value nanos : Nat} {rest : List Char}
    (wide : 0 < width)
    (narrow : width ≤ 9) (small : value < 10 ^ width) (ends : EndsNumber rest)
    (whole : value * 10 ^ (9 - width) = nanos) :
    optionalFraction (("." ++ Decimal.padded width value).toList ++ rest) = some (nanos, rest) := by
  have dot : ".".toList = ['.'] := rfl
  rw [String.toList_append, List.append_assoc, dot, List.singleton_append, optionalFraction,
    fractionDigits_padded wide narrow small ends, whole]

/-- A fraction reads back where neither a digit nor a point follows it. -/
theorem optionalFraction_fraction {nanos : Nat} {rest : List Char} (small : nanos < nanosPerSecond)
    (ends : EndsNumber rest) (undotted : rest.head? ≠ some '.') :
    optionalFraction ((fraction nanos).toList ++ rest) = some (nanos, rest) := by
  have bound : nanos < 1000000000 := small
  unfold fraction
  split
  · rename_i none
    subst none
    cases rest with
    | nil => rfl
    | cons first rest =>
      simp only [String.toList_empty, List.nil_append]
      unfold optionalFraction
      split
      · rename_i dotted
        rw [dotted] at undotted
        exact absurd rfl undotted
      · rfl
  · split
    · exact optionalFraction_padded (by decide) (by decide) (by omega) ends (by omega)
    · split
      · exact optionalFraction_padded (by decide) (by decide) (by omega) ends (by omega)
      · exact optionalFraction_padded (by decide) (by decide) (by omega) ends (by omega)

/-! ## Offsets -/

inductive IsZone : String → Prop where
  | zulu : IsZone "Z"
  | offset : IsZone "+00:00"

namespace IsZone

variable {zone : String} (spelled : IsZone zone)

include spelled

private theorem offset_toList :
    Rfc3339.offset (fun chars => (literal ':' chars).map Prod.snd) zone.toList = some (0, []) := by
  cases spelled <;> rfl

theorem endsNumber : EndsNumber zone.toList := by
  intro char first
  cases spelled with
  | zulu =>
    have head : char = 'Z' := by simpa using first.symm
    rw [head]
    decide
  | offset =>
    have head : char = '+' := by simpa using first.symm
    rw [head]
    decide

theorem undotted : zone.toList.head? ≠ some '.' := by
  cases spelled <;> decide

end IsZone

/-! ## Readings -/

/-- The text of a reading, closed by a spelling of the zero offset. -/
def Reading.text (zone : String) (reading : Reading) : String :=
  Rfc3339.year reading.year ++ "-" ++ Decimal.padded 2 reading.month ++ "-" ++
    Decimal.padded 2 reading.day ++ "T" ++ Decimal.padded 2 reading.hour ++ ":" ++
    Decimal.padded 2 reading.minute ++ ":" ++ Decimal.padded 2 reading.second ++
    fraction reading.nanos ++ zone

/-- A reading whose parts keep to the width of their places. -/
structure Reading.IsNarrow (reading : Reading) : Prop where
  first : -262143 ≤ reading.year
  last : reading.year ≤ 262142
  month : reading.month < 100
  day : reading.day < 100
  hour : reading.hour < 100
  minute : reading.minute < 100
  second : reading.second < 100
  nanos : reading.nanos < nanosPerSecond
  offset : reading.offset = 0

theorem ofUnix?_self (instant : Instant) :
    Instant.ofUnix? instant.seconds instant.nanos = some instant := by
  rw [Instant.ofUnix?, dif_pos instant.seconds_mem, dif_pos instant.nanos_lt]

/-- An instant is known by its seconds and nanoseconds. -/
theorem ofUnix?_eq_some_iff {seconds : Int} {nanos : Nat} {instant : Instant} :
    Instant.ofUnix? seconds nanos = some instant ↔
      instant.seconds = seconds ∧ instant.nanos = nanos := by
  constructor
  · intro made
    rw [Instant.ofUnix?] at made
    split at made
    · split at made
      · cases made
        exact ⟨rfl, rfl⟩
      · cases made
    · cases made
  · rintro ⟨rfl, rfl⟩
    exact ofUnix?_self instant

private theorem clock_bounds {instant : Instant} {second nanos : Nat}
    (time : clock instant = (second, nanos)) : second < 100 ∧ nanos < nanosPerSecond := by
  have minute : instant.seconds.fmod 60 = instant.seconds % 60 :=
    Int.fmod_eq_emod_of_nonneg _ (by decide)
  have fine := instant.nanos_lt
  have unit : nanosPerSecond = 1000000000 := rfl
  rw [clock, minute] at time
  split at time <;> simp only [Prod.mk.injEq] at time <;> omega

/-- The parts of an instant make that instant. -/
theorem toInstant?_parts {instant : Instant} {year : Int} {month day second nanos : Nat}
    (date : Date.ofDays (instant.seconds / 86400) = ⟨year, month, day⟩)
    (bounds : -262143 ≤ year ∧ year ≤ 262142) (time : clock instant = (second, nanos)) :
    Reading.toInstant? ⟨year, month, day, (instant.seconds % 86400).toNat / 3600,
      (instant.seconds % 86400).toNat / 60 % 60, second, nanos, 0⟩ = some instant := by
  have valid := Date.isValid_ofDays (instant.seconds / 86400)
  have count := Date.toDays_ofDays (instant.seconds / 86400)
  rw [date] at valid count
  have minute : instant.seconds.fmod 60 = instant.seconds % 60 :=
    Int.fmod_eq_emod_of_nonneg _ (by decide)
  rw [clock, minute] at time
  have fine := instant.nanos_lt
  have unit : nanosPerSecond = 1000000000 := rfl
  split at time <;> rename_i plain <;> simp only [Prod.mk.injEq] at time <;>
    obtain ⟨rfl, rfl⟩ := time
  · have ordinary : ((instant.seconds % 60).toNat == 60) = false := by
      simp only [beq_eq_false_iff_ne]
      omega
    simp only [Reading.toInstant?, ordinary, Bool.false_eq_true, ↓reduceIte]
    have seconds : instant.seconds / 86400 * 86400 +
        (((instant.seconds % 86400).toNat / 3600 : Nat) : Int) * 3600 +
        (((instant.seconds % 86400).toNat / 60 % 60 : Nat) : Int) * 60 +
        ((instant.seconds % 60).toNat : Int) - 0 = instant.seconds := by omega
    rw [if_pos (by simp [valid]; omega), count, seconds, ofUnix?_self]
  · -- A second sixty stands for the second half of a double one.
    have double : ((instant.seconds % 60).toNat + 1 == 60) = true := by
      simp only [beq_iff_eq]
      omega
    simp only [Reading.toInstant?, double, ↓reduceIte]
    have seconds : instant.seconds / 86400 * 86400 +
        (((instant.seconds % 86400).toNat / 3600 : Nat) : Int) * 3600 +
        (((instant.seconds % 86400).toNat / 60 % 60 : Nat) : Int) * 60 + (59 : Nat) - 0 =
        instant.seconds := by omega
    have nanos : instant.nanos - nanosPerSecond + nanosPerSecond = instant.nanos := by omega
    rw [if_pos (by simp [valid]; omega), count, seconds, nanos, ofUnix?_self]

/-- The years that instants lie in. -/
theorem year_ofDays_bounds (instant : Instant) :
    -262143 ≤ (Date.ofDays (instant.seconds / 86400)).year ∧
      (Date.ofDays (instant.seconds / 86400)).year ≤ 262142 := by
  obtain ⟨early, late⟩ := instant.seconds_mem
  have first : Date.newYear (-262143) = -96465292 := by decide
  have last : Date.newYear (262142 + 1) = 95026237 := by decide
  unfold minSeconds at early
  unfold maxSeconds at late
  apply Date.year_bounds <;> omega

/-- An instant is written as a reading that makes it up again. -/
theorem exists_reading (instant : Instant) :
    ∃ reading : Reading, reading.IsNarrow ∧
      reading.year = (Date.ofDays (instant.seconds / 86400)).year ∧
      (∀ zone, render zone instant = reading.text zone) ∧ reading.toInstant? = some instant := by
  have dayDivision : instant.seconds.fdiv 86400 = instant.seconds / 86400 :=
    Int.fdiv_eq_ediv_of_nonneg _ (by decide)
  have dayRemainder : instant.seconds.fmod 86400 = instant.seconds % 86400 :=
    Int.fmod_eq_emod_of_nonneg _ (by decide)
  have bounds := year_ofDays_bounds instant
  have valid := Date.isValid_ofDays (instant.seconds / 86400)
  cases date : Date.ofDays (instant.seconds / 86400) with
  | mk year month day =>
    cases time : clock instant with
    | mk second nanos =>
      rw [date] at bounds valid
      obtain ⟨monthSmall, daySmall⟩ := Date.bounds_of_isValid valid
      obtain ⟨secondSmall, nanosSmall⟩ := clock_bounds time
      refine ⟨_, ⟨bounds.1, bounds.2, ?_, ?_, ?_, ?_, secondSmall, nanosSmall, rfl⟩, rfl, ?_,
        toInstant?_parts date bounds time⟩
      · exact Nat.lt_of_le_of_lt monthSmall (by decide)
      · exact Nat.lt_of_le_of_lt daySmall (by decide)
      · simp only
        omega
      · simp only
        omega
      · intro zone
        simp only [render, dayDivision, dayRemainder, date, time, Reading.text]

/-! ## Whole texts -/

private theorem number_two {value : Nat} {rest : List Char} (small : value < 100) :
    number 2 2 ((Decimal.padded 2 value).toList ++ rest) = some (value, rest) :=
  number_padded (by decide) small (by decide) (by decide)
    (Nat.lt_trans small (by decide)) (Or.inl rfl)

private theorem number_four {value : Nat} {rest : List Char} (small : value < 10000) :
    number 4 4 ((Decimal.padded 4 value).toList ++ rest) = some (value, rest) :=
  number_padded (by decide) small (by decide) (by decide)
    (Nat.lt_trans small (by decide)) (Or.inl rfl)

/-- The reader finds the parts that were put together. -/
theorem parse?_text {zone : String} (spelled : IsZone zone) {reading : Reading}
    (narrow : reading.IsNarrow) (dated : 0 ≤ reading.year ∧ reading.year ≤ 9999) :
    parse? (reading.text zone) = reading.toInstant? := by
  have hyphen : "-".toList = ['-'] := rfl
  have colon : ":".toList = [':'] := rfl
  have time : "T".toList = ['T'] := rfl
  have separated (rest : List Char) : separator ('T' :: rest) = some ((), rest) := rfl
  have yearSmall : reading.year.toNat < 10000 := by omega
  have yearWhole : (reading.year.toNat : Int) = reading.year := Int.toNat_of_nonneg dated.1
  simp only [parse?, Reading.text, year, if_pos dated, String.toList_append, List.append_assoc,
    hyphen, colon, time, List.cons_append, List.nil_append, bind, Option.bind, number_four yearSmall,
    number_two narrow.month, number_two narrow.day, number_two narrow.hour, number_two narrow.minute,
    number_two narrow.second, literal_cons, separated,
    optionalFraction_fraction narrow.nanos spelled.endsNumber spelled.undotted,
    spelled.offset_toList, List.isEmpty_nil, ↓reduceIte, yearWhole]
  rw [← narrow.offset]

private theorem parse?_render {zone : String} (spelled : IsZone zone) {instant : Instant}
    (dated : instant.IsDated) : parse? (render zone instant) = some instant := by
  obtain ⟨early, late⟩ := dated
  obtain ⟨reading, narrow, sameYear, written, makes⟩ := exists_reading instant
  have first : Date.newYear 0 = -719528 := by decide
  have last : Date.newYear (9999 + 1) = 2932897 := by decide
  have bounds := @Date.year_bounds (instant.seconds / 86400) 0 9999 (by omega) (by omega)
  rw [← sameYear] at bounds
  rw [written, parse?_text spelled narrow bounds, makes]

/-- Each instant of the years 0 to 9999 reads back from its text with the offset spelled out. -/
theorem parse?_renderOffset {instant : Instant} (dated : instant.IsDated) :
    parse? (renderOffset instant) = some instant :=
  parse?_render .offset dated

/-- Each instant of the years 0 to 9999 reads back from its text with the zone `Z`. -/
theorem parse?_renderZulu {instant : Instant} (dated : instant.IsDated) :
    parse? (renderZulu instant) = some instant :=
  parse?_render .zulu dated

end Rfc3339

end RoleVault.Time
