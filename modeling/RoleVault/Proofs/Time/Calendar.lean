import RoleVault.Time.Calendar

/-!
Contract: days and dates are two ways to write the same thing.

Owns:
- the year of an era that a day lies in, bounded by the first days of that year and of the next;
- `isValid_ofDays` and `toDays_ofDays`: every day has a date in the calendar, which counts back to
  it;
- `year_bounds`: the days whose date lies in a span of years.

Does not own: times of day.
-/

namespace RoleVault.Time.Date

/-! ## Years of an era -/

/-- Days of an era before a year of it. -/
def daysBefore (year : Nat) : Nat :=
  365 * year + year / 4 - year / 100 + year / 400

/-- The day with the leap days before it taken out, up to an error that dividing by 365 removes. -/
def evenDay (day : Nat) : Nat :=
  day - day / 1460 + day / 36524 - day / 146096

private theorem evenDay_le_succ (day : Nat) : evenDay day ≤ evenDay (day + 1) := by
  unfold evenDay
  omega

private theorem evenDay_mono {early late : Nat} (order : early ≤ late) :
    evenDay early ≤ evenDay late := by
  induction late with
  | zero =>
    obtain rfl := Nat.le_zero.mp order
    exact Nat.le_refl _
  | succ late inductionHypothesis =>
    rcases Nat.lt_or_ge late early with beyond | within
    · obtain rfl := Nat.le_antisymm order beyond
      exact Nat.le_refl _
    · exact Nat.le_trans (inductionHypothesis within) (evenDay_le_succ late)

/-- The first day of a year counts as that year, and the day before it does not. -/
theorem evenDay_daysBefore :
    ∀ year : Fin 401, 365 * year.val ≤ evenDay (daysBefore year.val) ∧
      (0 < year.val → evenDay (daysBefore year.val - 1) < 365 * year.val) := by
  decide +kernel

/-- The year of an era that a day lies in. -/
theorem yearOfEra_bounds {day : Nat} (within : day < 146097) :
    evenDay day / 365 < 400 ∧ daysBefore (evenDay day / 365) ≤ day ∧
      day < daysBefore (evenDay day / 365 + 1) := by
  have small : evenDay day / 365 < 400 := by
    have top : evenDay day ≤ evenDay 146096 := evenDay_mono (by omega)
    have last : evenDay 146096 = 145999 := by decide
    omega
  refine ⟨small, ?_, ?_⟩
  · apply Nat.le_of_not_lt
    intro before
    have earlier := (evenDay_daysBefore ⟨evenDay day / 365, by omega⟩).2
    have order : evenDay day ≤ evenDay (daysBefore (evenDay day / 365) - 1) :=
      evenDay_mono (by omega)
    rcases Nat.eq_zero_or_pos (evenDay day / 365) with zero | positive
    · rw [zero] at before
      simp [daysBefore] at before
    · have strict := earlier positive
      simp only at strict
      omega
  · apply Nat.lt_of_not_le
    intro after
    have later := (evenDay_daysBefore ⟨evenDay day / 365 + 1, by omega⟩).1
    have order := evenDay_mono after
    simp only at later
    omega

/-- A year of an era has at most three hundred and sixty-six days. -/
theorem daysBefore_succ_le :
    ∀ year : Fin 400, daysBefore (year.val + 1) ≤ daysBefore year.val + 366 := by
  decide +kernel

/-! ## Months of a year -/

/-- The month that a day of the year lies in, counted from March. -/
def monthOf (day : Nat) : Nat :=
  (5 * day + 2) / 153

/-- Days of the year before a month counted from March. -/
def daysBeforeMonth (month : Nat) : Nat :=
  (153 * month + 2) / 5

/-- The number under which the calendar knows a month counted from March. -/
def calendarMonth (month : Nat) : Nat :=
  if month < 10 then month + 3 else month - 9

/-- The length of a month counted from March, with a leap day. -/
def longMonth (month : Nat) : Nat :=
  daysInMonth 0 (calendarMonth month)

/-- Every day of a year lies in one of twelve months, within its length; only the last day of a leap
year is a leap day. -/
theorem monthOf_bounds :
    ∀ day : Fin 366, monthOf day.val < 12 ∧ daysBeforeMonth (monthOf day.val) ≤ day.val ∧
      day.val < daysBeforeMonth (monthOf day.val) + longMonth (monthOf day.val) ∧
      (day.val < 365 → monthOf day.val = 11 →
        day.val < daysBeforeMonth (monthOf day.val) + 28) := by
  decide +kernel

private theorem isValid_of_le_longMonth {year : Int} {month day : Nat} (known : month < 12)
    (positive : 1 ≤ day) (within : day ≤ longMonth month)
    (february : month = 11 → 28 < day → isLeap year = true) :
    isValid ⟨year, calendarMonth month, day⟩ = true := by
  have cases : month = 0 ∨ month = 1 ∨ month = 2 ∨ month = 3 ∨ month = 4 ∨ month = 5 ∨
      month = 6 ∨ month = 7 ∨ month = 8 ∨ month = 9 ∨ month = 10 ∨ month = 11 := by omega
  rcases cases with rfl | rfl | rfl | rfl | rfl | rfl | rfl | rfl | rfl | rfl | rfl | rfl
  case inr.inr.inr.inr.inr.inr.inr.inr.inr.inr.inr =>
    have bound : day ≤ 29 := within
    have rule : isValid ⟨year, calendarMonth 11, day⟩ =
        (decide (1 ≤ day) && decide (day ≤ if isLeap year then 29 else 28)) := rfl
    rw [rule, Bool.and_eq_true, decide_eq_true_eq, decide_eq_true_eq]
    refine ⟨positive, ?_⟩
    split
    · exact bound
    · rename_i common
      apply Nat.le_of_not_lt
      intro late
      exact common (february rfl late)
  all_goals
    simp only [isValid, Bool.and_eq_true, decide_eq_true_eq]
    exact ⟨positive, within⟩

/-! ## Dates -/

/-- The date of a day of a year of an era; the year begins in March. -/
def ofParts (era : Int) (year day : Nat) : Date where
  year := era * 400 + year + if monthOf day < 10 then 0 else 1
  month := calendarMonth (monthOf day)
  day := day - daysBeforeMonth (monthOf day) + 1

private theorem ofParts_eq_ite (era : Int) (year day : Nat) :
    ofParts era year day =
      if monthOf day < 10 then
        ⟨era * 400 + year, monthOf day + 3, day - daysBeforeMonth (monthOf day) + 1⟩
      else
        ⟨era * 400 + year + 1, monthOf day - 9, day - daysBeforeMonth (monthOf day) + 1⟩ := by
  unfold ofParts calendarMonth
  by_cases early : monthOf day < 10
  · simp only [if_pos early, Int.add_zero]
  · simp only [if_neg early]

/-- The parts of a day: its era, the year in it, and the day of that year. -/
theorem exists_parts (days : Int) :
    ∃ (era : Int) (year day : Nat), year < 400 ∧ day < 366 ∧
      daysBefore year + day < daysBefore (year + 1) ∧
      days + 719468 = era * 146097 + (daysBefore year + day : Nat) ∧
      ofDays days = ofParts era year day := by
  have era_eq : (days + 719468).fdiv 146097 = (days + 719468) / 146097 :=
    Int.fdiv_eq_ediv_of_nonneg _ (by decide)
  have dayOfEra_eq : (days + 719468).fmod 146097 = (days + 719468) % 146097 :=
    Int.fmod_eq_emod_of_nonneg _ (by decide)
  let dayOfEra := ((days + 719468) % 146097).toNat
  have within : dayOfEra < 146097 := by omega
  obtain ⟨small, lower, upper⟩ := yearOfEra_bounds within
  have length := daysBefore_succ_le ⟨evenDay dayOfEra / 365, small⟩
  have first : daysBefore (evenDay dayOfEra / 365) =
      365 * (evenDay dayOfEra / 365) + evenDay dayOfEra / 365 / 4 -
        evenDay dayOfEra / 365 / 100 := by
    unfold daysBefore
    omega
  refine ⟨(days + 719468) / 146097, evenDay dayOfEra / 365,
    dayOfEra - daysBefore (evenDay dayOfEra / 365), small, ?_, ?_, ?_, ?_⟩
  · simp only at length
    omega
  · omega
  · omega
  · rw [first, ofParts_eq_ite]
    simp only [ofDays, era_eq, dayOfEra_eq]
    rfl

/-- Only the last day of a leap year is its three hundred and sixty-sixth. -/
theorem isLeap_of_last {era : Int} {year day : Nat} (small : year < 400)
    (within : daysBefore year + day < daysBefore (year + 1)) (last : 365 ≤ day) :
    isLeap (era * 400 + year + 1) = true := by
  have long : daysBefore year + 365 < daysBefore (year + 1) := by omega
  have leap : (year + 1) % 4 = 0 ∧ ((year + 1) % 100 ≠ 0 ∨ year + 1 = 400) := by
    unfold daysBefore at long
    omega
  simp only [isLeap, Bool.and_eq_true, Bool.or_eq_true, beq_iff_eq, bne_iff_ne]
  omega

private theorem isValid_ofParts {era : Int} {year day : Nat} (small : year < 400)
    (bound : day < 366)
    (within : daysBefore year + day < daysBefore (year + 1)) :
    (ofParts era year day).isValid = true := by
  obtain ⟨month, lower, upper, february⟩ := monthOf_bounds ⟨day, bound⟩
  simp only at month lower upper february
  apply isValid_of_le_longMonth month (by omega) (by omega)
  intro last late
  rw [if_neg (by omega)]
  exact isLeap_of_last small within (by omega)

private theorem toDays_ofParts {era : Int} {year day : Nat} (small : year < 400)
    (bound : day < 366) :
    (ofParts era year day).toDays = era * 146097 + (daysBefore year + day : Nat) - 719468 := by
  obtain ⟨month, lower, -, -⟩ := monthOf_bounds ⟨day, bound⟩
  simp only at month lower
  have quotient (value : Int) {unit : Int} (positive : 0 ≤ unit) :
      value.fdiv unit = value / unit ∧ value.fmod unit = value % unit :=
    ⟨Int.fdiv_eq_ediv_of_nonneg value positive, Int.fmod_eq_emod_of_nonneg value positive⟩
  unfold daysBeforeMonth at lower
  have count : (ofParts era year day).toDays =
      era * 146097 + (year * 365 + year / 4 - year / 100 + day : Int) - 719468 := by
    rw [ofParts_eq_ite]
    split <;> rename_i early
    · simp (disch := decide) only [toDays, if_neg (show ¬monthOf day + 3 ≤ 2 by omega),
        daysBeforeMonth, (quotient _ _).1, (quotient _ _).2]
      omega
    · simp (disch := decide) only [toDays, if_pos (show monthOf day - 9 ≤ 2 by omega),
        daysBeforeMonth, (quotient _ _).1, (quotient _ _).2]
      omega
  have first : (daysBefore year : Int) = year * 365 + year / 4 - year / 100 := by
    unfold daysBefore
    omega
  omega

/-- The date of a day is in the calendar. -/
theorem isValid_ofDays (days : Int) : (ofDays days).isValid = true := by
  obtain ⟨era, year, day, small, bound, within, -, date⟩ := exists_parts days
  rw [date]
  exact isValid_ofParts small bound within

/-- The date of a day counts back to that day. -/
theorem toDays_ofDays (days : Int) : (ofDays days).toDays = days := by
  obtain ⟨era, year, day, small, bound, -, whole, date⟩ := exists_parts days
  rw [date, toDays_ofParts small bound]
  omega

/-- A date in the calendar has one of twelve months and one of thirty-one days. -/
theorem bounds_of_isValid {year : Int} {month day : Nat}
    (valid : isValid ⟨year, month, day⟩ = true) : month ≤ 12 ∧ day ≤ 31 := by
  have within : day ≤ daysInMonth year month := by
    simp only [isValid, Bool.and_eq_true, decide_eq_true_eq] at valid
    exact valid.2
  have positive : 1 ≤ day := by
    simp only [isValid, Bool.and_eq_true, decide_eq_true_eq] at valid
    exact valid.1
  unfold daysInMonth at within
  split at within
  case h_12 => split at within <;> omega
  all_goals omega

/-! ## Years -/

/-- The first day of a year. -/
def newYear (year : Int) : Int :=
  365 * (year - 1) + (year - 1) / 4 - (year - 1) / 100 + (year - 1) / 400 - 719162

private theorem newYear_lt_succ (year : Int) : newYear year < newYear (year + 1) := by
  unfold newYear
  omega

private theorem newYear_mono {early late : Int} (order : early ≤ late) :
    newYear early ≤ newYear late := by
  obtain ⟨count, rfl⟩ := Int.exists_add_of_le order
  induction count with
  | zero => simp
  | succ count inductionHypothesis =>
    have before := inductionHypothesis (by omega)
    have next := newYear_lt_succ (early + count)
    have shift : early + ((count + 1 : Nat) : Int) = early + count + 1 := by omega
    rw [shift]
    omega

/-- A day lies between the first days of its year and of the next. -/
theorem newYear_year (days : Int) :
    newYear (ofDays days).year ≤ days ∧ days < newYear ((ofDays days).year + 1) := by
  obtain ⟨era, year, day, small, bound, within, whole, date⟩ := exists_parts days
  -- The year begins in March, so that its last two months count for the next one.
  have spring : monthOf day < 10 ↔ day < 306 := by
    unfold monthOf
    omega
  unfold daysBefore at within whole
  simp only [date, ofParts, newYear]
  split <;> omega

/-- The days of a span of years. -/
theorem year_bounds {days first last : Int} (early : newYear first ≤ days)
    (late : days < newYear (last + 1)) :
    first ≤ (ofDays days).year ∧ (ofDays days).year ≤ last := by
  obtain ⟨lower, upper⟩ := newYear_year days
  constructor
  · apply Int.le_of_not_gt
    intro before
    have order := newYear_mono (show (ofDays days).year + 1 ≤ first from before)
    omega
  · apply Int.le_of_not_gt
    intro beyond
    have order := newYear_mono (show last + 1 ≤ (ofDays days).year from beyond)
    omega

end RoleVault.Time.Date
