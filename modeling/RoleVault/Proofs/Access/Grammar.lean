import Mathlib.Data.List.TakeWhile
import RoleVault.Proofs.Access.Fields
import RoleVault.Proofs.Text.Pattern

/-!
Contract: the scans of names, passwords, addresses and phone numbers accept the languages of their
regular expressions.

Owns:
- the grammar of each of these fields, and the pattern that its expression is made of;
- that the scan of the field and its pattern both accept the grammar;
- `Decides`, what it is for a check to accept a grammar, and that the four checks do.

Does not own: display names and notes, whose rules are about length and control characters.
-/

namespace RoleVault.Access

open RoleVault.Text RoleVault.Text.CharClass

/-! ## Characters -/

private theorem isLetter_eq (char : Char) : isLetter char = char.isAlpha := by
  have upper : char.isUpper = ('A' ≤ char && char ≤ 'Z') := Bool.decide_and _ _
  have lower : char.isLower = ('a' ≤ char && char ≤ 'z') := rfl
  calc isLetter char
    _ = (('A' ≤ char && char ≤ 'Z') || ('a' ≤ char && char ≤ 'z')) := Bool.or_comm _ _
    _ = (char.isUpper || char.isLower) := by rw [upper, lower]

private theorem isDigit_eq (char : Char) : isDigit char = char.isDigit :=
  rfl

private theorem isNameChar_iff {char : Char} :
    isNameChar char = true ↔ char.isAlphanum = true ∨ char = '_' ∨ char = '.' ∨ char = '-' := by
  simp [isNameChar, isAlphanumeric, Char.isAlphanum, isLetter_eq, isDigit_eq, or_assoc]

private theorem isPasswordChar_iff {char : Char} :
    isPasswordChar char = true ↔ char.isAlphanum = true ∨ char = '_' ∨ char = '-' := by
  simp [isPasswordChar, isAlphanumeric, Char.isAlphanum, isLetter_eq, isDigit_eq, or_assoc]

private theorem isPhoneChar_iff {char : Char} :
    isPhoneChar char = true ↔ char.isDigit = true ∨ char = ' ' ∨ char = '-' := by
  simp [isPhoneChar, isDigit_eq, or_assoc]

private theorem isAddressChar_iff {char : Char} :
    isAddressChar char = true ↔ char ≠ '@' ∧ isBlank char = false := by
  simp [isAddressChar]

/-! ## Sets of characters -/

/-- `[a-zA-Z]` -/
def letterSet : CharSet := ⟨.letters, false⟩

/-- `[0-9]` -/
def digitSet : CharSet := ⟨.digits, false⟩

/-- `[a-zA-Z0-9_.-]` -/
def nameSet : CharSet := ⟨.letters ++ .digits ++ .singles ['_', '.', '-'], false⟩

/-- `[a-zA-Z0-9_-]` -/
def passwordSet : CharSet := ⟨.letters ++ .digits ++ .singles ['_', '-'], false⟩

/-- `[0-9 -]` -/
def phoneSet : CharSet := ⟨.digits ++ .singles [' ', '-'], false⟩

/-- `[^@\s]` -/
def addressSet : CharSet := ⟨.singles ['@'] ++ .whiteSpace, true⟩

/-- One character and no other. -/
def onlySet (char : Char) : CharSet := ⟨.singles [char], false⟩

section Sets

variable {char : Char}

private theorem contains_letterSet : letterSet.contains char = true ↔ char.isAlpha = true := by
  simp [letterSet, isLetter_eq]

private theorem contains_digitSet : digitSet.contains char = true ↔ char.isDigit = true := by
  simp [digitSet, isDigit_eq]

private theorem contains_nameSet : nameSet.contains char = true ↔ isNameChar char = true := by
  simp [nameSet, isNameChar, isAlphanumeric, or_assoc]

private theorem contains_passwordSet :
    passwordSet.contains char = true ↔ isPasswordChar char = true := by
  simp [passwordSet, isPasswordChar, isAlphanumeric, or_assoc]

private theorem contains_phoneSet : phoneSet.contains char = true ↔ isPhoneChar char = true := by
  simp [phoneSet, isPhoneChar, or_assoc]

private theorem contains_addressSet :
    addressSet.contains char = true ↔ isAddressChar char = true := by
  simp [addressSet, isAddressChar]

private theorem contains_onlySet {only : Char} :
    (onlySet only).contains char = true ↔ char = only := by
  simp [onlySet]

end Sets

private theorem mem_only_iff {only : Char} {text : List Char} :
    text ∈ (Pattern.one (onlySet only)).language ↔ text = [only] := by
  simp [Pattern.mem_one_iff, contains_onlySet]

/-! ## Names -/

/-- A letter, then two to thirty-one letters, digits, underscores, dots or hyphens, all of ASCII. -/
def NameGrammar (text : List Char) : Prop :=
  ∃ first rest, text = first :: rest ∧ first.isAlpha = true ∧
    (∀ char ∈ rest, char.isAlphanum = true ∨ char = '_' ∨ char = '.' ∨ char = '-') ∧
    2 ≤ rest.length ∧ rest.length ≤ 31

/-- `[a-zA-Z][a-zA-Z0-9_.-]{2,31}` -/
def namePattern : Pattern :=
  .followed (.one letterSet) (.repeated (.one nameSet) 2 (some 31))

private theorem isName_iff {text : String} : isName text = true ↔ NameGrammar text.toList := by
  unfold isName NameGrammar
  cases text.toList with
  | nil => simp
  | cons first rest =>
    simp only [Bool.and_eq_true, List.all_eq_true, decide_eq_true_eq, isNameChar_iff, isLetter_eq]
    constructor
    · rintro ⟨⟨⟨letter, chars⟩, least⟩, most⟩
      exact ⟨first, rest, rfl, letter, chars, least, most⟩
    · rintro ⟨_, _, same, letter, chars, least, most⟩
      cases same
      exact ⟨⟨⟨letter, chars⟩, least⟩, most⟩

private theorem mem_namePattern_iff {text : List Char} :
    text ∈ namePattern.language ↔ NameGrammar text := by
  simp only [namePattern, Pattern.mem_followed_iff, Pattern.mem_one_iff, Pattern.mem_run_iff,
    contains_letterSet, contains_nameSet, isNameChar_iff, Option.mem_some_iff, forall_eq']
  constructor
  · rintro ⟨_, ⟨first, letter, rfl⟩, rest, ⟨chars, least, most⟩, rfl⟩
    exact ⟨first, rest, rfl, letter, chars, least, most⟩
  · rintro ⟨first, rest, rfl, letter, chars, least, most⟩
    exact ⟨[first], ⟨first, letter, rfl⟩, rest, ⟨chars, least, most⟩, rfl⟩

private theorem NameGrammar.newline_not_mem {text : List Char} (grammar : NameGrammar text) :
    '\n' ∉ text := by
  obtain ⟨first, rest, rfl, letter, chars, _⟩ := grammar
  intro member
  rcases List.mem_cons.mp member with rfl | later
  · cases letter
  · exact absurd (chars '\n' later) (by decide)

/-! ## Passwords -/

/-- Eight to eighteen letters, digits, underscores or hyphens, all of ASCII. -/
def PasswordGrammar (text : List Char) : Prop :=
  (∀ char ∈ text, char.isAlphanum = true ∨ char = '_' ∨ char = '-') ∧
    8 ≤ text.length ∧ text.length ≤ 18

/-- `[a-zA-Z0-9_-]{8,18}` -/
def passwordPattern : Pattern :=
  .repeated (.one passwordSet) 8 (some 18)

private theorem isPasswordShaped_iff {text : String} :
    isPasswordShaped text = true ↔ PasswordGrammar text.toList := by
  simp only [isPasswordShaped, Bool.and_eq_true, List.all_eq_true, decide_eq_true_eq,
    isPasswordChar_iff, PasswordGrammar, and_assoc]

private theorem mem_passwordPattern_iff {text : List Char} :
    text ∈ passwordPattern.language ↔ PasswordGrammar text := by
  simp only [passwordPattern, Pattern.mem_run_iff, contains_passwordSet, isPasswordChar_iff,
    PasswordGrammar, Option.mem_some_iff, forall_eq']

private theorem PasswordGrammar.newline_not_mem {text : List Char}
    (grammar : PasswordGrammar text) :
    '\n' ∉ text :=
  fun member => absurd (grammar.1 '\n' member) (by decide)

/-! ## Phone numbers -/

/-- An optional plus sign and a digit, then five to nineteen digits, spaces or hyphens, all of
ASCII. -/
def PhoneGrammar (text : List Char) : Prop :=
  ∃ sign first rest, text = sign ++ first :: rest ∧ (sign = [] ∨ sign = ['+']) ∧
    first.isDigit = true ∧ (∀ char ∈ rest, char.isDigit = true ∨ char = ' ' ∨ char = '-') ∧
    5 ≤ rest.length ∧ rest.length ≤ 19

/-- `\+?[0-9][0-9 -]{5,19}` -/
def phonePattern : Pattern :=
  .followed (.repeated (.one (onlySet '+')) 0 (some 1))
    (.followed (.one digitSet) (.repeated (.one phoneSet) 5 (some 19)))

/-- A plus sign in front is passed over, and it is no digit. -/
theorem dropPlus_eq_cons_iff {text rest : List Char} {first : Char} (digit : first.isDigit = true) :
    dropPlus text = first :: rest ↔ text = first :: rest ∨ text = '+' :: first :: rest := by
  unfold dropPlus
  split
  · constructor
    · rintro rfl
      exact .inr rfl
    · rintro (same | same)
      · cases same
        cases digit
      · cases same
        rfl
  · rename_i plain
    constructor
    · exact .inl
    · rintro (same | same)
      · exact same
      · exact absurd same (plain _)

private theorem isPhone_iff {text : String} : isPhone text = true ↔ PhoneGrammar text.toList := by
  have scan : isPhone text = true ↔ ∃ first rest, dropPlus text.toList = first :: rest ∧
      first.isDigit = true ∧ (∀ char ∈ rest, char.isDigit = true ∨ char = ' ' ∨ char = '-') ∧
      5 ≤ rest.length ∧ rest.length ≤ 19 := by
    unfold isPhone
    cases dropPlus text.toList with
    | nil => simp
    | cons first rest =>
      simp only [Bool.and_eq_true, List.all_eq_true, decide_eq_true_eq, isPhoneChar_iff, isDigit_eq,
        List.cons.injEq, and_assoc, exists_and_left, exists_eq_left']
  rw [scan]
  constructor
  · rintro ⟨first, rest, dropped, digit, chars, least, most⟩
    rcases (dropPlus_eq_cons_iff digit).mp dropped with same | same
    · exact ⟨[], first, rest, same, .inl rfl, digit, chars, least, most⟩
    · exact ⟨['+'], first, rest, same, .inr rfl, digit, chars, least, most⟩
  · rintro ⟨sign, first, rest, same, rfl | rfl, digit, chars, least, most⟩
    · exact ⟨first, rest, (dropPlus_eq_cons_iff digit).mpr (.inl same), digit, chars, least, most⟩
    · exact ⟨first, rest, (dropPlus_eq_cons_iff digit).mpr (.inr same), digit, chars, least, most⟩

private theorem mem_phonePattern_iff {text : List Char} :
    text ∈ phonePattern.language ↔ PhoneGrammar text := by
  have sign {part : List Char} :
      part ∈ (Pattern.repeated (.one (onlySet '+')) 0 (some 1)).language ↔
        part = [] ∨ part = ['+'] := by
    simp only [Pattern.mem_run_iff, contains_onlySet, Option.mem_some_iff, forall_eq']
    match part with
    | [] => simp
    | [char] => simp
    | _ :: _ :: _ => simp
  simp only [phonePattern, Pattern.mem_followed_iff, sign, Pattern.mem_one_iff, Pattern.mem_run_iff,
    contains_digitSet, contains_phoneSet, isPhoneChar_iff, Option.mem_some_iff, forall_eq']
  constructor
  · rintro ⟨plus, optional, _, ⟨_, ⟨first, digit, rfl⟩, rest, ⟨chars, least, most⟩, rfl⟩, rfl⟩
    exact ⟨plus, first, rest, rfl, optional, digit, chars, least, most⟩
  · rintro ⟨plus, first, rest, rfl, optional, digit, chars, least, most⟩
    exact ⟨plus, optional, first :: rest,
      ⟨[first], ⟨first, digit, rfl⟩, rest, ⟨chars, least, most⟩, rfl⟩, rfl⟩

private theorem PhoneGrammar.newline_not_mem {text : List Char} (grammar : PhoneGrammar text) :
    '\n' ∉ text := by
  obtain ⟨sign, first, rest, rfl, optional, digit, chars, _⟩ := grammar
  intro member
  rcases List.mem_append.mp member with inSign | later
  · rcases optional with rfl | rfl
    · cases inSign
    · exact absurd inSign (by decide)
  · rcases List.mem_cons.mp later with rfl | later
    · cases digit
    · exact absurd (chars '\n' later) (by decide)

/-! ## Addresses -/

/-- Two parts around the one at sign, neither of them empty, without blanks, and a dot inside the
second. -/
def EmailGrammar (text : List Char) : Prop :=
  ∃ localPart domain, text = localPart ++ '@' :: domain ∧ localPart ≠ [] ∧ domain ≠ [] ∧
    '@' ∉ localPart ∧ '@' ∉ domain ∧ (∀ char ∈ text, isBlank char = false) ∧
    ∃ before after, domain = before ++ '.' :: after ∧ before ≠ [] ∧ after ≠ []

/-- `[^@\s]+@[^@\s]+\.[^@\s]+` -/
def emailPattern : Pattern :=
  .followed (.repeated (.one addressSet) 1 none) (.followed (.one (onlySet '@'))
    (.followed (.repeated (.one addressSet) 1 none) (.followed (.one (onlySet '.'))
      (.repeated (.one addressSet) 1 none))))

/-- What stands between the first and the last of a list. -/
theorem mem_tail_dropLast_iff {chars : List Char} {char : Char} :
    char ∈ chars.tail.dropLast ↔
      ∃ before after, chars = before ++ char :: after ∧ before ≠ [] ∧ after ≠ [] := by
  constructor
  · intro inside
    cases chars with
    | nil => cases inside
    | cons first rest =>
      rcases List.eq_nil_or_concat rest with rfl | ⟨front, last, rfl⟩
      · cases inside
      · rw [List.tail_cons, List.concat_eq_append, List.dropLast_concat] at inside
        obtain ⟨before, after, rfl⟩ := List.append_of_mem inside
        exact ⟨first :: before, after ++ [last], by simp, by simp, by simp⟩
  · rintro ⟨before, after, rfl, filledBefore, filledAfter⟩
    obtain ⟨first, between, rfl⟩ := List.exists_cons_of_ne_nil filledBefore
    rw [List.cons_append, List.tail_cons, List.dropLast_append_of_ne_nil (by simp),
      List.dropLast_cons_of_ne_nil filledAfter]
    simp

private theorem isDomain_iff {chars : List Char} :
    isDomain chars = true ↔ (∀ char ∈ chars, isAddressChar char = true) ∧
      ∃ before after, chars = before ++ '.' :: after ∧ before ≠ [] ∧ after ≠ [] := by
  rw [isDomain, Bool.and_eq_true, List.all_eq_true, List.contains_iff_mem, mem_tail_dropLast_iff]

/-- The scan splits a text at its first at sign. -/
theorem isEmail_eq_split {localPart domain : List Char} (first : '@' ∉ localPart) :
    isEmail (String.ofList (localPart ++ '@' :: domain)) =
      (!localPart.isEmpty && localPart.all isAddressChar && isDomain domain) := by
  have apart : ∀ char ∈ localPart, (char != '@') = true := by
    intro char member
    rw [bne_iff_ne]
    rintro rfl
    exact first member
  have sign : ('@' != '@') = false := by decide
  simp only [isEmail, String.toList_ofList, List.takeWhile_append_of_pos apart,
    List.dropWhile_append_of_pos apart, List.takeWhile_cons, List.dropWhile_cons, sign,
    List.append_nil, Bool.false_eq_true, if_false]

/-- A text without an at sign is refused. -/
theorem isEmail_eq_false {text : String} (absent : '@' ∉ text.toList) : isEmail text = false := by
  have passed : text.toList.dropWhile (· != '@') = [] := by
    rw [List.dropWhile_eq_nil_iff]
    intro char member
    rw [bne_iff_ne]
    rintro rfl
    exact absent member
  simp only [isEmail, passed, Bool.and_false]

private theorem forall_isAddressChar_iff {part : List Char} :
    (∀ char ∈ part, isAddressChar char = true) ↔
      '@' ∉ part ∧ ∀ char ∈ part, isBlank char = false := by
  simp only [isAddressChar_iff, forall_and]
  exact and_congr_left' ⟨fun apart member => apart '@' member rfl,
    fun absent char member same => absent (same ▸ member)⟩

/-- The grammar, with its conditions on characters said of each part. -/
theorem emailGrammar_iff {text : List Char} :
    EmailGrammar text ↔ ∃ localPart before after,
      text = localPart ++ '@' :: (before ++ '.' :: after) ∧
      (localPart ≠ [] ∧ ∀ char ∈ localPart, isAddressChar char = true) ∧
      (before ≠ [] ∧ ∀ char ∈ before, isAddressChar char = true) ∧
      after ≠ [] ∧ ∀ char ∈ after, isAddressChar char = true := by
  simp only [forall_isAddressChar_iff]
  constructor
  · rintro ⟨localPart, domain, rfl, filled, _, noSign, noFurther, noBlank, before, after, rfl,
      filledBefore, filledAfter⟩
    simp only [List.mem_append, List.mem_cons, not_or] at noFurther
    simp only [List.forall_mem_append, List.forall_mem_cons] at noBlank
    obtain ⟨noBlankLocal, _, noBlankBefore, _, noBlankAfter⟩ := noBlank
    exact ⟨localPart, before, after, rfl, ⟨filled, noSign, noBlankLocal⟩,
      ⟨filledBefore, noFurther.1, noBlankBefore⟩, filledAfter, noFurther.2.2, noBlankAfter⟩
  · rintro ⟨localPart, before, after, rfl, ⟨filled, noSign, noBlankLocal⟩,
      ⟨filledBefore, noSignBefore, noBlankBefore⟩, filledAfter, noSignAfter, noBlankAfter⟩
    refine ⟨localPart, before ++ '.' :: after, rfl, filled, by simp, noSign, ?_, ?_,
      before, after, rfl, filledBefore, filledAfter⟩
    · simp [noSignBefore, noSignAfter]
    · simp only [List.forall_mem_append, List.forall_mem_cons]
      exact ⟨noBlankLocal, by decide, noBlankBefore, by decide, noBlankAfter⟩

private theorem isEmail_iff {text : String} : isEmail text = true ↔ EmailGrammar text.toList := by
  rw [emailGrammar_iff]
  constructor
  · intro accepted
    by_cases sign : '@' ∈ text.toList
    · obtain ⟨localPart, domain, split, first⟩ := List.eq_append_cons_of_mem sign
      obtain rfl : text = String.ofList (localPart ++ '@' :: domain) := by
        rw [← split, String.ofList_toList]
      rw [isEmail_eq_split first, Bool.and_eq_true, Bool.and_eq_true, List.all_eq_true,
        isDomain_iff] at accepted
      obtain ⟨⟨filled, address⟩, addressDomain, before, after, rfl, filledBefore, filledAfter⟩ :=
        accepted
      rw [List.forall_mem_append, List.forall_mem_cons] at addressDomain
      exact ⟨localPart, before, after, split, ⟨by simpa using filled, address⟩,
        ⟨filledBefore, addressDomain.1⟩, filledAfter, addressDomain.2.2⟩
    · rw [isEmail_eq_false sign] at accepted
      cases accepted
  · rintro ⟨localPart, before, after, split, ⟨filled, address⟩, ⟨filledBefore, addressBefore⟩,
      filledAfter, addressAfter⟩
    have first : '@' ∉ localPart := (forall_isAddressChar_iff.mp address).1
    obtain rfl : text = String.ofList (localPart ++ '@' :: (before ++ '.' :: after)) := by
      rw [← split, String.ofList_toList]
    have dot : isAddressChar '.' = true := by decide
    rw [isEmail_eq_split first, Bool.and_eq_true, Bool.and_eq_true, List.all_eq_true, isDomain_iff,
      List.forall_mem_append, List.forall_mem_cons]
    exact ⟨⟨by simpa using filled, address⟩, ⟨addressBefore, dot, addressAfter⟩, before, after, rfl,
      filledBefore, filledAfter⟩

private theorem mem_emailPattern_iff {text : List Char} :
    text ∈ emailPattern.language ↔ EmailGrammar text := by
  have run {part : List Char} :
      part ∈ (Pattern.repeated (.one addressSet) 1 none).language ↔
        part ≠ [] ∧ ∀ char ∈ part, isAddressChar char = true := by
    simp only [Pattern.mem_run_iff, contains_addressSet, Nat.one_le_iff_ne_zero, ne_eq,
      List.length_eq_zero_iff, Option.not_mem_none, false_imp_iff, implies_true, and_true]
    exact and_comm
  simp only [emailPattern, Pattern.mem_followed_iff, run, mem_only_iff]
  rw [emailGrammar_iff]
  constructor
  · rintro ⟨localPart, address, _, ⟨_, rfl, _, ⟨before, addressBefore, _, ⟨_, rfl, after,
      addressAfter, rfl⟩, rfl⟩, rfl⟩, rfl⟩
    exact ⟨localPart, before, after, rfl, address, addressBefore, addressAfter⟩
  · rintro ⟨localPart, before, after, rfl, address, addressBefore, addressAfter⟩
    exact ⟨localPart, address, _, ⟨_, rfl, _, ⟨before, addressBefore, _, ⟨_, rfl, after,
      addressAfter, rfl⟩, rfl⟩, rfl⟩, rfl⟩

private theorem EmailGrammar.newline_not_mem {text : List Char} (grammar : EmailGrammar text) :
    '\n' ∉ text := by
  obtain ⟨_, _, _, _, _, _, _, noBlank, _⟩ := grammar
  intro member
  exact absurd (noBlank '\n' member) (by decide)

/-! ## Checks -/

/-- A check accepts the texts of a grammar, which are those in which the expression made of a pattern
with both anchors is found, and none that ends in a line break. -/
structure Decides (validate : String → Except AccessError Unit) (grammar : List Char → Prop)
    (pattern : Pattern) : Prop where
  accepts (text : String) : validate text = .ok () ↔ grammar text.toList
  finds (text : String) : validate text = .ok () ↔ (Expression.whole pattern).Finds text
  newline (text : String) : validate (text ++ "\n") ≠ .ok ()

/-- A rule that is scanned for, where the scan and the pattern both accept the grammar. -/
theorem decides_require {scan : String → Bool} {problem : String → FieldProblem}
    {grammar : List Char → Prop} {pattern : Pattern}
    (scanned : ∀ {text : String}, scan text = true ↔ grammar text.toList)
    (matched : ∀ {text : List Char}, text ∈ pattern.language ↔ grammar text)
    (noNewline : ∀ {text : List Char}, grammar text → '\n' ∉ text) :
    Decides (fun text => require (scan text) (problem text)) grammar pattern where
  accepts text := by rw [require_eq_ok_iff, scanned]
  finds text := by rw [require_eq_ok_iff, scanned, Expression.finds_whole_iff, matched]
  newline text := by
    rw [ne_eq, require_eq_ok_iff, scanned]
    intro accepted
    exact noNewline accepted (by simp)

/-- Names, passwords, addresses and phone numbers are accepted exactly by their grammars, and a
search for their regular expressions would accept the same. -/
theorem fields_valid_by_grammar :
    Decides validateName NameGrammar namePattern ∧
    Decides (fun text => validatePassword ⟨text⟩) PasswordGrammar passwordPattern ∧
    Decides validateEmail EmailGrammar emailPattern ∧
    Decides validatePhone PhoneGrammar phonePattern :=
  ⟨decides_require isName_iff mem_namePattern_iff NameGrammar.newline_not_mem,
    decides_require isPasswordShaped_iff mem_passwordPattern_iff PasswordGrammar.newline_not_mem,
    decides_require isEmail_iff mem_emailPattern_iff EmailGrammar.newline_not_mem,
    decides_require isPhone_iff mem_phonePattern_iff PhoneGrammar.newline_not_mem⟩

/-- Dots may stand at the ends of a domain that has one inside as well. -/
example : isEmail "a@.b.c." = true ∧ isEmail "a@.b" = false := by decide

end RoleVault.Access
