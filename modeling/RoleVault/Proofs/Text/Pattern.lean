import Mathlib.Computability.Language
import RoleVault.Text.Scan

/-!
Contract: regular expressions, and the texts in which they are found.

Owns:
- sets of characters by their ranges, and that the classes of characters are such sets;
- patterns, and their languages;
- `Expression.finds_whole_iff`: bound to both ends, an expression is found where the whole text is
  in the language;
- `Pattern.mem_run_iff`, the language of a repeated set.

Does not own: the expressions that field rules are given by (`RoleVault.Proofs.Access.Grammar`).
-/

namespace RoleVault.Text

open RoleVault.Text.CharClass

/-! ## Sets of characters -/

/-- Some ranges of characters, each with both its ends. -/
abbrev Ranges := List (Char × Char)

namespace Ranges

/-- Whether a character is within one of the ranges. -/
def holds (ranges : Ranges) (char : Char) : Bool :=
  ranges.any fun (low, high) => low ≤ char && char ≤ high

/-- The ranges `A-Z` and `a-z`. -/
def letters : Ranges := [('A', 'Z'), ('a', 'z')]

/-- The range `0-9`. -/
def digits : Ranges := [('0', '9')]

/-- A range for each of some characters. -/
def singles (chars : List Char) : Ranges :=
  chars.map fun char => (char, char)

def whiteSpace : Ranges :=
  [('\x09', '\x0d'), (' ', ' '), ('\x85', '\x85'), ('\xa0', '\xa0'), ('\u1680', '\u1680'),
    ('\u2000', '\u200a'), ('\u2028', '\u2029'), ('\u202f', '\u202f'), ('\u205f', '\u205f'),
    ('\u3000', '\u3000')]

theorem le_iff_toNat_le {left right : Char} : left ≤ right ↔ left.toNat ≤ right.toNat :=
  .rfl

@[simp] theorem holds_append (left right : Ranges) (char : Char) :
    holds (left ++ right) char = (holds left char || holds right char) :=
  List.any_append

@[simp] theorem holds_letters (char : Char) : holds letters char = isLetter char := by
  simp [holds, letters, isLetter, Bool.or_comm]

@[simp] theorem holds_digits (char : Char) : holds digits char = isDigit char := by
  simp [holds, digits, isDigit]

@[simp] theorem holds_singles (chars : List Char) (char : Char) :
    holds (singles chars) char = chars.contains char := by
  induction chars with
  | nil => rfl
  | cons first rest inductionHypothesis =>
    have single : (first ≤ char && char ≤ first) = (char == first) := by
      rw [Bool.eq_iff_iff, Bool.and_eq_true, decide_eq_true_eq, decide_eq_true_eq, beq_iff_eq]
      exact ⟨fun ⟨least, most⟩ => Char.le_antisymm most least,
        fun same => same ▸ ⟨Char.le_refl _, Char.le_refl _⟩⟩
    rw [List.contains_cons, ← inductionHypothesis, ← single]
    rfl

@[simp] theorem holds_whiteSpace (char : Char) : holds whiteSpace char = isBlank char := by
  rw [Bool.eq_iff_iff]
  simp only [holds, whiteSpace, isBlank, List.any_cons, List.any_nil, Bool.or_false,
    Bool.or_eq_true, Bool.and_eq_true, decide_eq_true_eq, beq_iff_eq, le_iff_toNat_le,
    Char.reduceToNat]
  omega

end Ranges

/-- A set of characters: those within some ranges, or those outside all of them. -/
structure CharSet where
  ranges : Ranges
  complemented : Bool

namespace CharSet

def contains (set : CharSet) (char : Char) : Bool :=
  set.ranges.holds char != set.complemented

@[simp] theorem contains_within (ranges : Ranges) (char : Char) :
    contains ⟨ranges, false⟩ char = ranges.holds char :=
  Bool.bne_false _

@[simp] theorem contains_outside (ranges : Ranges) (char : Char) :
    contains ⟨ranges, true⟩ char = !ranges.holds char :=
  Bool.bne_true _

end CharSet

/-! ## Patterns -/

/-- What a regular expression matches between its anchors. -/
inductive Pattern where
  /-- A character of the set. -/
  | one (set : CharSet)
  /-- The first pattern, and right after it the second. -/
  | followed (first second : Pattern)
  /-- The pattern at least and at most so many times in a row. -/
  | repeated (pattern : Pattern) (least : Nat) (most : Option Nat)

namespace Pattern

/-- The texts that a pattern matches from their beginning to their end. -/
def language : Pattern → Language Char
  | one set => {text | ∃ char, set.contains char = true ∧ text = [char]}
  | followed first second => first.language * second.language
  | repeated pattern least most =>
    {text | ∃ count, least ≤ count ∧ (∀ bound ∈ most, count ≤ bound) ∧
      text ∈ pattern.language ^ count}

variable {text : List Char}

theorem mem_one_iff {set : CharSet} :
    text ∈ (one set).language ↔ ∃ char, set.contains char = true ∧ text = [char] :=
  .rfl

/-- What matches one pattern after another falls into two parts that match. -/
theorem mem_followed_iff {first second : Pattern} :
    text ∈ (followed first second).language ↔
      ∃ left ∈ first.language, ∃ right ∈ second.language, left ++ right = text :=
  Language.mem_mul

private theorem mem_repeated_iff {pattern : Pattern} {least : Nat} {most : Option Nat} :
    text ∈ (repeated pattern least most).language ↔
      ∃ count, least ≤ count ∧ (∀ bound ∈ most, count ≤ bound) ∧
        text ∈ pattern.language ^ count :=
  .rfl

/-- So many characters of a set in a row are a text of that length. -/
theorem mem_one_pow_iff {set : CharSet} {count : Nat} :
    text ∈ (one set).language ^ count ↔
      text.length = count ∧ ∀ char ∈ text, set.contains char = true := by
  induction count generalizing text with
  | zero =>
    rw [pow_zero, Language.mem_one]
    cases text <;> simp
  | succ count inductionHypothesis =>
    rw [pow_succ', Language.mem_mul]
    cases text with
    | nil => simp [mem_one_iff]
    | cons first rest => simp [mem_one_iff, inductionHypothesis, and_left_comm]

/-- A set in a row: any text of its characters whose length is within the bounds. -/
theorem mem_run_iff {set : CharSet} {least : Nat} {most : Option Nat} :
    text ∈ (repeated (one set) least most).language ↔
      (∀ char ∈ text, set.contains char = true) ∧ least ≤ text.length ∧
        ∀ bound ∈ most, text.length ≤ bound := by
  simp only [mem_repeated_iff, mem_one_pow_iff]
  constructor
  · rintro ⟨_, enough, few, rfl, inside⟩
    exact ⟨inside, enough, few⟩
  · rintro ⟨inside, enough, few⟩
    exact ⟨text.length, enough, few, rfl, inside⟩

end Pattern

/-! ## Expressions -/

/-- A regular expression that is searched for in texts: a pattern, bound to the beginning and to the
end of the text where it is anchored there. -/
structure Expression where
  pattern : Pattern
  fromStart : Bool
  toEnd : Bool

namespace Expression

/-- An expression is found in a text where its pattern matches some part of it.  An anchor at the
end stands for the very end: not even a line break may follow. -/
def Finds (expression : Expression) (text : String) : Prop :=
  ∃ before part after, text.toList = before ++ part ++ after ∧
    (expression.fromStart = true → before = []) ∧ (expression.toEnd = true → after = []) ∧
    part ∈ expression.pattern.language

/-- A pattern with anchors on both sides. -/
def whole (pattern : Pattern) : Expression :=
  ⟨pattern, true, true⟩

/-- A pattern with both anchors is found in a text that matches it as a whole. -/
theorem finds_whole_iff {pattern : Pattern} {text : String} :
    (whole pattern).Finds text ↔ text.toList ∈ pattern.language := by
  constructor
  · rintro ⟨before, part, after, split, start, finish, matched⟩
    rwa [split, start rfl, finish rfl, List.nil_append, List.append_nil]
  · intro matched
    exact ⟨[], text.toList, [], by simp, fun _ => rfl, fun _ => rfl, matched⟩

end Expression

end RoleVault.Text
