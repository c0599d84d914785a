import RoleVault.Identity

/-!
Contract: levels of privilege and identifiers of users.

Owns:
- the order of levels as the order of their ranks, and what the highest of a list depends on:
  `atLeast_highest_iff` and `highest_congr` say that only the levels in the list matter, not their
  order or number;
- `ofText?_text`: the canonical text of an identifier reads back, so that it names no other one.

Does not own: which levels a user holds, or the other spellings of an identifier.
-/

namespace RoleVault.Role

variable {left right role : Role} {roles others : List Role}

private theorem atLeast_iff : left.atLeast right = true ↔ right.rank ≤ left.rank := by
  simp [atLeast]

private theorem rank_injective (same : left.rank = right.rank) : left = right := by
  cases left <;> cases right <;> first | rfl | cases same

/-- A name is read as a level only if it is the canonical one. -/
theorem ofName?_eq_some_iff {name : String} : ofName? name = some role ↔ name = role.name := by
  constructor
  · intro known
    have passed := List.find?_some known
    exact (beq_iff_eq.mp passed).symm
  · rintro rfl
    exact ofName?_name role

@[simp] theorem atLeast_self (role : Role) : role.atLeast role = true := by
  simp [atLeast_iff]

@[simp] theorem atLeast_user (role : Role) : role.atLeast .user = true := by
  cases role <;> decide

@[simp] theorem operator_atLeast (role : Role) : Role.operator.atLeast role = true := by
  cases role <;> decide

theorem atLeast_trans {upper middle lower : Role} (first : upper.atLeast middle = true)
    (second : middle.atLeast lower = true) : upper.atLeast lower = true := by
  rw [atLeast_iff] at *
  exact Nat.le_trans second first

theorem atLeast_antisymm (first : left.atLeast right = true) (second : right.atLeast left = true) :
    left = right := by
  rw [atLeast_iff] at first second
  exact rank_injective (Nat.le_antisymm second first)

private theorem atLeast_max_iff : role.atLeast (max left right) = true ↔
    role.atLeast left = true ∧ role.atLeast right = true := by
  cases role <;> cases left <;> cases right <;> decide

private theorem atLeast_foldl_max_iff (start : Role) :
    role.atLeast (roles.foldl max start) = true ↔
      role.atLeast start = true ∧ ∀ held ∈ roles, role.atLeast held = true := by
  induction roles generalizing start with
  | nil => simp
  | cons first rest inductionHypothesis =>
    rw [List.foldl_cons, inductionHypothesis, atLeast_max_iff, List.forall_mem_cons, and_assoc]

/-- A level reaches the highest of a list where it reaches all of them. -/
theorem atLeast_highest_iff :
    role.atLeast (highest roles) = true ↔ ∀ held ∈ roles, role.atLeast held = true := by
  simp [highest, atLeast_foldl_max_iff]

/-- The highest level of a list reaches each of the list. -/
theorem highest_atLeast_of_mem (member : role ∈ roles) : (highest roles).atLeast role = true :=
  atLeast_highest_iff.mp (atLeast_self _) role member

/-- More roles do not lower the highest level. -/
theorem highest_atLeast_of_subset (included : ∀ held ∈ roles, held ∈ others) :
    (highest others).atLeast (highest roles) = true :=
  atLeast_highest_iff.mpr fun held member => highest_atLeast_of_mem (included held member)

/-- The highest of a list depends on nothing but which levels are in it. -/
theorem highest_congr (same : ∀ held, held ∈ roles ↔ held ∈ others) :
    highest roles = highest others :=
  atLeast_antisymm (highest_atLeast_of_subset fun held member => (same held).mpr member)
    (highest_atLeast_of_subset fun held member => (same held).mp member)

/-- Only a list with the operator level has it as its highest. -/
theorem highest_eq_operator_iff : highest roles = .operator ↔ .operator ∈ roles := by
  constructor
  · intro top
    apply Classical.byContradiction
    intro absent
    have bounded : Role.admin.atLeast (highest roles) = true := by
      rw [atLeast_highest_iff]
      intro held member
      cases held with
      | user => rfl
      | admin => rfl
      | operator => exact absurd member absent
    rw [top] at bounded
    exact absurd bounded (by decide)
  · intro member
    exact atLeast_antisymm (highest_atLeast_of_mem member) (operator_atLeast _)

end RoleVault.Role

namespace RoleVault.UserId

open RoleVault.Text

/-- The five groups of digits put together again. -/
private theorem groups_join (digits : List Char) :
    digits.take 8 ++ ((digits.drop 8).take 4 ++ ((digits.drop 12).take 4 ++
      ((digits.drop 16).take 4 ++ digits.drop 20))) = digits := by
  have fourth : (digits.drop 16).take 4 ++ digits.drop 20 = digits.drop 16 := by
    rw [show digits.drop 20 = (digits.drop 16).drop 4 by rw [List.drop_drop],
      List.take_append_drop]
  have third : (digits.drop 12).take 4 ++ digits.drop 16 = digits.drop 12 := by
    rw [show digits.drop 16 = (digits.drop 12).drop 4 by rw [List.drop_drop],
      List.take_append_drop]
  have second : (digits.drop 8).take 4 ++ digits.drop 12 = digits.drop 8 := by
    rw [show digits.drop 12 = (digits.drop 8).drop 4 by rw [List.drop_drop],
      List.take_append_drop]
  rw [fourth, third, second, List.take_append_drop]

private theorem length_hyphenate {digits : List Char} (sized : digits.length = 32) :
    (hyphenate digits).length = 36 := by
  simp [hyphenate, sized]

private theorem unhyphenate?_hyphenate {digits : List Char} (sized : digits.length = 32) :
    unhyphenate? (hyphenate digits) = some digits := by
  simp [unhyphenate?, hyphenate, List.drop_append, List.drop_take, sized,
    groups_join]

theorem length_encode (bytes : List UInt8) : (Hex.encode bytes).length = 2 * bytes.length := by
  induction bytes with
  | nil => rfl
  | cons byte rest inductionHypothesis =>
    simp only [Hex.encode] at inductionHypothesis
    simp [Hex.encode, Hex.ofByte, inductionHypothesis]
    omega

/-- The canonical text reads back. -/
theorem ofText?_text (id : UserId) : ofText? id.text = some id := by
  have sized : (Hex.encode id.bytes).length = 32 := by
    rw [length_encode, id.length_eq]
  have digits : digits? id.text.toList = some (Hex.encode id.bytes) := by
    rw [text, String.toList_ofList, digits?, length_hyphenate sized]
    exact unhyphenate?_hyphenate sized
  simp [ofText?, digits, Hex.decode?_encode, ofBytes?, id.length_eq]

/-- Different identifiers have different texts. -/
theorem text_injective {left right : UserId} (same : left.text = right.text) : left = right := by
  have read := ofText?_text left
  rw [same, ofText?_text] at read
  exact (Option.some.inj read).symm

theorem text_inj {left right : UserId} : left.text = right.text ↔ left = right :=
  ⟨text_injective, fun same => by rw [same]⟩

end RoleVault.UserId
