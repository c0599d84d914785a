import RoleVault.Access.Fields

/-!
Contract: the fields of a request one by one, and the first of them that breaks a rule.

Owns:
- `Field`, one field as a request supplies it, and `Field.problem?`, the rule that it breaks;
- `firstProblem?`, the rule that is broken first;
- that each check of fields reports exactly that rule.

Does not own: which fields a request supplies (`RoleVault.Proofs.Accounts.Refusal`).
-/

namespace RoleVault.Access

inductive Field where
  | name (text : String)
  | password (secret : Secret)
  | displayName (text : String)
  | email (text : String)
  | phone (text : String)
  | note (text : String)
deriving DecidableEq, Repr

/-- The rule that a field breaks, if it breaks one.  A display name is measured before it is looked
into. -/
def Field.problem? : Field → Option FieldProblem
  | name text => if isName text then none else some (.name text)
  | password secret => if isPasswordShaped secret.expose then none else some .password
  | displayName text =>
    if text.toList.length = 0 ∨ maxDisplayName < text.toList.length then some .displayNameLength
    else if text.toList.any Text.CharClass.isControl then some .displayNameControl
    else none
  | email text => if isEmail text then none else some (.email text)
  | phone text => if isPhone text then none else some (.phone text)
  | note text => if maxNote < text.toList.length then some .noteLength else none

/-- The rule that the first invalid field breaks. -/
def firstProblem? (fields : List Field) : Option FieldProblem :=
  fields.findSome? Field.problem?

/-- The user fields that a request supplies: name, password, display name, address, phone number. -/
def UserFields.supplied (fields : UserFields) : List Field :=
  (fields.name.map Field.name).toList ++ (fields.password.map Field.password).toList ++
    (fields.displayName.map Field.displayName).toList ++ (fields.email.map Field.email).toList ++
    (fields.phone.map Field.phone).toList

/-- What a check of fields ends with that finds this problem. -/
def reportOf : Option FieldProblem → Except AccessError Unit
  | none => .ok ()
  | some problem => .error problem.toError

/-! ## One field -/

private theorem require_eq (holds : Bool) (problem : FieldProblem) :
    require holds problem = reportOf (if holds then none else some problem) := by
  cases holds <;> rfl

theorem require_eq_ok_iff {holds : Bool} {problem : FieldProblem} :
    require holds problem = .ok () ↔ holds = true := by
  cases holds <;> simp [require]

/-- The check of a name reports the rule that the name breaks, if there is one. -/
theorem validateName_eq (text : String) :
    validateName text = reportOf (Field.problem? (.name text)) :=
  require_eq _ _

private theorem validatePassword_eq (secret : Secret) :
    validatePassword secret = reportOf (Field.problem? (.password secret)) :=
  require_eq _ _

private theorem validateDisplayName_eq (text : String) :
    validateDisplayName text = reportOf (Field.problem? (.displayName text)) := by
  simp only [validateDisplayName, require_eq, Field.problem?]
  by_cases fits : 0 < text.toList.length ∧ text.toList.length ≤ maxDisplayName
  · have measured : ¬ (text.toList.length = 0 ∨ maxDisplayName < text.toList.length) := by omega
    simp only [if_neg measured, fits, decide_true, Bool.and_self, if_true]
    cases text.toList.any Text.CharClass.isControl <;> rfl
  · have measured : text.toList.length = 0 ∨ maxDisplayName < text.toList.length := by omega
    have outside : (0 < text.toList.length && text.toList.length ≤ maxDisplayName) = false := by
      rw [Bool.and_eq_false_iff, decide_eq_false_iff_not, decide_eq_false_iff_not]
      omega
    rw [if_pos measured, outside]
    rfl

private theorem validateEmail_eq (text : String) :
    validateEmail text = reportOf (Field.problem? (.email text)) :=
  require_eq _ _

private theorem validatePhone_eq (text : String) :
    validatePhone text = reportOf (Field.problem? (.phone text)) :=
  require_eq _ _

theorem validateNote_eq (text : String) :
    validateNote text = reportOf (Field.problem? (.note text)) := by
  rw [validateNote, require_eq, Field.problem?]
  by_cases fits : text.toList.length ≤ maxNote
  · rw [if_pos (decide_eq_true fits), if_neg (Nat.not_lt.mpr fits)]
  · rw [if_neg (by simpa using fits), if_pos (Nat.lt_of_not_le fits)]

/-! ## Several fields -/

variable {α : Type}

/-- A field that is not supplied is none of those that are looked at. -/
theorem whenSupplied_eq {validate : α → Except AccessError Unit} {field : α → Field}
    (checks : ∀ value, validate value = reportOf (field value).problem?) (value? : Option α) :
    whenSupplied validate value? = reportOf (firstProblem? (value?.map field).toList) := by
  cases value? with
  | none => rfl
  | some value =>
    simp only [whenSupplied, checks, Option.map_some, Option.toList_some, firstProblem?,
      List.findSome?_cons, List.findSome?_nil]
    cases (field value).problem? <;> rfl

/-- Of two groups of fields, the second is looked at where the first is valid. -/
theorem reportOf_append (first second : List Field) :
    (do reportOf (firstProblem? first); reportOf (firstProblem? second)) =
      reportOf (firstProblem? (first ++ second)) := by
  simp only [firstProblem?, List.findSome?_append]
  cases first.findSome? Field.problem? <;> rfl

/-- A check of user fields reports the first rule that one of them breaks. -/
theorem UserFields.validate_eq (fields : UserFields) :
    fields.validate = reportOf (firstProblem? fields.supplied) := by
  simp only [validate, supplied, whenSupplied_eq validateName_eq,
    whenSupplied_eq validatePassword_eq, whenSupplied_eq validateDisplayName_eq,
    whenSupplied_eq validateEmail_eq, whenSupplied_eq validatePhone_eq, ← reportOf_append,
    bind_assoc]

end RoleVault.Access
