import RoleVault.Access.Basic
import RoleVault.Secret
import RoleVault.Text.Scan

/-!
Contract: the rules that the fields of a request have to meet.

Owns:
- the shape of names, passwords, display names, addresses, phone numbers and notes;
- the wording of each broken rule;
- the order in which the fields of a user request are looked at.

Does not own: who may send the request (`RoleVault.Access.Gate`).

The rules look at the field alone, so a malformed field is refused before any permission is
considered.
-/

namespace RoleVault.Access

open RoleVault.Text.CharClass

inductive FieldProblem where
  | name (given : String)
  | password
  | displayNameLength
  | displayNameControl
  | email (given : String)
  | phone (given : String)
  | noteLength
deriving DecidableEq, Repr

/-- The most characters of a display name. -/
def maxDisplayName : Nat := 64

/-- The most characters of the note on a role or group. -/
def maxNote : Nat := 256

namespace FieldProblem

def message : FieldProblem → String
  | name given =>
    s!"name '{given}' must start with a letter and be 3-32 characters of letters, digits, '_', '.' or '-'"
  | password => "password must be 8-18 characters of letters, digits, '_' or '-'"
  | displayNameLength => s!"display name must be 1-{maxDisplayName} characters"
  | displayNameControl => "display name must not contain control characters"
  | email given => s!"invalid email address '{given}'"
  | phone given => s!"invalid phone number '{given}'"
  | noteLength => s!"annotation must be at most {maxNote} characters"

def toError (problem : FieldProblem) : AccessError :=
  .invalidInput problem.message

end FieldProblem

/-- Success where the rule holds, the failure of the request where it is broken. -/
def require (holds : Bool) (problem : FieldProblem) : Except AccessError Unit :=
  if holds then .ok () else .error problem.toError

/-! ## Names and passwords -/

/-- The characters of a name after its first. -/
def isNameChar (char : Char) : Bool :=
  isAlphanumeric char || char == '_' || char == '.' || char == '-'

/-- A letter, then two to thirty-one characters of a name. -/
def isName (text : String) : Bool :=
  match text.toList with
  | [] => false
  | first :: rest =>
    isLetter first && rest.all isNameChar && 2 ≤ rest.length && rest.length ≤ 31

def validateName (name : String) : Except AccessError Unit :=
  require (isName name) (.name name)

def isPasswordChar (char : Char) : Bool :=
  isAlphanumeric char || char == '_' || char == '-'

/-- Eight to eighteen characters of a password.  The shape also tells a stored plaintext password
from a sealed one. -/
def isPasswordShaped (text : String) : Bool :=
  text.toList.all isPasswordChar && 8 ≤ text.toList.length && text.toList.length ≤ 18

def validatePassword (password : Secret) : Except AccessError Unit :=
  require (isPasswordShaped password.expose) .password

/-! ## Profile fields -/

/-- A display name has one to sixty-four characters, none of them a control character; the length
is looked at first. -/
def validateDisplayName (displayName : String) : Except AccessError Unit := do
  let chars := displayName.toList
  require (0 < chars.length && chars.length ≤ maxDisplayName) .displayNameLength
  require (!chars.any isControl) .displayNameControl

/-- The characters that may stand on either side of the at sign. -/
def isAddressChar (char : Char) : Bool :=
  char != '@' && !isBlank char

/-- A domain has a dot that is neither its first nor its last character. -/
def isDomain (chars : List Char) : Bool :=
  chars.all isAddressChar && chars.tail.dropLast.contains '.'

/-- A local part, an at sign and a domain, without blanks or a further at sign. -/
def isEmail (text : String) : Bool :=
  let chars := text.toList
  let localPart := chars.takeWhile (· != '@')
  !localPart.isEmpty && localPart.all isAddressChar &&
    match chars.dropWhile (· != '@') with
    | [] => false
    | _ :: domain => isDomain domain

def validateEmail (email : String) : Except AccessError Unit :=
  require (isEmail email) (.email email)

/-- The characters of a phone number after its first digit. -/
def isPhoneChar (char : Char) : Bool :=
  isDigit char || char == ' ' || char == '-'

/-- The text without a leading plus sign. -/
def dropPlus : List Char → List Char
  | '+' :: rest => rest
  | chars => chars

/-- An optional plus sign, a digit, then five to nineteen digits, spaces or hyphens. -/
def isPhone (text : String) : Bool :=
  match dropPlus text.toList with
  | [] => false
  | first :: rest =>
    isDigit first && rest.all isPhoneChar && 5 ≤ rest.length && rest.length ≤ 19

def validatePhone (phone : String) : Except AccessError Unit :=
  require (isPhone phone) (.phone phone)

def validateNote (note : String) : Except AccessError Unit :=
  require (note.toList.length ≤ maxNote) .noteLength

/-! ## The fields of a request -/

structure UserFields where
  name : Option String := none
  password : Option Secret := none
  displayName : Option String := none
  email : Option String := none
  phone : Option String := none
deriving DecidableEq, Repr

/-- A field that is not supplied breaks no rule. -/
def whenSupplied {α : Type} (validate : α → Except AccessError Unit) :
    Option α → Except AccessError Unit
  | none => .ok ()
  | some value => validate value

/-- Checks the supplied fields, in the order of the record. -/
def UserFields.validate (fields : UserFields) : Except AccessError Unit := do
  whenSupplied validateName fields.name
  whenSupplied validatePassword fields.password
  whenSupplied validateDisplayName fields.displayName
  whenSupplied validateEmail fields.email
  whenSupplied validatePhone fields.phone

end RoleVault.Access
