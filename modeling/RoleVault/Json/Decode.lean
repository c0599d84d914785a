import RoleVault.Identity
import RoleVault.Json.Reader

/-!
Contract: from JSON nodes to the values of records.

Owns:
- the readers of texts, integers, optional values, lists, named choices and records;
- the kinds of failure, of which the leftmost in the document is reported.

Does not own: the records themselves (`RoleVault.Session`).

A record may be written as an object, whose members come in any order and of which unknown ones are
passed over, or as an array of its fields in their declared order.
-/

namespace RoleVault.Json

inductive DecodeError where
  | missingField (name : String)
  | duplicateField (name : String)
  | unknownVariant (name : String)
  | invalidType
  | invalidValue
  | invalidLength
  | invalidUserId
  /-- The writing is broken, or a text is not of the form it should have. -/
  | unreadable
deriving DecidableEq, Repr

namespace DecodeError

/-- The wording of a failure, which says no more than its kind and the name concerned. -/
def message : DecodeError → String
  | missingField name => s!"missing field `{name}`"
  | duplicateField name => s!"duplicate field `{name}`"
  | unknownVariant name => s!"unknown variant `{name}`"
  | invalidType => "invalid type"
  | invalidValue => "invalid value"
  | invalidLength => "invalid length"
  | invalidUserId => "UUID parsing failed"
  | unreadable => "..."

end DecodeError

abbrev Decoder (α : Type) := Node → Except DecodeError α

namespace Decoder

/-- The failure at a value of another type than the expected one.  Texts and numbers are read first
and may turn out broken. -/
def mismatch : Node → DecodeError
  | .broken | .real false | .text (.error _) => .unreadable
  | _ => .invalidType

/-- Any value that is written properly. -/
def skip : Decoder Unit := fun node =>
  if node.isSkippable then .ok () else .error .unreadable

def text : Decoder String
  | .text (.ok content) => .ok content
  | node => .error (mismatch node)

def int64 : Decoder Int64
  | .integer value =>
    if value ≤ Int64.maxValue.toInt then .ok (Int64.ofInt value) else .error .invalidValue
  | node => .error (mismatch node)

def parsed {α : Type} (parse? : String → Option α) (failure : DecodeError) : Decoder α := fun node => do
  match parse? (← text node) with
  | some value => return value
  | none => throw failure

def userId : Decoder UserId :=
  parsed UserId.ofText? .invalidUserId

/-- Nothing, written as null, or a value. -/
def optional {α : Type} (value : Decoder α) : Decoder (Option α)
  | .null => .ok none
  | node => (value node).map some

def each {α : Type} (item : Decoder α) : List Node → Except DecodeError (List α)
  | [] => .ok []
  | node :: rest => do
    let value ← item node
    let values ← each item rest
    return value :: values

def list {α : Type} (item : Decoder α) : Decoder (List α)
  | .array nodes closed => do
    let values ← each item nodes
    if closed then return values else throw .unreadable
  | node => .error (mismatch node)

/-! ## Named choices -/

def choiceNamed {α : Type} (named? : String → Option α) (key : Node) : Except DecodeError α := do
  let name ← text key
  match named? name with
  | some choice => return choice
  | none => throw (.unknownVariant name)

/-- One of several named values, written as its name or as an object with null under that name. -/
def choice {α : Type} (named? : String → Option α) : Decoder α
  | .text content => choiceNamed named? (.text content)
  | .object ((key, value) :: rest) closed => do
    let choice ← choiceNamed named? key
    match value with
    | .null => if rest.isEmpty && closed then return choice else throw .unreadable
    | other => throw (mismatch other)
  | _ => .error .unreadable

/-! ## Records -/

structure FieldCheck where
  name : String
  check : Decoder Unit

def field {α : Type} (name : String) (value : Decoder α) : FieldCheck :=
  ⟨name, fun node => (value node).map fun _ => ()⟩

/-- Checks the members of an object from the left; `seen` holds the fields met before. -/
def checkMembers (fields : List FieldCheck) (seen : List String) :
    List (Node × Node) → Except DecodeError Unit
  | [] => .ok ()
  | (key, value) :: rest => do
    match key with
    | .text (.ok name) =>
      match fields.find? fun field => field.name == name with
      | some field =>
        if seen.contains name then throw (.duplicateField name)
        field.check value
        checkMembers fields (name :: seen) rest
      | none =>
        skip value
        checkMembers fields seen rest
    | _ => throw .unreadable

/-- Checks the items of an array against the fields in their order. -/
def checkItems (closed : Bool) : List FieldCheck → List Node → Except DecodeError Unit
  | [], [] => if closed then .ok () else .error .unreadable
  | [], _ :: _ => .error .unreadable
  | _ :: _, [] => .error (if closed then .invalidLength else .unreadable)
  | field :: fields, node :: rest => do
    field.check node
    checkItems closed fields rest

/-- The values of the fields of a record, by name. -/
abbrev Fields := List (String × Node)

def fields (expected : List FieldCheck) : Decoder Fields
  | .object members closed => do
    checkMembers expected [] members
    if !closed then throw .unreadable
    return members.filterMap fun (key, value) =>
      match key with
      | .text (.ok name) => some (name, value)
      | _ => none
  | .array items closed => do
    checkItems closed expected items
    return (expected.map FieldCheck.name).zip items
  | node => .error (mismatch node)

def required {α : Type} (found : Fields) (name : String) (value : Decoder α) :
    Except DecodeError α :=
  match found.lookup name with
  | some node => value node
  | none => .error (.missingField name)

end Decoder

/-- Decodes a whole document: one value and nothing but blanks after it. -/
def Document.decode {α : Type} (document : Document) (value : Decoder α) : Except DecodeError α := do
  let result ← value document.root
  if document.ended then return result else throw .unreadable

def decodeBytes {α : Type} (value : Decoder α) (bytes : Bytes) : Except DecodeError α :=
  (Document.read bytes).decode value

end RoleVault.Json
