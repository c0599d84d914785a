import RoleVault.Json.Decode

/-!
Contract: the description of a key in the header of a token.

Owns:
- what a description may say of any key (`commonMembers`), and what each kind of key needs (`kinds`);
- `description`, the reader that checks one; a checked description is not used any further.

Does not own: the header around it (`RoleVault.Session.Claims`).

The members of a description are taken in before any of them is looked at: all of them have to be
readable whatever their names.  The members of any key come first and have failures of their own; the
rest has to describe a key of some kind, and it has only one failure.
-/

namespace RoleVault.Session.Key

open RoleVault.Json

abbrev Members := List (String × Node)

/-! ## Members of any key -/

def algorithms : List String :=
  ["HS256", "HS384", "HS512", "ES256", "ES384", "RS256", "RS384", "RS512", "PS256", "PS384", "PS512",
    "EdDSA", "RSA1_5", "RSA-OAEP", "RSA-OAEP-256"]

/-- The failure unless a name is one of `names`. -/
def knownName (names : List String) (name : String) : Except DecodeError Unit :=
  if name ∈ names then .ok () else .error (.unknownVariant name)

/-- A name out of `names`, written as a text or as an object of one member with nothing in it. -/
def nameOf (names : List String) : Decoder Unit
  | .text (.ok name) => knownName names name
  | .object [(.text (.ok name), value)] _ => do
    knownName names name
    match value with
    | .null | .object [] _ => return
    | _ => throw .invalidType
  | .object _ _ => .error .invalidValue
  | _ => .error .invalidType

/-- The members that any key may have, each of them possibly null. -/
def commonMembers : List Decoder.FieldCheck :=
  let optional {α : Type} (name : String) (value : Decoder α) :=
    Decoder.field name (Decoder.optional value)
  [optional "use" Decoder.text,
    optional "key_ops" (Decoder.list Decoder.text),
    optional "alg" (nameOf algorithms),
    optional "kid" Decoder.text,
    optional "x5u" Decoder.text,
    optional "x5c" (Decoder.list Decoder.text),
    optional "x5t" Decoder.text,
    optional "x5t#S256" Decoder.text]

def commonMember? (name : String) : Option Decoder.FieldCheck :=
  commonMembers.find? fun member => member.name == name

/-- Checks the common members in the order in which they are written; `seen` holds the names met
before. -/
def checkCommon (seen : List String) : Members → Except DecodeError Unit
  | [] => .ok ()
  | (name, value) :: rest =>
    match commonMember? name with
    | none => checkCommon seen rest
    | some member => do
      if seen.contains name then throw (.duplicateField name)
      member.check value
      checkCommon (name :: seen) rest

/-! ## Kinds of keys -/

inductive Part where
  | text
  /-- One of several names, as a text or as an object with null under the name. -/
  | oneOf (names : List String)

/-- Whether a value is what a member has to be. -/
def Part.accepts : Part → Node → Bool
  | .text, .text (.ok _) => true
  | .oneOf names, .text (.ok name) => names.contains name
  | .oneOf names, .object [(.text (.ok name), .null)] _ => names.contains name
  | _, _ => false

def curves : List String := ["P-256", "P-384", "P-521", "Ed25519"]

def kinds : List (List (String × Part)) :=
  [[("kty", .oneOf ["EC"]), ("crv", .oneOf curves), ("x", .text), ("y", .text)],
    [("kty", .oneOf ["RSA"]), ("n", .text), ("e", .text)],
    [("kty", .oneOf ["oct"]), ("k", .text)],
    [("kty", .oneOf ["OKP"]), ("crv", .oneOf curves), ("x", .text)]]

/-- Whether members describe a key of a kind: they have each of its members once. -/
def isOfKind (members : Members) (kind : List (String × Part)) : Bool :=
  kind.all fun (name, part) =>
    match members.filter fun (other, _) => other == name with
    | [(_, value)] => part.accepts value
    | _ => false

/-! ## Descriptions -/

def namedMember? : Node × Node → Option (String × Node)
  | (.text (.ok name), value) => some (name, value)
  | _ => none

def description : Decoder Unit := fun node =>
  match node with
  | .object members _ => do
    if !node.isReadable (Node.maxDepth - 1) then throw .unreadable
    let named := members.filterMap namedMember?
    checkCommon [] named
    if !kinds.any (isOfKind named) then throw .unreadable
  | _ => .error (Decoder.mismatch node)

end RoleVault.Session.Key
