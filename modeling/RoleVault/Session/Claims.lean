import RoleVault.Access.Basic
import RoleVault.Identity
import RoleVault.Json.Decode
import RoleVault.Json.Value
import RoleVault.Session.Key
import RoleVault.Time.Rfc3339

/-!
Contract: what a session token says, and how it is written in JSON.

Owns:
- the header and the claims of a token with their writers and readers;
- the facts about a caller in JSON, as a trusted peer passes them on (`Identity.encode`,
  `Identity.decode`).

Does not own: descriptions of keys in a header (`RoleVault.Session.Key`), the registered claims
(`RoleVault.Session.Registered`), signatures and the times at which a token counts
(`RoleVault.Session.Token`).
-/

namespace RoleVault

open RoleVault.Json RoleVault.Text RoleVault.Time

/-! ## The caller -/

namespace Identity

def toValue (identity : Identity) : Value :=
  .object [
    ("user_id", .text identity.id.text),
    ("name", .text identity.name),
    ("display_name", .text identity.displayName),
    ("group_id", .integer identity.group.toInt),
    ("roles", .array (identity.roles.map fun role => .text role.name))]

/-- A level of privilege by its canonical name. -/
def role : Decoder Role :=
  Decoder.choice Role.ofName?

def decoder : Decoder Identity := fun node => do
  let found ← Decoder.fields [
    Decoder.field "user_id" Decoder.userId,
    Decoder.field "name" Decoder.text,
    Decoder.field "display_name" Decoder.text,
    Decoder.field "group_id" Decoder.int64,
    Decoder.field "roles" (Decoder.list role)] node
  return {
    id := ← Decoder.required found "user_id" Decoder.userId
    name := ← Decoder.required found "name" Decoder.text
    displayName := ← Decoder.required found "display_name" Decoder.text
    group := ← Decoder.required found "group_id" Decoder.int64
    roles := ← Decoder.required found "roles" (Decoder.list role) }

def encode (identity : Identity) : String :=
  identity.toValue.render

def decode (text : String) : Except AccessError Identity :=
  match decodeBytes decoder (Utf8.encode text) with
  | .ok identity => .ok identity
  | .error failure => .error (.tokenMalformed failure.message)

end Identity

def Role.decode (text : String) : Except DecodeError Role :=
  decodeBytes Identity.role (Utf8.encode text)

namespace Session

/-! ## Header -/

inductive Algorithm where
  /-- HMAC with SHA-256, the only one that this library signs with and accepts. -/
  | hs256
  | other (name : String)
deriving DecidableEq, Repr

def Algorithm.ofName? (name : String) : Option Algorithm :=
  if name = "HS256" then some .hs256
  else if name ∈ ["HS384", "HS512", "ES256", "ES384", "RS256", "RS384", "RS512", "PS256", "PS384",
      "PS512", "EdDSA"] then some (.other name)
  else none

def header : Value :=
  .object [("typ", .text "JWT"), ("alg", .text "HS256")]

def headerText (name : String) : Decoder.FieldCheck :=
  Decoder.field name (Decoder.optional Decoder.text)

open Decoder in
def headerDecoder : Decoder Algorithm := fun node => do
  let found ← fields [
    headerText "typ",
    field "alg" (choice Algorithm.ofName?),
    headerText "cty",
    headerText "jku",
    field "jwk" (optional Key.description),
    headerText "kid",
    headerText "x5u",
    field "x5c" (optional (list text)),
    headerText "x5t",
    headerText "x5t#S256"] node
  required found "alg" (choice Algorithm.ofName?)

/-! ## Claims -/

/-- Whom a token is about.  The role names are kept as written. -/
structure Subject where
  id : UserId
  name : String
  displayName : String
  group : GroupId
  roleNames : List String
  issuedAt : Instant
  expiresAt : Instant
deriving DecidableEq, Repr

/-- What a token says: its subject, and in whole seconds when it was issued, from when and until
when it counts. -/
structure Claims where
  subject : Subject
  issued : Int64
  notBefore : Int64
  expires : Int64
deriving DecidableEq, Repr

namespace Subject

def toValue (subject : Subject) : Value :=
  .object [
    ("user_id", .text subject.id.text),
    ("name", .text subject.name),
    ("display_name", .text subject.displayName),
    ("group_id", .integer subject.group.toInt),
    ("roles", .array (subject.roleNames.map .text)),
    ("issued_at", .text (Rfc3339.renderZulu subject.issuedAt)),
    ("expires_at", .text (Rfc3339.renderZulu subject.expiresAt))]

/-- A point in time, in the looser form. -/
def instant : Decoder Instant :=
  Decoder.parsed Rfc3339.parseLenient? .unreadable

open Decoder in
def decoder : Decoder Subject := fun node => do
  let found ← fields [
    field "user_id" userId,
    field "name" text,
    field "display_name" text,
    field "group_id" int64,
    field "roles" (list text),
    field "issued_at" instant,
    field "expires_at" instant] node
  return {
    id := ← required found "user_id" userId
    name := ← required found "name" text
    displayName := ← required found "display_name" text
    group := ← required found "group_id" int64
    roleNames := ← required found "roles" (list text)
    issuedAt := ← required found "issued_at" instant
    expiresAt := ← required found "expires_at" instant }

end Subject

namespace Claims

def toValue (claims : Claims) : Value :=
  .object [
    ("info", claims.subject.toValue),
    ("iat", .integer claims.issued.toInt),
    ("nbf", .integer claims.notBefore.toInt),
    ("exp", .integer claims.expires.toInt)]

open Decoder in
def decoder : Decoder Claims := fun node => do
  let found ← fields [
    field "info" Subject.decoder,
    field "iat" int64,
    field "nbf" int64,
    field "exp" int64] node
  return {
    subject := ← required found "info" Subject.decoder
    issued := ← required found "iat" int64
    notBefore := ← required found "nbf" int64
    expires := ← required found "exp" int64 }

end Claims

end Session

end RoleVault
