import RoleVault.Digest
import RoleVault.Secret
import RoleVault.Session.Claims
import RoleVault.Session.Registered
import RoleVault.Text.Base64

/-!
Contract: session tokens.

Owns:
- signing the facts about a caller for a span of time (`issue`);
- verifying a token at a point in time (`verify`), with the first reason to refuse it;
- the names of the headers that carry a token or the facts alone.

Does not own: who gets a token and for how long (`RoleVault.Accounts.Sessions`).

A token is three base64 parts with dots between: header, claims, and the keyed digest of the text
before it.  The checks follow this order: parts, header, algorithm, signature, claims, expiry, start,
audience, role names, times.  So no unsigned token is ever reported as expired.
-/

namespace RoleVault.Session

open RoleVault.Json RoleVault.Text RoleVault.Time

def tokenHeader : String := "x-subject-token"

def infoHeader : String := "x-subject-info"

/-- The seconds by which clocks may differ. -/
def leeway : Int := 5

/-! ## Signing -/

/-- A key to sign with; it is not empty. -/
structure SigningKey where
  secret : Secret
  ne_empty : secret.isEmpty = false
deriving DecidableEq

/-- The key of a secret, unless the secret is empty. -/
def SigningKey.ofSecret (secret : Secret) : Except AccessError SigningKey :=
  match filled : secret.isEmpty with
  | true => .error (.configuration "session token signing secret is empty")
  | false => .ok ⟨secret, filled⟩

def SigningKey.sign (key : SigningKey) (text : String) : String :=
  Base64.encode Base64.urlSafe (Digest.Hmac.digest (Utf8.encode key.secret.expose) (Utf8.encode text))

def part (value : Value) : String :=
  Base64.encode Base64.urlSafe (Utf8.encode value.render)

def Claims.sign (claims : Claims) (key : SigningKey) : String :=
  let body := part header ++ "." ++ part claims.toValue
  body ++ "." ++ key.sign body

def claimsFor (identity : Identity) (issuedAt expiresAt : Instant) : Claims where
  subject := {
    id := identity.id
    name := identity.name
    displayName := identity.displayName
    group := identity.group
    roleNames := identity.roles.map Role.name
    issuedAt := issuedAt
    expiresAt := expiresAt }
  issued := Int64.ofInt issuedAt.seconds
  notBefore := Int64.ofInt issuedAt.seconds
  expires := Int64.ofInt expiresAt.seconds

def issue (key : SigningKey) (identity : Identity) (issuedAt expiresAt : Instant) :
    Except AccessError String :=
  if issuedAt.isBefore expiresAt then .ok ((claimsFor identity issuedAt expiresAt).sign key)
  else .error (.invalidInput "token must expire after it is issued")

/-! ## Verifying -/

inductive Malformation where
  | parts
  | base64 (fault : Base64.DecodeError)
  | json (failure : DecodeError)
  | algorithm
  /-- An expiry before 1970 does not count as one. -/
  | noExpiry
  | notYetValid
  | audience
  | role (name : String)
  | time (seconds : Int64)
deriving DecidableEq, Repr

def Malformation.message : Malformation → String
  | parts => "InvalidToken"
  | base64 fault => "Base64 error: " ++ fault.message
  | json failure => "JSON error: " ++ failure.message
  | algorithm => "InvalidAlgorithm"
  | noExpiry => "Missing required claim: exp"
  | notYetValid => "ImmatureSignature"
  | audience => "InvalidAudience"
  | role name => (AccessError.unknownRole name).message
  | time seconds => s!"timestamp {seconds} out of range"

inductive Refusal where
  | malformed (reason : Malformation)
  | signature
  | expired
deriving DecidableEq, Repr

def Refusal.toError : Refusal → AccessError
  | malformed reason => .tokenMalformed reason.message
  | signature => .tokenSignatureInvalid
  | expired => .tokenExpired

structure Verified where
  identity : Identity
  issuedAt : Instant
  expiresAt : Instant
deriving DecidableEq, Repr

/-- The texts before and after the last dot, if there is one. -/
def splitLast? (chars : List Char) : Option (List Char × List Char) :=
  let reversed := chars.reverse
  match reversed.dropWhile (· != '.') with
  | [] => none
  | _ :: before => some (before.reverse, (reversed.takeWhile (· != '.')).reverse)

/-- The three parts of a token: header, claims and signature. -/
structure Parts where
  header : String
  claims : String
  signature : String
deriving DecidableEq, Repr

def Parts.body (parts : Parts) : String :=
  parts.header ++ "." ++ parts.claims

/-- The parts of a text; the first of them may hold further dots. -/
def Parts.ofText? (text : String) : Option Parts := do
  let (body, signature) ← splitLast? text.toList
  let (header, claims) ← splitLast? body
  return ⟨String.ofList header, String.ofList claims, String.ofList signature⟩

def partBytes (part : String) : Except Refusal (List UInt8) :=
  (Base64.decode Base64.urlSafe part).mapError fun fault => .malformed (.base64 fault)

/-- What is read from the bytes of a part, or why they say nothing. -/
def readAs {α : Type} (result : Except DecodeError α) : Except Refusal α :=
  result.mapError fun failure => .malformed (.json failure)

/-- Checks the times of claims and their audience at a point in time, in seconds. -/
def checkTimes (claims : Claims) (named : Bool) (now : Int) : Except Refusal Unit := do
  if claims.expires.toInt < 0 then throw (.malformed .noExpiry)
  if claims.expires.toInt < now - leeway then throw .expired
  if claims.notBefore.toInt > now + leeway then throw (.malformed .notYetValid)
  if named then throw (.malformed .audience)

def instantOf (seconds : Int64) : Except Refusal Instant :=
  match Instant.ofUnix? seconds.toInt 0 with
  | some instant => .ok instant
  | none => .error (.malformed (.time seconds))

def rolesOf (names : List String) : Except Refusal (List Role) :=
  names.mapM fun name =>
    match Role.ofName? name with
    | some role => .ok role
    | none => .error (.malformed (.role name))

def Claims.session (claims : Claims) : Except Refusal Verified := do
  let roles ← rolesOf claims.subject.roleNames
  let issuedAt ← instantOf claims.issued
  let expiresAt ← instantOf claims.expires
  return {
    identity := {
      id := claims.subject.id
      name := claims.subject.name
      displayName := claims.subject.displayName
      group := claims.subject.group
      roles := roles }
    issuedAt := issuedAt
    expiresAt := expiresAt }

/-- The signed claims of a token, whatever their times. -/
def signedClaims (key : SigningKey) (text : String) : Except Refusal (Claims × Bool) := do
  let parts ← match Parts.ofText? text with
    | some parts => pure parts
    | none => throw (.malformed .parts)
  let algorithm ← readAs (decodeBytes headerDecoder (← partBytes parts.header))
  if algorithm ≠ .hs256 then throw (.malformed .algorithm)
  if parts.signature ≠ key.sign parts.body then throw .signature
  let bytes ← partBytes parts.claims
  let claims ← readAs (decodeBytes Claims.decoder bytes)
  let named ← readAs (Registered.namesAudience bytes)
  return (claims, named)

/-- The session of a token at a point in time, given in seconds. -/
def inspect (key : SigningKey) (now : Int) (text : String) : Except Refusal Verified := do
  let (claims, named) ← signedClaims key text
  checkTimes claims named now
  claims.session

/-- Verifies a token at a point in time, given in seconds. -/
def verify (key : SigningKey) (now : Int) (text : String) : Except AccessError Verified :=
  (inspect key now text).mapError Refusal.toError

end RoleVault.Session
