import RoleVault.Accounts.Users
import RoleVault.Session.Token

/-!
Contract: sessions of users.

Owns: how long a session lasts, logging in, and resolving a token.

Does not own: the tokens themselves (`RoleVault.Session.Token`) or checking a password
(`RoleVault.Accounts.Users`).
-/

namespace RoleVault.Accounts

open RoleVault.Session RoleVault.Time

/-- How sessions are signed, and how many minutes they last: where nothing else is asked for, and at
the most. -/
structure SessionPolicy where
  key : SigningKey
  standardTtl : Nat
  maximumTtl : Nat

structure IssuedToken where
  token : String
  session : Verified
deriving DecidableEq, Repr

/-- The minutes that a session lasts: those asked for, or else the standard, but at least one and at
most the maximum. -/
def effectiveTtl (standardTtl maximumTtl : Nat) (requested : Option Nat) : Nat :=
  min (max (requested.getD standardTtl) 1) (max maximumTtl 1)

namespace SessionPolicy

/-- The end of a session that begins now.  There is none where it would lie beyond all dates. -/
def expiry (issuedAt : Instant) (minutes : Nat) : Except AccessError Instant :=
  match issuedAt.addMinutes? minutes with
  | some expiresAt => .ok expiresAt
  | none => .error (.invalidInput s!"token lifetime of {minutes} minutes is out of range")

/-- A token for a caller, as it reads back at once. -/
def issueFor (policy : SessionPolicy) (now : Instant) (identity : Identity)
    (requested : Option Nat) : Except AccessError IssuedToken := do
  let expiresAt ← expiry now (effectiveTtl policy.standardTtl policy.maximumTtl requested)
  let token ← issue policy.key identity now expiresAt
  let session ← verify policy.key now.seconds token
  return ⟨token, session⟩

def login (policy : SessionPolicy) (context : Context) (name : String) (password : Secret)
    (requested : Option Nat) : Action IssuedToken := do
  let identity ← Users.authenticate context name password
  Action.check (policy.issueFor context.now identity requested)

def resolveSession (policy : SessionPolicy) (now : Instant) (token : String) :
    Except AccountsError Verified :=
  (verify policy.key now.seconds token).mapError AccountsError.ofAccess

def resolve (policy : SessionPolicy) (now : Instant) (token : String) :
    Except AccountsError Identity :=
  (policy.resolveSession now token).map Verified.identity

end SessionPolicy

end RoleVault.Accounts
