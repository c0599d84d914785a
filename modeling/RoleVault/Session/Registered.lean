import RoleVault.Json.Attempt
import RoleVault.Json.Decode

/-!
Contract: the registered claims of a token: expiry, start, subject, issuer and audience.

Owns: whether claims name an audience, read from their bytes (`namesAudience`).

Does not own: the claims that a session is made of (`RoleVault.Session.Claims`).

A registered claim whose value has an unfit type counts as absent.  The claims as a whole are refused
only if reading cannot go on behind such a value, or if a registered claim is written twice.
-/

namespace RoleVault.Session.Registered

open RoleVault.Json RoleVault.Json.Attempt

inductive Claim where
  | expires
  | notBefore
  | subject
  | issuer
  | audience
deriving DecidableEq, Repr

def Claim.ofName? (name : String) : Option Claim :=
  if name = "exp" then some .expires
  else if name = "nbf" then some .notBefore
  else if name = "sub" then some .subject
  else if name = "iss" then some .issuer
  else if name = "aud" then some .audience
  else none

/-- A value that has to be a number to count.  Of an array or an object only the brackets are taken,
which is enough for an empty one. -/
def number : Attempt Node := do
  let first ← peek
  if first == Reader.ascii '[' then
    let _ ← next
    endArray
    return .array [] true
  else if first == Reader.ascii '\x7b' then
    let _ ← next
    endObject
    return .object [] true
  else scalar first

/-- A value that has to be a text to count.  Arrays and objects are not even begun. -/
def text : Attempt Node := do
  scalar (← peek)

def Claim.value : Claim → Attempt Node
  | .expires | .notBefore => number
  | .subject => text
  | .issuer | .audience => Attempt.value

/-- Whether an audience names anyone: it is a text or a list of texts. -/
def isAudience : Node → Bool
  | .text (.ok _) => true
  | .array items true => items.all fun
    | .text (.ok _) => true
    | _ => false
  | _ => false

/-- The values of the claims met, of which some could not be read. -/
abbrev Found := List (Claim × Option Node)

/-- The members of the claims from the left, or the name of a claim that is written twice.  `fuel`
bounds their number. -/
def members : Nat → Bool → Found → Attempt (Except String Found)
  | 0, _, _ => failure
  | fuel + 1, first, found => do
    if !(← hasMember first) then return .ok found
    let name ← key
    match Claim.ofName? name with
    | none =>
      colon
      skip
      members fuel false found
    | some claim =>
      if (found.lookup claim).isSome then return .error name
      colon
      let value ← settle claim.value
      members fuel false ((claim, value) :: found)

def document : Attempt (Except String Found) := do
  if (← peek) != Reader.ascii '\x7b' then failure
  let _ ← next
  match ← members ((← get).length + 1) true [] with
  | .error name => return .error name
  | .ok found =>
    endObject
    modify Reader.dropBlanks
    if (← get).isEmpty then return .ok found else failure

def namesAudience (bytes : Bytes) : Except DecodeError Bool :=
  match (document.run bytes).1 with
  | some (.ok found) => .ok ((found.lookup .audience).any fun value => value.any isAudience)
  | some (.error name) => .error (.duplicateField name)
  | none => .error .unreadable

end RoleVault.Session.Registered
