import RoleVault.Text.Quoted
import RoleVault.Text.Utf8

/-!
Contract: text that must not reach logs, reports or answers by accident.

Owns:
- the type `Secret`, whose every printed form is the marker `[REDACTED]`;
- `constantTimeEq`, which looks at every byte whether or not an earlier one differs;
- `Secret.agrees`, the comparison of two secrets by it.

Does not own: how a secret is stored (`RoleVault.Vault`) or read (`RoleVault.Settings`).
-/

namespace RoleVault

open RoleVault.Text

/-- A text that is shown only as a marker.  `expose` is the one way to its content. -/
structure Secret where
  expose : String
deriving DecidableEq

namespace Secret

/-- What stands in the place of a secret wherever it is shown. -/
def marker : String := "[REDACTED]"

instance : ToString Secret := ⟨fun _ => marker⟩

/-- The form in which a report of a record shows a secret field. -/
def describe (_ : Secret) : String :=
  "Secret(" ++ Quoted.quote marker ++ ")"

/-- The form in which a report of a record shows a secret field that may be absent. -/
def describeOptional : Option Secret → String
  | none => "None"
  | some secret => "Some(" ++ secret.describe ++ ")"

instance : Repr Secret := ⟨fun secret _ => Std.Format.text secret.describe⟩

def isEmpty (secret : Secret) : Bool :=
  secret.expose.isEmpty

/-- The differences of two byte sequences, gathered bit by bit over the shorter of them. -/
def difference (left right : List UInt8) : UInt8 :=
  (left.zip right).foldl (fun gathered (one, other) => gathered ||| (one ^^^ other)) 0

/-- Whether two byte sequences are equal: of equal length, and with no difference gathered. -/
def constantTimeEq (left right : List UInt8) : Bool :=
  left.length == right.length && difference left right == 0

/-- Whether two secrets hold the same bytes. -/
def agrees (left right : Secret) : Bool :=
  constantTimeEq (Utf8.encode left.expose) (Utf8.encode right.expose)

end Secret

end RoleVault
