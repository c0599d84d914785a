import RoleVault.Proofs.Json.Attempt
import RoleVault.Proofs.Session.Claims
import RoleVault.Session.Registered

/-!
Contract: the registered claims of a written token.

Owns:
- the step that one member takes (`gives_members_other`, `gives_members_time`);
- `namesAudience_toValue`: what is written names no audience.

Does not own: the claims as a record (`RoleVault.Proofs.Session.Claims`).
-/

namespace RoleVault.Session.Registered

open RoleVault.Json RoleVault.Json.Attempt RoleVault.Json.Reader

private theorem gives_number {value : Int} (word : IsWord value) {rest : Bytes}
    (ends : EndsNumber rest) :
    Gives number (Value.bytes (.integer value) ++ rest) (.integer value) rest := by
  obtain ⟨first, others, whole, begins, read⟩ := gives_scalar word ends
  have bracket : first ≠ ascii '[' := begins.ne (by decide) (by decide)
  have brace : first ≠ ascii '\x7b' := begins.ne (by decide) (by decide)
  rw [whole]
  apply Gives.bind (gives_peek begins.isStart.solid _)
  simpa [bracket, brace] using read

/-! ## Members -/

section Members

variable {fuel : Nat} {first : Bool} {found : Found} {name : String} {others : List (String × Value)}
  {bytes tail after : Bytes} {result : Except String Found}

private theorem gives_members_end (rest : Bytes) :
    Gives (members (fuel + 1) first found) (ascii '\x7d' :: rest) (.ok found)
      (ascii '\x7d' :: rest) :=
  Gives.bind (gives_hasMember_end first rest) (Gives.pure _ _)

/-- A member that is no registered claim is passed over. -/
theorem gives_members_other {value : Value} (plain : isPlainName name = true)
    (other : Claim.ofName? name = none) (writable : value.IsWritable)
    (begins : Gives (hasMember first) bytes true
      (Value.memberBytes ((name, value) :: others) ++ ascii '\x7d' :: tail))
    (later : Gives (members fuel false found) (Value.moreBytes others ++ ascii '\x7d' :: tail) result
      after) :
    Gives (members (fuel + 1) first found) bytes result after := by
  rw [Value.memberBytes_eq, List.append_assoc, List.cons_append, List.append_assoc] at begins
  apply Gives.bind begins
  apply Gives.bind (gives_key plain _)
  simp only [other]
  apply Gives.bind (gives_colon _)
  exact Gives.bind (gives_skip writable (endsNumber_moreBytes others tail)) later

/-- A time that was not met before is kept. -/
theorem gives_members_time {claim : Claim} {value : Int} (plain : isPlainName name = true)
    (known : Claim.ofName? name = some claim) (numeric : claim.value = number)
    (fresh : found.lookup claim = none) (word : IsWord value)
    (begins : Gives (hasMember first) bytes true
      (Value.memberBytes ((name, .integer value) :: others) ++ ascii '\x7d' :: tail))
    (later : Gives (members fuel false ((claim, some (.integer value)) :: found))
      (Value.moreBytes others ++ ascii '\x7d' :: tail) result after) :
    Gives (members (fuel + 1) first found) bytes result after := by
  rw [Value.memberBytes_eq, List.append_assoc, List.cons_append, List.append_assoc] at begins
  apply Gives.bind begins
  apply Gives.bind (gives_key plain _)
  simp only [known, fresh, Option.isSome_none, Bool.false_eq_true, ↓reduceIte]
  apply Gives.bind (gives_colon _)
  rw [numeric]
  exact Gives.bind (gives_number word (endsNumber_moreBytes others tail)).settle later

private theorem gives_hasMember_memberBytes (member : String × Value) :
    Gives (hasMember true) (Value.memberBytes (member :: others) ++ tail) true
      (Value.memberBytes (member :: others) ++ tail) := by
  obtain ⟨rest, whole⟩ := exists_memberBytes member others
  rw [whole, List.cons_append]
  exact gives_hasMember_first _

private theorem gives_hasMember_moreBytes (member : String × Value) :
    Gives (hasMember false) (Value.moreBytes (member :: others) ++ tail) true
      (Value.memberBytes (member :: others) ++ tail) := by
  obtain ⟨rest, whole⟩ := exists_memberBytes member others
  rw [Value.moreBytes, whole, List.cons_append, List.cons_append]
  exact gives_hasMember_next _

end Members

/-! ## Documents -/

/-- The members of written claims: what they are about, and three times. -/
def claimMembers (claims : Claims) : List (String × Value) :=
  [("info", claims.subject.toValue), ("iat", .integer claims.issued.toInt),
    ("nbf", .integer claims.notBefore.toInt), ("exp", .integer claims.expires.toInt)]

private theorem gives_members (claims : Claims) (fuel : Nat) (tail : Bytes) :
    Gives (members (fuel + 5) true [])
      (Value.memberBytes (claimMembers claims) ++ ascii '\x7d' :: tail)
      (.ok [(.expires, some (.integer claims.expires.toInt)),
        (.notBefore, some (.integer claims.notBefore.toInt))]) (ascii '\x7d' :: tail) := by
  apply gives_members_other rfl rfl claims.subject.isWritable_toValue
    (gives_hasMember_memberBytes _)
  apply gives_members_other rfl rfl (Decoder.isWritable_integer _) (gives_hasMember_moreBytes _)
  apply gives_members_time rfl rfl rfl rfl (Decoder.isWord_toInt _)
    (gives_hasMember_moreBytes _)
  apply gives_members_time rfl rfl rfl rfl (Decoder.isWord_toInt _)
    (gives_hasMember_moreBytes _)
  exact gives_members_end tail

/-- Written claims name no audience. -/
theorem namesAudience_toValue (claims : Claims) :
    namesAudience claims.toValue.bytes = .ok false := by
  have whole : claims.toValue.bytes = ascii '\x7b' ::
      (Value.memberBytes (claimMembers claims) ++ [ascii '\x7d']) :=
    Value.bytes_object (claimMembers claims)
  have long : 4 ≤ (Value.memberBytes (claimMembers claims) ++ [ascii '\x7d']).length := by
    simp [claimMembers, Value.memberBytes_eq, Value.moreBytes]
    omega
  have read : Gives document claims.toValue.bytes
      (.ok [(.expires, some (.integer claims.expires.toInt)),
        (.notBefore, some (.integer claims.notBefore.toInt))]) [] := by
    rw [whole]
    obtain ⟨fuel, enough⟩ := Nat.exists_eq_add_of_le' long
    apply Gives.bind (gives_peek (by decide) _)
    apply Gives.bind (gives_next _ _)
    apply Gives.bind (gives_get _)
    rw [enough]
    apply Gives.bind (gives_members claims fuel [])
    apply Gives.bind (gives_endObject [])
    apply Gives.bind (gives_modify _ _)
    exact Gives.bind (gives_get _) (Gives.pure _ _)
  rw [namesAudience, read]
  rfl

end RoleVault.Session.Registered
