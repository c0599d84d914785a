import Mathlib
import RoleVault.Proofs.Identity
import RoleVault.Proofs.Json.Decode
import RoleVault.Proofs.Time.Lenient
import RoleVault.Session.Claims

/-!
Contract: the written parts of a token, and the facts about a caller, read back.

Owns:
- what the readers of the header and of the claims make of what is written;
- `NamesHs256`, the headers that are read as naming the one algorithm;
- what the reader of a caller makes of a written one (`decode_encode`);
- `accepted_caller_passes_on`: a text that is accepted in any spelling is passed on in the written
  one, and from then on no longer changes.

Does not own: the registered claims, which are read once more from the bytes
(`RoleVault.Proofs.Session.Registered`), signed tokens (`RoleVault.Proofs.Session.Token`), and which
peers may pass on a caller.
-/

namespace RoleVault.Session

open RoleVault.Json RoleVault.Json.Decoder RoleVault.Time

/-! ## Header -/

theorem isWritable_header : header.IsWritable :=
  ⟨trivial, trivial, trivial⟩

/-- The header that is written names the algorithm that is read. -/
theorem headerDecoder_header : headerDecoder header.node = .ok .hs256 :=
  rfl

/-- A node that says HS256: this text, or an object with null under this one name. -/
inductive IsHs256 : Node → Prop
  | text : IsHs256 (.text (.ok "HS256"))
  | object : IsHs256 (.object [(.text (.ok "HS256"), .null)] true)

/-- A complete header whose algorithm is HS256: an object with this under `alg` and nothing else under
that name, or an array with this in second place. -/
inductive NamesHs256 : Node → Prop
  | object {members : List (Node × Node)} {algorithm : Node}
      (member : (.text (.ok "alg"), algorithm) ∈ members) (named : IsHs256 algorithm)
      (only : ∀ other, (.text (.ok "alg"), other) ∈ members → other = algorithm) :
      NamesHs256 (.object members true)
  | array {kind algorithm : Node} {rest : List Node} (named : IsHs256 algorithm) :
      NamesHs256 (.array (kind :: algorithm :: rest) true)

private theorem ofName?_hs256 {name : String} (known : Algorithm.ofName? name = some .hs256) :
    name = "HS256" := by
  rw [Algorithm.ofName?] at known
  split at known
  · assumption
  · split at known <;> cases known

private theorem choiceNamed_hs256 {key : Node}
    (names : choiceNamed Algorithm.ofName? key = .ok .hs256) :
    key = .text (.ok "HS256") := by
  obtain ⟨name, reads, chosen⟩ := bind_eq_ok_iff.mp names
  split at chosen
  · rename_i known
    cases chosen
    rw [text_eq_ok reads, ofName?_hs256 known]
  · cases chosen

private theorem choice_hs256 {node : Node} (names : choice Algorithm.ofName? node = .ok .hs256) :
    IsHs256 node := by
  unfold choice at names
  split at names
  · cases choiceNamed_hs256 names
    exact .text
  · obtain ⟨_, key, names⟩ := bind_eq_ok_iff.mp names
    split at names
    · split at names
      · rename_i alone
        cases names
        cases choiceNamed_hs256 key
        simp only [Bool.and_eq_true, List.isEmpty_iff] at alone
        obtain ⟨rfl, rfl⟩ := alone
        exact .object
      · cases names
    · cases names
  · cases names

/-- A header that is read as naming the one algorithm does so by its name. -/
theorem headerDecoder_hs256 {node : Node} (reads : headerDecoder node = .ok .hs256) :
    NamesHs256 node := by
  obtain ⟨found, reads, names⟩ := bind_eq_ok_iff.mp reads
  rw [required] at names
  split at names
  · rename_i algorithm present
    have named := choice_hs256 names
    cases node with
    | object members closed =>
      obtain ⟨rfl, passes, listed⟩ := fields_of_object reads
      exact .object (listed _ _ present) named fun other again =>
        checkMembers_unique rfl passes again (listed _ _ present)
    | array items closed =>
      obtain ⟨rfl, rfl⟩ := fields_of_array reads
      cases items with
      | nil => cases present
      | cons kind items =>
        cases items with
        | nil => cases present
        | cons second rest =>
          cases present
          exact .array named
    | _ => cases reads
  · cases names

/-! ## Claims -/

namespace Subject

theorem isWritable_toValue (subject : Subject) : subject.toValue.IsWritable := by
  have roles := Value.itemsWritable_map .text (fun _ => trivial) subject.roleNames
  exact ⟨trivial, trivial, trivial, isWritable_integer _, roles, trivial, trivial, trivial⟩

private theorem instant_node (moment : Instant) :
    instant (Value.node (.text (Rfc3339.renderZulu moment))) = .ok moment :=
  parsed_node (Rfc3339.parseLenient?_renderZulu moment)

/-- The subject of claims reads back as it was written. -/
theorem decoder_toValue (subject : Subject) : decoder subject.toValue.node = .ok subject := by
  have roles : list text (Value.node (.array (subject.roleNames.map .text))) = .ok subject.roleNames :=
    list_node text_node subject.roleNames
  rw [decoder, toValue, fields_object]
  · simp [required, named, List.lookup_cons, roles, instant_node, bind, Except.bind, pure, Except.pure]
  · apply Fits.cons rfl (check_field (userId_node _))
    apply Fits.cons rfl (check_field (text_node _))
    apply Fits.cons rfl (check_field (text_node _))
    apply Fits.cons rfl (check_field (int64_node _))
    apply Fits.cons rfl (check_field roles)
    apply Fits.cons rfl (check_field (instant_node _))
    apply Fits.cons rfl (check_field (instant_node _))
    exact Fits.nil
  · simp

end Subject

namespace Claims

theorem isWritable_toValue (claims : Claims) : claims.toValue.IsWritable :=
  ⟨claims.subject.isWritable_toValue, isWritable_integer _, isWritable_integer _, isWritable_integer _, trivial⟩

/-- Claims read back as they were written. -/
theorem decoder_toValue (claims : Claims) : decoder claims.toValue.node = .ok claims := by
  rw [decoder, toValue, fields_object]
  · simp [required, named, List.lookup_cons, Subject.decoder_toValue, bind, Except.bind, pure, Except.pure]
  · apply Fits.cons rfl (check_field claims.subject.decoder_toValue)
    apply Fits.cons rfl (check_field (int64_node _))
    apply Fits.cons rfl (check_field (int64_node _))
    apply Fits.cons rfl (check_field (int64_node _))
    exact Fits.nil
  · simp

end Claims

end RoleVault.Session

namespace RoleVault.Identity

open RoleVault.Json RoleVault.Json.Decoder RoleVault.Text

theorem isWritable_toValue (identity : Identity) : identity.toValue.IsWritable := by
  have roles := Value.itemsWritable_map (fun role : Role => .text role.name) (fun _ => trivial)
    identity.roles
  exact ⟨trivial, trivial, trivial, isWritable_integer _, roles, trivial⟩

/-- A level reads back from its canonical name. -/
theorem role_node (held : Role) : role (Value.node (.text held.name)) = .ok held := by
  simp only [role, Value.node, choice, choiceNamed, text, Role.ofName?_name, bind, Except.bind, pure,
    Except.pure]

/-- The facts about a caller read back as they were written. -/
theorem decoder_toValue (identity : Identity) : decoder identity.toValue.node = .ok identity := by
  have roles : list role (Value.node (.array (identity.roles.map fun held => .text held.name))) =
      .ok identity.roles := list_node role_node identity.roles
  rw [decoder, toValue, fields_object]
  · simp [required, named, List.lookup_cons, roles, bind, Except.bind, pure, Except.pure]
  · apply Fits.cons rfl (check_field (userId_node _))
    apply Fits.cons rfl (check_field (text_node _))
    apply Fits.cons rfl (check_field (text_node _))
    apply Fits.cons rfl (check_field (int64_node _))
    apply Fits.cons rfl (check_field roles)
    exact Fits.nil
  · simp

/-- A caller that was written reads back, whatever the characters of its names, its group and its
levels. -/
theorem decode_encode (identity : Identity) : decode identity.encode = .ok identity := by
  have written : Utf8.encode identity.encode = identity.toValue.bytes := Value.encode_render _
  rw [decode, written, decodeBytes_bytes identity.isWritable_toValue identity.decoder_toValue]

/-- The reading of a text and the writing of what was read. -/
def respell (text : String) : Except AccessError String :=
  (decode text).map encode

/-- Every caller reads back from its written form.  A text in another spelling that is accepted is
respelled once: the new text gives the same caller and is respelled as itself. -/
theorem accepted_caller_passes_on :
    (∀ identity : Identity, decode identity.encode = .ok identity) ∧
      ∀ (text : String) (identity : Identity), decode text = .ok identity →
        ∃ respelled, respell text = .ok respelled ∧ decode respelled = .ok identity ∧
          respell respelled = .ok respelled := by
  refine ⟨decode_encode, fun text identity accepted => ⟨identity.encode, ?_, decode_encode identity, ?_⟩⟩
  · rw [respell, accepted, Except.map]
  · rw [respell, decode_encode, Except.map]

/-! ## A caller in another spelling -/

/-- The fields in their order without names, an escape, a plain identifier and a level under its name. -/
def otherSpelling : String :=
  "[\"67E5504410B1426F9247BB680E5FE0C8\", \"\\u00e9\\n\", \"\\ud83d\\ude00\", -9223372036854775808, [\"user\",\"op_service\"]]"

def otherSpelled : Identity where
  id := (UserId.ofText? "67e55044-10b1-426f-9247-bb680e5fe0c8").getD default
  name := "é\n"
  displayName := "😀"
  group := Int64.minValue
  roles := [.user, .operator]

private theorem decode_otherSpelling : decode otherSpelling = .ok otherSpelled := by cbv

/-- A caller in an unusual spelling is passed on in the usual one. -/
theorem otherSpelling_passes_on :
    decode otherSpelling = .ok otherSpelled ∧
      ∃ respelled, respell otherSpelling = .ok respelled ∧ decode respelled = .ok otherSpelled ∧
        respell respelled = .ok respelled :=
  ⟨decode_otherSpelling, accepted_caller_passes_on.2 otherSpelling otherSpelled decode_otherSpelling⟩

end RoleVault.Identity
