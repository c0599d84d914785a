import RoleVault.Json.Decode
import RoleVault.Proofs.Identity
import RoleVault.Proofs.Json.Value
import RoleVault.Proofs.Text.Scan

/-!
Contract: what records make of written values.

Owns:
- the written texts, integers and lists that a reader takes in as the values they were written from;
- `fields_object`: a written object gives its members where each of them has an expected name and a
  value that its field accepts;
- `checkMembers_unique`: no field of a record is read from two members;
- `decodeBytes_bytes`: decoding a written value comes down to its node.

Does not own: the records themselves (`RoleVault.Proofs.Session.Claims`).
-/

namespace RoleVault.Json

namespace Decoder

open Value

variable {α : Type}

/-! ## Single values -/

@[simp] theorem text_node (content : String) : text (node (.text content)) = .ok content :=
  rfl

/-- Only a proper text reads as one. -/
theorem text_eq_ok {node : Node} {content : String} (reads : text node = .ok content) :
    node = .text (.ok content) := by
  unfold text at reads
  split at reads
  · cases reads
    rfl
  · cases reads

/-- Sixty-four bits with a sign are fewer than those that a number may have. -/
theorem isWord_toInt (value : Int64) : Reader.IsWord value.toInt := by
  have least := value.minValue_le_toInt
  have most := value.toInt_le
  have bounds : Int64.minValue.toInt = -9223372036854775808 ∧
      Int64.maxValue.toInt = 9223372036854775807 := by decide
  have limits : Text.Decimal.signedLimit = 9223372036854775808 ∧
      Text.Decimal.wordLimit = 18446744073709551616 := ⟨rfl, rfl⟩
  simp only [Reader.IsWord]
  omega

theorem isWritable_integer (value : Int64) : IsWritable (.integer value.toInt) :=
  isWord_toInt value

@[simp] theorem int64_node (value : Int64) : int64 (node (.integer value.toInt)) = .ok value := by
  rw [node, int64, if_pos value.toInt_le, Int64.ofInt_toInt]

/-- A text that parses is read as what it parses to. -/
theorem parsed_node {parse? : String → Option α} {failure : DecodeError} {written : String} {value : α}
    (parses : parse? written = some value) :
    parsed parse? failure (node (.text written)) = .ok value := by
  simp [parsed, parses, bind, Except.bind, pure, Except.pure]

@[simp] theorem userId_node (id : UserId) : userId (node (.text id.text)) = .ok id :=
  parsed_node (UserId.ofText?_text id)

/-! ## Lists -/

private theorem each_map {item : Decoder α} {write : α → Value}
    (reads : ∀ value, item (write value).node = .ok value) (values : List α) :
    each item (values.map fun value => (write value).node) = .ok values := by
  induction values with
  | nil => rfl
  | cons value rest inductionHypothesis =>
    simp only [List.map_cons, each, reads, inductionHypothesis, bind, Except.bind, pure, Except.pure]

/-- A written list reads back where each of its items does. -/
theorem list_node {item : Decoder α} {write : α → Value}
    (reads : ∀ value, item (write value).node = .ok value) (values : List α) :
    list item (node (.array (values.map write))) = .ok values := by
  simp only [node, itemNodes_map, list, each_map reads, bind, Except.bind, ↓reduceIte, pure,
    Except.pure]

/-! ## Records -/

theorem check_field {name : String} {value : Decoder α} {found : Node} {read : α}
    (reads : value found = .ok read) : (field name value).check found = .ok () := by
  simp only [field, reads, Except.map]

def Fits (expected : List FieldCheck) (members : List (String × Value)) : Prop :=
  ∀ member ∈ members, ∃ field, (expected.find? fun field => field.name == member.1) = some field ∧
    field.check member.2.node = .ok ()

namespace Fits

variable {expected : List FieldCheck}

theorem nil : Fits expected [] := by
  intro member listed
  cases listed

/-- A member that fits may stand before members that do. -/
theorem cons {name : String} {value : Value} {field : FieldCheck} {rest : List (String × Value)}
    (known : (expected.find? fun field => field.name == name) = some field)
    (accepts : field.check value.node = .ok ()) (others : Fits expected rest) :
    Fits expected ((name, value) :: rest) := by
  intro member listed
  rcases List.mem_cons.mp listed with rfl | later
  · exact ⟨field, known, accepts⟩
  · exact others member later

end Fits

private theorem checkMembers_memberNodes {expected : List FieldCheck}
    {members : List (String × Value)}
    (fits : Fits expected members) {seen : List String} (fresh : ∀ member ∈ members, member.1 ∉ seen)
    (distinct : (members.map Prod.fst).Nodup) :
    checkMembers expected seen (memberNodes members) = .ok () := by
  induction members generalizing seen with
  | nil => rfl
  | cons member rest inductionHypothesis =>
    obtain ⟨name, value⟩ := member
    obtain ⟨field, known, accepts⟩ := fits (name, value) List.mem_cons_self
    have unseen : name ∉ seen := fresh (name, value) List.mem_cons_self
    rw [List.map_cons, List.nodup_cons] at distinct
    have later : checkMembers expected (name :: seen) (memberNodes rest) = .ok () := by
      apply inductionHypothesis (fun other member => fits other (List.mem_cons_of_mem _ member)) _
        distinct.2
      intro other member again
      rcases List.mem_cons.mp again with same | before
      · exact distinct.1 (List.mem_map.mpr ⟨other, member, same⟩)
      · exact fresh other (List.mem_cons_of_mem _ member) before
    simp [memberNodes, checkMembers, known, unseen, accepts, later, bind, Except.bind]

/-- The members of a written object by their names. -/
def named (members : List (String × Value)) : Fields :=
  members.map fun (name, value) => (name, value.node)

private theorem filterMap_memberNodes (members : List (String × Value)) :
    ((memberNodes members).filterMap fun (key, value) =>
      match key with
      | .text (.ok name) => some (name, value)
      | _ => none) = named members := by
  induction members with
  | nil => rfl
  | cons member rest inductionHypothesis =>
    simp only [memberNodes, List.filterMap_cons, inductionHypothesis]
    rfl

/-- A written object gives its members where they fit. -/
theorem fields_object {expected : List FieldCheck} {members : List (String × Value)}
    (fits : Fits expected members) (distinct : (members.map Prod.fst).Nodup) :
    fields expected (node (.object members)) = .ok (named members) := by
  have checked : checkMembers expected [] (memberNodes members) = .ok () :=
    checkMembers_memberNodes fits (by simp) distinct
  simp only [node, fields, checked, bind, Except.bind, Bool.not_true, Bool.false_eq_true, ↓reduceIte,
    pure, Except.pure]
  exact congrArg Except.ok (filterMap_memberNodes members)

/-! ## What readable records are -/

section Readable

variable {expected : List FieldCheck} {seen : List String}

/-- What it takes for the first member of an object to pass: a proper key, which is not met again where
it names a field. -/
private theorem checkMembers_cons {key value : Node} {rest : List (Node × Node)}
    (passes : checkMembers expected seen ((key, value) :: rest) = .ok ()) :
    ∃ name after, key = .text (.ok name) ∧ checkMembers expected after rest = .ok () ∧
      (∀ other ∈ seen, other ∈ after) ∧
      ((expected.find? fun field => field.name == name).isSome → name ∉ seen ∧ name ∈ after) := by
  unfold checkMembers at passes
  split at passes
  · rename_i name
    split at passes
    · rename_i field known
      by_cases met : seen.contains name = true
      · rw [if_pos met] at passes
        cases passes
      · rw [if_neg met] at passes
        obtain ⟨_, _, later⟩ := bind_eq_ok_iff.mp passes
        exact ⟨name, name :: seen, rfl, later, fun _ => List.mem_cons_of_mem _,
          fun _ => ⟨by simpa using met, List.mem_cons_self⟩⟩
    · rename_i unknown
      obtain ⟨_, _, later⟩ := bind_eq_ok_iff.mp passes
      exact ⟨name, seen, rfl, later, fun _ => id, fun known => by simp [unknown] at known⟩
  · cases passes

/-- A field that was met before is not written again in members that pass. -/
private theorem not_mem_of_seen {members : List (Node × Node)} {name : String} {node : Node}
    (known : (expected.find? fun field => field.name == name).isSome)
    (passes : checkMembers expected seen members = .ok ()) (met : name ∈ seen) :
    (.text (.ok name), node) ∉ members := by
  induction members generalizing seen with
  | nil => exact List.not_mem_nil
  | cons member rest inductionHypothesis =>
    obtain ⟨key, value⟩ := member
    obtain ⟨first, after, rfl, later, grows, fresh⟩ := checkMembers_cons passes
    intro member
    rcases List.mem_cons.mp member with same | further
    · cases same
      exact (fresh known).1 met
    · exact inductionHypothesis later (grows name met) further

/-- Members that pass have at most one value for each field. -/
theorem checkMembers_unique {members : List (Node × Node)} {name : String} {one other : Node}
    (known : (expected.find? fun field => field.name == name).isSome)
    (passes : checkMembers expected seen members = .ok ())
    (first : (.text (.ok name), one) ∈ members) (second : (.text (.ok name), other) ∈ members) :
    one = other := by
  induction members generalizing seen with
  | nil => cases first
  | cons member rest inductionHypothesis =>
    obtain ⟨key, value⟩ := member
    obtain ⟨met, after, rfl, later, -, fresh⟩ := checkMembers_cons passes
    have unwritten (node : Node) (isMet : name = met) : (.text (.ok name), node) ∉ rest :=
      not_mem_of_seen known later (isMet ▸ (fresh (isMet ▸ known)).2)
    rcases List.mem_cons.mp first with here | further
    · cases here
      rcases List.mem_cons.mp second with again | beyond
      · cases again
        rfl
      · exact absurd beyond (unwritten other rfl)
    · rcases List.mem_cons.mp second with here | beyond
      · cases here
        exact absurd further (unwritten one rfl)
      · exact inductionHypothesis later further beyond

private theorem closed_of_checkItems {closed : Bool} {expected : List FieldCheck}
    {items : List Node}
    (passes : checkItems closed expected items = .ok ()) : closed = true := by
  induction expected generalizing items with
  | nil =>
    cases items with
    | nil => simpa [checkItems] using passes
    | cons item rest => cases passes
  | cons field expected inductionHypothesis =>
    cases items with
    | nil => cases passes
    | cons item rest =>
      obtain ⟨_, _, later⟩ := bind_eq_ok_iff.mp passes
      exact inductionHypothesis later

/-- An object whose fields are read is closed, its members pass, and each field comes from a member. -/
theorem fields_of_object {expected : List FieldCheck} {members : List (Node × Node)} {closed : Bool}
    {found : Fields} (reads : fields expected (.object members closed) = .ok found) :
    closed = true ∧ checkMembers expected [] members = .ok () ∧
      ∀ name node, found.lookup name = some node → (.text (.ok name), node) ∈ members := by
  obtain ⟨_, passes, reads⟩ := bind_eq_ok_iff.mp reads
  cases closed with
  | false => cases reads
  | true =>
    refine ⟨rfl, passes, ?_⟩
    intro name node holds
    cases reads
    obtain ⟨before, after, splits, -⟩ := List.lookup_eq_some_iff.mp holds
    have listed : (name, node) ∈ before ++ (name, node) :: after := by simp
    rw [← splits, List.mem_filterMap] at listed
    obtain ⟨⟨key, value⟩, member, taken⟩ := listed
    simp only at taken
    split at taken
    · cases taken
      exact member
    · cases taken

/-- An array whose fields are read is closed, and its items are the fields in their order. -/
theorem fields_of_array {expected : List FieldCheck} {items : List Node} {closed : Bool}
    {found : Fields} (reads : fields expected (.array items closed) = .ok found) :
    closed = true ∧ found = (expected.map FieldCheck.name).zip items := by
  obtain ⟨_, passes, reads⟩ := bind_eq_ok_iff.mp reads
  cases reads
  exact ⟨closed_of_checkItems passes, rfl⟩

end Readable

end Decoder

/-- Decoding a written value comes down to its node. -/
theorem decodeBytes_bytes {α : Type} {value : Decoder α} {written : Value} {read : α}
    (writable : written.IsWritable) (reads : value written.node = .ok read) :
    decodeBytes value written.bytes = .ok read := by
  rw [decodeBytes, Document.read_bytes writable, Document.decode, reads]
  rfl

end RoleVault.Json
