import RoleVault.Json.Attempt
import RoleVault.Proofs.Json.Value

/-!
Contract: attempts that succeed, and what they leave of the bytes.

Owns:
- `Gives`, that a reader takes its bytes down to a rest, with one rule for each of its steps;
- the readers of keys and integers, and of values passed over, on what this library writes.

Does not own: attempts that fail, and the members of a token (`RoleVault.Proofs.Session.Registered`).
-/

namespace RoleVault.Json

open RoleVault.Text

namespace Value

mutual

/-- A written value can be passed over. -/
theorem isSkippable_node : ∀ value : Value, value.node.isSkippable = true
  | null => rfl
  | bool _ => rfl
  | integer _ => rfl
  | text _ => rfl
  | array items => by
    rw [node, Node.isSkippable, itemsSkippable_itemNodes items, Bool.and_self]
  | object members => by
    rw [node, Node.isSkippable, membersSkippable_memberNodes members, Bool.and_self]

private theorem itemsSkippable_itemNodes : ∀ items : List Value,
    Node.itemsSkippable (itemNodes items) = true
  | [] => rfl
  | item :: rest => by
    rw [itemNodes, Node.itemsSkippable, isSkippable_node item, itemsSkippable_itemNodes rest,
      Bool.and_self]

private theorem membersSkippable_memberNodes : ∀ members : List (String × Value),
    Node.membersSkippable (memberNodes members) = true
  | [] => rfl
  | (name, value) :: rest => by
    rw [memberNodes, Node.membersSkippable, isSkippable_node value,
      membersSkippable_memberNodes rest, Node.isText, Bool.and_self, Bool.and_self]

end

end Value

namespace Attempt

open Reader

variable {α β : Type}

def Gives (reader : Attempt α) (bytes : Bytes) (value : α) (rest : Bytes) : Prop :=
  reader.run bytes = (some value, rest)

/-! ## Steps -/

namespace Gives

theorem pure (value : α) (bytes : Bytes) : Gives (pure value) bytes value bytes :=
  rfl

/-- A reading goes on from where the first part of it ended. -/
theorem bind {reader : Attempt α} {next : α → Attempt β} {bytes between rest : Bytes} {value : α}
    {result : β} (first : Gives reader bytes value between)
    (second : Gives (next value) between result rest) :
    Gives (reader >>= next) bytes result rest := by
  unfold Gives at *
  rw [OptionT.run_bind, Option.elimM]
  change (StateT.bind reader.run _ : StateM Bytes (Option β)) bytes = _
  simp only [StateT.bind, Bind.bind, first]
  exact second

/-- An attempt that succeeds is settled with its value. -/
theorem settle {reader : Attempt α} {bytes rest : Bytes} {value : α}
    (gives : Gives reader bytes value rest) :
    Gives (settle reader) bytes (some value) rest := by
  unfold Gives Attempt.settle at *
  rw [OptionT.run_lift]
  simp only [Bind.bind, StateT.bind, gives]
  rfl

end Gives

theorem gives_get (bytes : Bytes) : Gives get bytes bytes bytes :=
  rfl

private theorem gives_set (bytes rest : Bytes) : Gives (set rest) bytes () rest :=
  rfl

theorem gives_modify (change : Bytes → Bytes) (bytes : Bytes) :
    Gives (modify change) bytes () (change bytes) :=
  rfl

theorem gives_next (byte : UInt8) (rest : Bytes) : Gives next (byte :: rest) byte rest :=
  rfl

theorem gives_peek {byte : UInt8} (solid : isBlank byte = false) (rest : Bytes) :
    Gives peek (byte :: rest) byte (byte :: rest) := by
  apply Gives.bind (gives_modify _ _)
  rw [dropBlanks_cons solid]
  exact Gives.bind (gives_get _) (Gives.pure _ _)

/-! ## Keys -/

private theorem gives_stringBytes {run : Bytes} (plain : ∀ byte ∈ run, IsPlain byte) (rest : Bytes)
    {fuel : Nat} (enough : run.length < fuel) :
    Gives (stringBytes fuel) (run ++ ascii '"' :: rest) run rest := by
  induction run generalizing fuel with
  | nil =>
    obtain ⟨fuel, rfl⟩ := Nat.exists_eq_succ_of_ne_zero (Nat.ne_zero_of_lt enough)
    exact Gives.bind (gives_next _ _) (Gives.pure _ _)
  | cons byte others inductionHypothesis =>
    obtain ⟨fuel, rfl⟩ := Nat.exists_eq_succ_of_ne_zero (Nat.ne_zero_of_lt enough)
    obtain ⟨quote, backslash, control⟩ := plain byte List.mem_cons_self
    rw [List.length_cons] at enough
    have later := @inductionHypothesis
      (fun other member => plain other (List.mem_cons_of_mem _ member)) fuel (by omega)
    apply Gives.bind (gives_next _ _)
    simp only [beq_eq_false_iff_ne.mpr quote, beq_eq_false_iff_ne.mpr backslash, control,
      Bool.false_eq_true, ↓reduceIte]
    exact Gives.bind later (Gives.pure _ _)

theorem gives_key {name : String} (plain : isPlainName name = true) (rest : Bytes) :
    Gives key (Value.bytes (.text name) ++ rest) name rest := by
  obtain ⟨unescaped, bytes⟩ := escapes_of_isPlainName plain
  have short {run : Bytes} : run.length < (run ++ ascii '"' :: rest).length + 1 := by
    rw [List.length_append, List.length_cons]
    omega
  rw [Value.bytes_text, encodeChars_quote, unescaped, ← Utf8.encode_eq_encodeChars, List.cons_append,
    List.append_assoc, List.singleton_append]
  apply Gives.bind (gives_next _ _)
  apply Gives.bind (gives_get _)
  apply Gives.bind (gives_stringBytes bytes rest short)
  rw [Utf8.decode?_encode]
  exact Gives.pure _ _

theorem gives_colon (rest : Bytes) : Gives colon (ascii ':' :: rest) () rest := by
  apply Gives.bind (gives_peek (by decide) _)
  exact Gives.bind (gives_next _ _) (Gives.pure _ _)

/-! ## Members -/

theorem gives_hasMember_end (first : Bool) (rest : Bytes) :
    Gives (hasMember first) (ascii '\x7d' :: rest) false (ascii '\x7d' :: rest) := by
  have ended : Gives (hasNext first (ascii '\x7d')) (ascii '\x7d' :: rest) false
      (ascii '\x7d' :: rest) := by
    apply Gives.bind (gives_peek (by decide) _)
    exact Gives.pure _ _
  exact Gives.bind ended (Gives.pure _ _)

theorem gives_hasMember_first (rest : Bytes) :
    Gives (hasMember true) (ascii '"' :: rest) true (ascii '"' :: rest) := by
  have more : Gives (hasNext true (ascii '\x7d')) (ascii '"' :: rest) true (ascii '"' :: rest) := by
    apply Gives.bind (gives_peek (by decide) _)
    exact Gives.pure _ _
  apply Gives.bind more
  exact Gives.bind (gives_peek (by decide) _) (Gives.pure _ _)

theorem gives_hasMember_next (rest : Bytes) :
    Gives (hasMember false) (ascii ',' :: ascii '"' :: rest) true (ascii '"' :: rest) := by
  have more : Gives (hasNext false (ascii '\x7d')) (ascii ',' :: ascii '"' :: rest) true
      (ascii '"' :: rest) := by
    apply Gives.bind (gives_peek (by decide) _)
    apply Gives.bind (gives_next _ _)
    exact Gives.bind (gives_peek (by decide) _) (Gives.pure _ _)
  apply Gives.bind more
  exact Gives.bind (gives_peek (by decide) _) (Gives.pure _ _)

theorem gives_endObject (rest : Bytes) : Gives endObject (ascii '\x7d' :: rest) () rest := by
  apply Gives.bind (gives_peek (by decide) _)
  exact Gives.bind (gives_next _ _) (Gives.pure _ _)

/-- A written value is passed over as a whole. -/
theorem gives_skip {written : Value} (writable : written.IsWritable) {rest : Bytes}
    (ends : EndsNumber rest) : Gives skip (written.bytes ++ rest) () rest := by
  have read := value_bytes writable ends
    (show 2 * written.bytes.length ≤ 2 * (written.bytes ++ rest).length + 2 by
      rw [List.length_append]
      omega)
  apply Gives.bind (gives_get _)
  apply Gives.bind (gives_get _)
  rw [read]
  apply Gives.bind (gives_set _ _)
  rw [written.isSkippable_node]
  exact Gives.pure _ _

/-! ## Integers -/

private theorem gives_takeDigits {run rest : Bytes} (digits : ∀ byte ∈ run, isDigit byte = true)
    (ends : EndsNumber rest) : Gives takeDigits (run ++ rest) run rest := by
  have split : Reader.digits (run ++ rest) = (run, rest) := digits_run digits ends
  have taken : takeDigits.run (run ++ rest) =
      (some (Reader.digits (run ++ rest)).1, (Reader.digits (run ++ rest)).2) := rfl
  rw [Gives, taken, split]

private theorem gives_whole (value : Nat) {rest : Bytes} (ends : EndsNumber rest) :
    Gives whole (digitBytes value ++ rest) (digitBytes value) rest := by
  obtain ⟨first, others, whole, digit⟩ := exists_digitBytes value
  have all : ∀ byte ∈ others, isDigit byte = true := fun byte member =>
    isDigit_of_mem_digitBytes (by rw [whole]; exact List.mem_cons_of_mem _ member)
  by_cases zero : first = ascii '0'
  · have single : digitBytes value = [ascii '0'] := digitBytes_of_head (by rw [whole, zero]; rfl)
    have ended : rest.head?.any isDigit = false := by
      cases rest with
      | nil => rfl
      | cons byte rest => simp [(ends byte rfl).1]
    rw [single]
    apply Gives.bind (gives_next _ _)
    apply Gives.bind (gives_get _)
    simp only [List.append_eq, List.nil_append, ended, Bool.false_eq_true, ↓reduceIte]
    exact Gives.pure _ _
  · rw [whole]
    apply Gives.bind (gives_next _ _)
    simp only [beq_eq_false_iff_ne.mpr zero, digit, Bool.false_eq_true, ↓reduceIte]
    exact Gives.bind (gives_takeDigits all ends) (Gives.pure _ _)

private theorem gives_fraction {rest : Bytes} (ends : EndsNumber rest) :
    Gives fraction rest none rest := by
  have undotted : (rest.head? == some (ascii '.')) = false := by
    cases rest with
    | nil => rfl
    | cons byte rest => simp [(ends byte rfl).2.1]
  apply Gives.bind (gives_get _)
  rw [undotted]
  exact Gives.pure _ _

private theorem gives_unsigned (negative : Bool) {value : Nat} {read : Int} {rest : Bytes}
    (ends : EndsNumber rest)
    (whole : numberNode negative (digitBytes value) none none = .integer read) :
    Gives (unsigned negative) (digitBytes value ++ rest) (.integer read) rest := by
  have plain : (rest.head? == some (ascii 'e') || rest.head? == some (ascii 'E')) = false := by
    cases rest with
    | nil => rfl
    | cons byte rest =>
      obtain ⟨-, -, small, capital⟩ := ends byte rfl
      simp [small, capital]
  apply Gives.bind (gives_whole value ends)
  apply Gives.bind (gives_fraction ends)
  apply Gives.bind (gives_get _)
  simp only [plain, Bool.false_eq_true, ↓reduceIte]
  apply Gives.bind (Gives.pure _ _)
  rw [whole]
  exact Gives.pure _ _

/-- A written integer, after a look at its first byte. -/
theorem gives_scalar {value : Int} (word : IsWord value) {rest : Bytes} (ends : EndsNumber rest) :
    ∃ first others, Value.bytes (.integer value) ++ rest = first :: others ∧
      BeginsNumber first ∧ Gives (scalar first) (first :: others) (.integer value) rest := by
  obtain ⟨least, most⟩ := word
  rw [Value.bytes_integer]
  cases value with
  | ofNat value =>
    obtain ⟨first, others, whole, digit⟩ := exists_digitBytes value
    have read := gives_unsigned false ends (numberNode_ofNat (Int.ofNat_lt.mp most))
    rw [encodeChars_ofNat]
    rw [whole, List.cons_append] at read ⊢
    refine ⟨first, others ++ rest, rfl, Or.inl digit, ?_⟩
    have quote : first ≠ ascii '"' := ne_of_isDigit digit (by decide)
    have letterN : first ≠ ascii 'n' := ne_of_isDigit digit (by decide)
    have letterT : first ≠ ascii 't' := ne_of_isDigit digit (by decide)
    have letterF : first ≠ ascii 'f' := ne_of_isDigit digit (by decide)
    have minus : first ≠ ascii '-' := ne_of_isDigit digit (by decide)
    simpa [scalar, quote, letterN, letterT, letterF, minus, digit] using read
  | negSucc value =>
    have read := gives_unsigned true ends
      (numberNode_negSucc (show value + 1 ≤ Decimal.signedLimit by omega))
    rw [encodeChars_negSucc, List.cons_append]
    refine ⟨ascii '-', digitBytes (value + 1) ++ rest, rfl, Or.inr rfl, ?_⟩
    exact Gives.bind (gives_next _ _) read

end Attempt

end RoleVault.Json
