import RoleVault.Proofs.Json.Number

/-!
Contract: written values read back.

Owns:
- `Value.node`, what a reader makes of a written value, and `Value.IsWritable`, the values whose
  integers fit;
- `value_bytes`: the reader finds that node and stops behind the value, whatever follows;
- `Document.read_bytes`: a written value is the whole of its document.

Does not own: what records make of the node (`RoleVault.Proofs.Json.Decode`).
-/

namespace RoleVault.Json

open RoleVault.Text

namespace Value

open Reader

/-! ## Nodes -/

mutual

/-- What a reader makes of a written value. -/
def node : Value → Node
  | null => .null
  | bool value => .bool value
  | integer value => .integer value
  | text value => .text (.ok value)
  | array items => .array (itemNodes items) true
  | object members => .object (memberNodes members) true

def itemNodes : List Value → List Node
  | [] => []
  | item :: rest => node item :: itemNodes rest

def memberNodes : List (String × Value) → List (Node × Node)
  | [] => []
  | (name, value) :: rest => (.text (.ok name), node value) :: memberNodes rest

end

mutual

/-- Whether every integer of the value fits, so that it reads back as an integer. -/
def IsWritable : Value → Prop
  | integer value => IsWord value
  | array items => ItemsWritable items
  | object members => MembersWritable members
  | _ => True

def ItemsWritable : List Value → Prop
  | [] => True
  | item :: rest => IsWritable item ∧ ItemsWritable rest

def MembersWritable : List (String × Value) → Prop
  | [] => True
  | (_, value) :: rest => IsWritable value ∧ MembersWritable rest

end

theorem itemNodes_map {α : Type} (write : α → Value) (values : List α) :
    itemNodes (values.map write) = values.map fun value => (write value).node := by
  induction values with
  | nil => rfl
  | cons value rest inductionHypothesis => simp [itemNodes, inductionHypothesis]

/-- A list can be written if each of its items can. -/
theorem itemsWritable_map {α : Type} (write : α → Value)
    (writable : ∀ value, (write value).IsWritable) (values : List α) : ItemsWritable (values.map write) := by
  induction values with
  | nil => trivial
  | cons value rest inductionHypothesis => exact ⟨writable value, inductionHypothesis⟩

/-! ## Bytes -/

/-- The bytes of a written value. -/
def bytes (value : Value) : Bytes :=
  Utf8.encodeChars value.chars

def itemBytes (items : List Value) : Bytes :=
  Utf8.encodeChars (itemChars items)

def memberBytes (members : List (String × Value)) : Bytes :=
  Utf8.encodeChars (memberChars members)

/-- The bytes of a written value are those of its text. -/
theorem encode_render (value : Value) : Utf8.encode value.render = value.bytes := by
  rw [render, Utf8.encode_ofList, bytes]

theorem bytes_integer (value : Int) :
    bytes (.integer value) = Utf8.encodeChars (Decimal.ofInt value).toList := by
  rw [bytes, chars]

theorem bytes_text (text : String) : bytes (.text text) = Utf8.encodeChars (quote text) := by
  rw [bytes, chars]

private theorem bytes_array (items : List Value) :
    bytes (.array items) = ascii '[' :: (itemBytes items ++ [ascii ']']) := by
  rw [bytes, chars, List.cons_append, encodeChars_ascii (by decide), Utf8.encodeChars_append,
    encodeChars_ascii (by decide), Utf8.encodeChars_nil, itemBytes]

theorem bytes_object (members : List (String × Value)) :
    bytes (.object members) = ascii '\x7b' :: (memberBytes members ++ [ascii '\x7d']) := by
  rw [bytes, chars, List.cons_append, encodeChars_ascii (by decide), Utf8.encodeChars_append,
    encodeChars_ascii (by decide), Utf8.encodeChars_nil, memberBytes]

private theorem itemBytes_single (item : Value) : itemBytes [item] = item.bytes := by
  rw [itemBytes, itemChars, bytes]

private theorem itemBytes_cons (item next : Value) (rest : List Value) :
    itemBytes (item :: next :: rest) = item.bytes ++ ascii ',' :: itemBytes (next :: rest) := by
  rw [itemBytes, itemChars, Utf8.encodeChars_append, encodeChars_ascii (by decide), bytes, itemBytes]

private theorem memberBytes_single (name : String) (value : Value) :
    memberBytes [(name, value)] = bytes (.text name) ++ ascii ':' :: value.bytes := by
  rw [memberBytes, memberChars, Utf8.encodeChars_append, encodeChars_ascii (by decide), bytes_text,
    bytes]

private theorem memberBytes_cons (name : String) (value : Value) (next : String × Value)
    (rest : List (String × Value)) :
    memberBytes ((name, value) :: next :: rest) =
      bytes (.text name) ++ ascii ':' :: (value.bytes ++ ascii ',' :: memberBytes (next :: rest)) := by
  rw [memberBytes, memberChars, List.append_assoc, List.cons_append, Utf8.encodeChars_append,
    encodeChars_ascii (by decide), Utf8.encodeChars_append, encodeChars_ascii (by decide), bytes_text,
    bytes, memberBytes]

/-- The bytes of further members, each after its comma. -/
def moreBytes : List (String × Value) → Bytes
  | [] => []
  | member :: rest => ascii ',' :: memberBytes (member :: rest)

/-- An object writes each member as its name, a colon and its value. -/
theorem memberBytes_eq (name : String) (value : Value) (rest : List (String × Value)) :
    memberBytes ((name, value) :: rest) =
      bytes (.text name) ++ ascii ':' :: (value.bytes ++ moreBytes rest) := by
  cases rest with
  | nil => rw [memberBytes_single, moreBytes, List.append_nil]
  | cons next rest => rw [memberBytes_cons, moreBytes]

end Value

namespace Reader

open Value

/-! ## First bytes -/

/-- A byte that begins a value. -/
structure IsStart (byte : UInt8) : Prop where
  solid : isBlank byte = false
  bracket : byte ≠ ascii ']'
  brace : byte ≠ ascii '\x7d'

instance (byte : UInt8) : Decidable (IsStart byte) :=
  decidable_of_iff (isBlank byte = false ∧ byte ≠ ascii ']' ∧ byte ≠ ascii '\x7d')
    ⟨fun ⟨solid, bracket, brace⟩ => ⟨solid, bracket, brace⟩,
      fun ⟨solid, bracket, brace⟩ => ⟨solid, bracket, brace⟩⟩

theorem ne_of_isDigit {byte mark : UInt8} (digit : isDigit byte = true)
    (other : isDigit mark = false) : byte ≠ mark := by
  rintro rfl
  rw [digit] at other
  cases other

private theorem isStart_of_isDigit {byte : UInt8} (digit : isDigit byte = true) : IsStart byte where
  solid := by
    simp only [isBlank, Bool.or_eq_false_iff, beq_eq_false_iff_ne]
    refine ⟨⟨⟨?_, ?_⟩, ?_⟩, ?_⟩ <;> exact ne_of_isDigit digit (by decide)
  bracket := ne_of_isDigit digit (by decide)
  brace := ne_of_isDigit digit (by decide)

def BeginsNumber (byte : UInt8) : Prop :=
  isDigit byte = true ∨ byte = ascii '-'

theorem BeginsNumber.ne {byte mark : UInt8} (begins : BeginsNumber byte)
    (other : isDigit mark = false) (unsigned : ascii '-' ≠ mark) : byte ≠ mark := by
  rcases begins with digit | rfl
  · exact ne_of_isDigit digit other
  · exact unsigned

theorem BeginsNumber.isStart {byte : UInt8} (begins : BeginsNumber byte) : IsStart byte := by
  rcases begins with digit | rfl
  · exact isStart_of_isDigit digit
  · decide

private theorem exists_bytes_integer (value : Int) :
    ∃ first rest, bytes (.integer value) = first :: rest ∧ BeginsNumber first := by
  rw [bytes_integer]
  cases value with
  | ofNat value =>
    obtain ⟨first, rest, whole, digit⟩ := exists_digitBytes value
    exact ⟨first, rest, (encodeChars_ofNat value).trans whole, Or.inl digit⟩
  | negSucc value => exact ⟨_, _, encodeChars_negSucc value, Or.inr rfl⟩

private theorem exists_bytes (value : Value) :
    ∃ first rest, value.bytes = first :: rest ∧ IsStart first := by
  have start {char : Char} {rest : List Char} (small : char.toNat < 128)
      (begins : IsStart (ascii char)) :
      ∃ first tail, Utf8.encodeChars (char :: rest) = first :: tail ∧ IsStart first :=
    ⟨_, _, encodeChars_ascii small rest, begins⟩
  cases value with
  | null => exact start (by decide) (by decide)
  | bool value => cases value <;> exact start (by decide) (by decide)
  | integer value =>
    obtain ⟨first, rest, whole, begins⟩ := exists_bytes_integer value
    exact ⟨first, rest, whole, begins.isStart⟩
  | text value =>
    rw [bytes_text, encodeChars_quote]
    exact ⟨_, _, rfl, by decide⟩
  | array items =>
    rw [bytes_array]
    exact ⟨_, _, rfl, by decide⟩
  | object members =>
    rw [bytes_object]
    exact ⟨_, _, rfl, by decide⟩

private theorem exists_itemBytes (item : Value) (others : List Value) :
    ∃ first rest, itemBytes (item :: others) = first :: rest ∧ IsStart first := by
  obtain ⟨first, tail, whole, begins⟩ := exists_bytes item
  cases others with
  | nil => exact ⟨first, tail, by rw [itemBytes_single, whole], begins⟩
  | cons next rest => exact ⟨first, _, by rw [itemBytes_cons, whole, List.cons_append], begins⟩

theorem exists_memberBytes (member : String × Value) (others : List (String × Value)) :
    ∃ rest, memberBytes (member :: others) = ascii '"' :: rest := by
  obtain ⟨name, value⟩ := member
  rw [memberBytes_eq, bytes_text, encodeChars_quote, List.cons_append]
  exact ⟨_, rfl⟩

theorem dropBlanks_cons {byte : UInt8} (solid : isBlank byte = false) (rest : Bytes) :
    dropBlanks (byte :: rest) = byte :: rest := by
  simp [dropBlanks, solid]

private theorem dropBlanks_ascii {char : Char} (solid : isBlank (ascii char) = false)
    (rest : Bytes) :
    dropBlanks (ascii char :: rest) = ascii char :: rest :=
  dropBlanks_cons solid rest

/-! ## Scalars -/

private theorem scalar_number {first : UInt8} {rest : Bytes} (begins : BeginsNumber first) :
    scalar (first :: rest) = number (first :: rest) := by
  have quote : first ≠ ascii '"' := begins.ne (by decide) (by decide)
  have letterN : first ≠ ascii 'n' := begins.ne (by decide) (by decide)
  have letterT : first ≠ ascii 't' := begins.ne (by decide) (by decide)
  have letterF : first ≠ ascii 'f' := begins.ne (by decide) (by decide)
  simp [scalar, quote, letterN, letterT, letterF]

private theorem scalar_integer {value : Int} (word : IsWord value) {rest : Bytes}
    (ends : EndsNumber rest) :
    scalar (bytes (.integer value) ++ rest) = some (.integer value, rest) := by
  have read := number_ofInt word ends
  rw [← bytes_integer] at read
  obtain ⟨first, tail, whole, begins⟩ := exists_bytes_integer value
  rw [whole, List.cons_append] at read ⊢
  rw [scalar_number begins, read]

/-- What a reader of any value does where a scalar begins. -/
theorem value_of_scalar {fuel : Nat} {first : UInt8} {rest after : Bytes} {node : Node}
    (solid : isBlank first = false) (bracket : first ≠ ascii '[') (brace : first ≠ ascii '\x7b')
    (read : scalar (first :: rest) = some (node, after)) :
    value (fuel + 1) (first :: rest) = (node, some after) := by
  rw [value, dropBlanks_cons solid]
  simp only [beq_eq_false_iff_ne.mpr bracket, beq_eq_false_iff_ne.mpr brace, read,
    Bool.false_eq_true, ↓reduceIte]

/-- A literal reads back where its first character leads to it. -/
theorem value_of_literal {fuel : Nat} {word : String} {node : Node} {first : Char} {others : List Char}
    (spelled : word.toList = first :: others) (small : first.toNat < 128)
    (solid : isBlank (ascii first) = false) (bracket : ascii first ≠ ascii '[')
    (brace : ascii first ≠ ascii '\x7b')
    (leads : ∀ tail, scalar (ascii first :: tail) = literal word node (ascii first :: tail))
    (rest : Bytes) : value (fuel + 1) (Utf8.encodeChars word.toList ++ rest) = (node, some rest) := by
  have read : literal word node (Utf8.encodeChars word.toList ++ rest) = some (node, rest) := by
    rw [literal, Utf8.encode_eq_encodeChars]
    simp
  rw [spelled, encodeChars_ascii small, List.cons_append] at read ⊢
  rw [← leads] at read
  exact value_of_scalar solid bracket brace read

/-! ## Values -/

/-- Within this fuel, written values read back. -/
structure ReadsBack (fuel : Nat) : Prop where
  value : ∀ {written : Value} {rest : Bytes}, written.IsWritable → EndsNumber rest →
    2 * written.bytes.length ≤ fuel →
    value fuel (written.bytes ++ rest) = (written.node, some rest)
  items : ∀ {item : Value} {others : List Value} (rest : Bytes), ItemsWritable (item :: others) →
    2 * (itemBytes (item :: others)).length + 1 ≤ fuel →
    items fuel (itemBytes (item :: others) ++ ascii ']' :: rest) =
      (itemNodes (item :: others), some rest)
  members : ∀ {member : String × Value} {others : List (String × Value)} (rest : Bytes),
    MembersWritable (member :: others) →
    2 * (memberBytes (member :: others)).length + 1 ≤ fuel →
    members fuel (memberBytes (member :: others) ++ ascii '\x7d' :: rest) =
      (memberNodes (member :: others), some rest)

private theorem endsNumber_ascii {char : Char} (rest : Bytes)
    (other : isDigit (ascii char) = false ∧ ascii char ≠ ascii '.' ∧ ascii char ≠ ascii 'e' ∧
      ascii char ≠ ascii 'E') : EndsNumber (ascii char :: rest) :=
  endsNumber_cons other

/-- Neither a comma nor a closing brace can be taken for more of a number. -/
theorem endsNumber_moreBytes (members : List (String × Value)) (rest : Bytes) :
    EndsNumber (moreBytes members ++ ascii '\x7d' :: rest) := by
  cases members with
  | nil => exact endsNumber_ascii _ (by decide)
  | cons member others => exact endsNumber_ascii _ (by decide)

namespace ReadsBack

variable {fuel : Nat} (reads : ReadsBack fuel)

include reads

private theorem value_succ {written : Value} {rest : Bytes} (writable : written.IsWritable)
    (ends : EndsNumber rest) (enough : 2 * written.bytes.length ≤ fuel + 1) :
    Reader.value (fuel + 1) (written.bytes ++ rest) = (written.node, some rest) := by
  cases written with
  | null =>
    exact value_of_literal (show "null".toList = 'n' :: _ from rfl) (by decide) (by decide)
      (by decide) (by decide) (fun _ => rfl) rest
  | bool flag =>
    cases flag with
    | true =>
      exact value_of_literal (show "true".toList = 't' :: _ from rfl) (by decide) (by decide)
        (by decide) (by decide) (fun _ => rfl) rest
    | false =>
      exact value_of_literal (show "false".toList = 'f' :: _ from rfl) (by decide) (by decide)
        (by decide) (by decide) (fun _ => rfl) rest
  | integer number =>
    have read := scalar_integer writable ends
    obtain ⟨first, tail, whole, begins⟩ := exists_bytes_integer number
    rw [whole, List.cons_append] at read ⊢
    exact value_of_scalar begins.isStart.solid (begins.ne (by decide) (by decide))
      (begins.ne (by decide) (by decide)) read
  | text content =>
    have read := scalar_quote content rest
    rw [bytes_text]
    rw [encodeChars_quote, List.cons_append] at read ⊢
    exact value_of_scalar (by decide) (by decide) (by decide) read
  | array list =>
    rw [bytes_array] at enough ⊢
    rw [List.cons_append, List.append_assoc, List.singleton_append, Reader.value,
      dropBlanks_ascii (by decide)]
    cases list with
    | nil =>
      have nothing : itemBytes [] = [] := rfl
      rw [nothing, List.nil_append, node, itemNodes]
      simp [dropBlanks_ascii (show isBlank (ascii ']') = false by decide)]
    | cons item others =>
      rw [List.length_cons, List.length_append] at enough
      have read := reads.items rest writable (by omega)
      obtain ⟨first, tail, whole, begins⟩ := exists_itemBytes item others
      rw [whole, List.cons_append] at read ⊢
      simp [dropBlanks_cons begins.solid, begins.bracket, read, node]
  | object list =>
    rw [bytes_object] at enough ⊢
    rw [List.cons_append, List.append_assoc, List.singleton_append, Reader.value,
      dropBlanks_ascii (by decide)]
    have other : (ascii '\x7b' == ascii '[') = false := by decide
    cases list with
    | nil =>
      have nothing : memberBytes [] = [] := rfl
      rw [nothing, List.nil_append, node, memberNodes]
      simp [other, dropBlanks_ascii (show isBlank (ascii '\x7d') = false by decide)]
    | cons member others =>
      rw [List.length_cons, List.length_append] at enough
      have read := reads.members rest writable (by omega)
      obtain ⟨tail, whole⟩ := exists_memberBytes member others
      have begins : IsStart (ascii '"') := by decide
      rw [whole, List.cons_append] at read ⊢
      simp [other, dropBlanks_cons begins.solid, begins.brace, read, node]

private theorem items_succ {item : Value} {others : List Value} (rest : Bytes)
    (writable : ItemsWritable (item :: others))
    (enough : 2 * (itemBytes (item :: others)).length + 1 ≤ fuel + 1) :
    Reader.items (fuel + 1) (itemBytes (item :: others) ++ ascii ']' :: rest) =
      (itemNodes (item :: others), some rest) := by
  obtain ⟨itemWritable, othersWritable⟩ := writable
  have bracket : isBlank (ascii ']') = false := by decide
  have comma : isBlank (ascii ',') = false := by decide
  have differ : (ascii ',' == ascii ']') = false := by decide
  cases others with
  | nil =>
    rw [itemBytes_single] at enough ⊢
    have ends : EndsNumber (ascii ']' :: rest) := endsNumber_ascii rest (by decide)
    have read := reads.value itemWritable ends (by omega)
    simp [Reader.items, read, dropBlanks_ascii bracket, itemNodes]
  | cons next others =>
    rw [itemBytes_cons] at enough ⊢
    rw [List.length_append, List.length_cons] at enough
    rw [List.append_assoc, List.cons_append]
    have ends : EndsNumber (ascii ',' :: (itemBytes (next :: others) ++ ascii ']' :: rest)) :=
      endsNumber_ascii _ (by decide)
    have read := reads.value itemWritable ends (by omega)
    have later := reads.items rest othersWritable (by omega)
    simp [Reader.items, read, dropBlanks_ascii comma, differ, later, itemNodes]

private theorem members_succ {member : String × Value} {others : List (String × Value)}
    (rest : Bytes)
    (writable : MembersWritable (member :: others))
    (enough : 2 * (memberBytes (member :: others)).length + 1 ≤ fuel + 1) :
    Reader.members (fuel + 1) (memberBytes (member :: others) ++ ascii '\x7d' :: rest) =
      (memberNodes (member :: others), some rest) := by
  obtain ⟨name, content⟩ := member
  obtain ⟨contentWritable, othersWritable⟩ := writable
  have colon : isBlank (ascii ':') = false := by decide
  have brace : isBlank (ascii '\x7d') = false := by decide
  have comma : isBlank (ascii ',') = false := by decide
  have differ : (ascii ',' == ascii '\x7d') = false := by decide
  rw [memberBytes_eq, List.length_append, List.length_cons, List.length_append] at enough
  rw [memberBytes_eq, List.append_assoc, List.cons_append, List.append_assoc]
  have key (tail : Bytes) : Reader.value fuel (bytes (.text name) ++ ascii ':' :: tail) =
      (.text (.ok name), some (ascii ':' :: tail)) :=
    reads.value trivial (endsNumber_ascii _ (by decide)) (by omega)
  have read := reads.value contentWritable (endsNumber_moreBytes others rest) (by omega)
  cases others with
  | nil =>
    rw [moreBytes, List.nil_append] at read ⊢
    simp [Reader.members, key, Node.isText, dropBlanks_ascii colon, read, dropBlanks_ascii brace,
      memberNodes]
  | cons next others =>
    rw [moreBytes, List.length_cons] at enough
    rw [moreBytes, List.cons_append] at read ⊢
    have later := reads.members rest othersWritable (by omega)
    simp [Reader.members, key, Node.isText, dropBlanks_ascii colon, read, dropBlanks_ascii comma,
      differ, later, memberNodes]

end ReadsBack

private theorem reads_back (fuel : Nat) : ReadsBack fuel := by
  induction fuel with
  | zero =>
    refine ⟨fun {written} _ _ _ enough => ?_, fun _ _ enough => ?_, fun _ _ enough => ?_⟩
    · obtain ⟨first, rest, whole, -⟩ := exists_bytes written
      rw [whole] at enough
      cases enough
    · cases enough
    · cases enough
  | succ fuel inductionHypothesis =>
    exact ⟨inductionHypothesis.value_succ, inductionHypothesis.items_succ,
      inductionHypothesis.members_succ⟩

/-- A written value reads back, and the reader stops behind it. -/
theorem value_bytes {written : Value} (writable : written.IsWritable) {rest : Bytes}
    (ends : EndsNumber rest) {fuel : Nat} (enough : 2 * written.bytes.length ≤ fuel) :
    value fuel (written.bytes ++ rest) = (written.node, some rest) :=
  (reads_back fuel).value writable ends enough

end Reader

/-- A written value is the whole of its document. -/
theorem Document.read_bytes {written : Value} (writable : written.IsWritable) :
    Document.read written.bytes = ⟨written.node, true⟩ := by
  have read := Reader.value_bytes writable Reader.endsNumber_nil
    (show 2 * written.bytes.length ≤ 2 * written.bytes.length + 2 by omega)
  rw [List.append_nil] at read
  simp [Document.read, read, Reader.dropBlanks]

end RoleVault.Json
