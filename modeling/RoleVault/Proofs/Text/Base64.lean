import RoleVault.Proofs.Text.Utf8
import RoleVault.Text.Base64

/-!
Contract: written base64 reads back.

Owns:
- `IsLawful`, what an alphabet has to satisfy, and that both alphabets do;
- `decodeBytes_encodeBytes` and `decode_encode`: encoding loses nothing, at every length;
- the length of an encoded text, and the bytes that it is made of.

Does not own: which texts are not in the form, and their faults.
-/

namespace RoleVault.Text.Base64

open RoleVault.Text

/-! ## Alphabets -/

/-- Every symbol is written by a byte of ASCII of its own, which is not the padding. -/
def Alphabet.IsLawful (alphabet : Alphabet) : Prop :=
  ∀ symbol : Fin 64,
    alphabet.value? (alphabet.byte symbol) = some symbol.val ∧
      alphabet.byte symbol ≠ pad ∧ alphabet.byte symbol < 128

instance (alphabet : Alphabet) : Decidable alphabet.IsLawful := by
  unfold Alphabet.IsLawful
  infer_instance

theorem isLawful_standard : standard.IsLawful := by decide

theorem isLawful_urlSafe : urlSafe.IsLawful := by decide

section Lawful

variable {alphabet : Alphabet} (lawful : alphabet.IsLawful)

include lawful

private theorem value?_byte {symbol : Nat} (small : symbol < 64) :
    alphabet.value? (alphabet.byte symbol) = some symbol :=
  (lawful ⟨symbol, small⟩).1

private theorem byte_ne_pad {symbol : Nat} (small : symbol < 64) : alphabet.byte symbol ≠ pad :=
  (lawful ⟨symbol, small⟩).2.1

private theorem byte_ascii {symbol : Nat} (small : symbol < 64) : alphabet.byte symbol < 128 :=
  (lawful ⟨symbol, small⟩).2.2

private theorem symbolAt_byte {symbol : Nat} (small : symbol < 64) (offset : Nat) :
    alphabet.symbolAt offset (alphabet.byte symbol) = .ok symbol := by
  rw [Alphabet.symbolAt, value?_byte lawful small]

/-- A symbol in front of the last group is read before the rest of it. -/
theorem lastGroup_byte {symbol : Nat} (small : symbol < 64) (start place : Nat)
    (rest : List UInt8) :
    alphabet.lastGroup start place (alphabet.byte symbol :: rest) =
      (alphabet.lastGroup start (place + 1) rest).map fun (symbols, padding) =>
        ((symbol, alphabet.byte symbol) :: symbols, padding) := by
  have notPad : (alphabet.byte symbol == pad) = false := by
    simpa using byte_ne_pad lawful small
  rw [Alphabet.lastGroup, notPad]
  simp only [Bool.false_eq_true, ↓reduceIte, symbolAt_byte lawful small]
  cases alphabet.lastGroup start (place + 1) rest <;> rfl

/-! ## Groups -/

omit lawful in
private theorem length_fill (count : Nat) :
    (alphabet.fill count).length = if alphabet.padded then count else 0 := by
  unfold Alphabet.fill
  split <;> simp

omit lawful in
private theorem lastGroup_nil (start place : Nat) :
    alphabet.lastGroup start place [] = .ok ([], 0) := by
  rw [Alphabet.lastGroup]

omit lawful in
private theorem lastGroup_fill {start place count : Nat} (late : 2 ≤ place) :
    alphabet.lastGroup start place (alphabet.fill count) =
      .ok ([], (alphabet.fill count).length) := by
  unfold Alphabet.fill
  cases alphabet.padded with
  | false => rfl
  | true =>
    cases count with
    | zero => rfl
    | succ count =>
      have early : ¬place < 2 := by omega
      simp [List.replicate_succ, Alphabet.lastGroup, early]

private theorem decodeLast_one (start : Nat) (one : UInt8) :
    alphabet.decodeLast start (alphabet.encodeBytes [one]) = .ok [one] := by
  have bound := one.toNat_lt
  have first : one.toNat / 4 < 64 := by omega
  have second : one.toNat % 4 * 16 < 64 := by omega
  have spare : one.toNat % 4 * 16 % 16 = 0 := by omega
  have value : UInt8.ofNat (one.toNat / 4 * 4 + one.toNat % 4 * 16 / 16) = one := by
    rw [show one.toNat / 4 * 4 + one.toNat % 4 * 16 / 16 = one.toNat by omega]
    exact UInt8.ofNat_toNat
  have read : alphabet.lastGroup start 0 (alphabet.encodeBytes [one]) =
      .ok ([(one.toNat / 4, alphabet.byte (one.toNat / 4)),
        (one.toNat % 4 * 16, alphabet.byte (one.toNat % 4 * 16))],
        if alphabet.padded then 2 else 0) := by
    simp only [Alphabet.encodeBytes, List.cons_append, List.nil_append,
      lastGroup_byte lawful first, lastGroup_byte lawful second, lastGroup_fill (Nat.le_refl 2),
      Except.map, length_fill]
  rw [Alphabet.decodeLast, read]
  cases alphabet.padded <;>
    simp only [Alphabet.encodeBytes, bind, Except.bind, spare, value] <;> simp [pure, Except.pure]

private theorem decodeLast_two (start : Nat) (one two : UInt8) :
    alphabet.decodeLast start (alphabet.encodeBytes [one, two]) = .ok [one, two] := by
  have oneBound := one.toNat_lt
  have twoBound := two.toNat_lt
  have first : one.toNat / 4 < 64 := by omega
  have second : one.toNat % 4 * 16 + two.toNat / 16 < 64 := by omega
  have third : two.toNat % 16 * 4 < 64 := by omega
  have spare : two.toNat % 16 * 4 % 4 = 0 := by omega
  have oneValue :
      UInt8.ofNat (one.toNat / 4 * 4 + (one.toNat % 4 * 16 + two.toNat / 16) / 16) = one := by
    rw [show one.toNat / 4 * 4 + (one.toNat % 4 * 16 + two.toNat / 16) / 16 = one.toNat by omega]
    exact UInt8.ofNat_toNat
  have twoValue : UInt8.ofNat
      ((one.toNat % 4 * 16 + two.toNat / 16) % 16 * 16 + two.toNat % 16 * 4 / 4) = two := by
    rw [show (one.toNat % 4 * 16 + two.toNat / 16) % 16 * 16 + two.toNat % 16 * 4 / 4 =
      two.toNat by omega]
    exact UInt8.ofNat_toNat
  have read : alphabet.lastGroup start 0 (alphabet.encodeBytes [one, two]) =
      .ok ([(one.toNat / 4, alphabet.byte (one.toNat / 4)),
        (one.toNat % 4 * 16 + two.toNat / 16,
          alphabet.byte (one.toNat % 4 * 16 + two.toNat / 16)),
        (two.toNat % 16 * 4, alphabet.byte (two.toNat % 16 * 4))],
        if alphabet.padded then 1 else 0) := by
    simp only [Alphabet.encodeBytes, List.cons_append, List.nil_append,
      lastGroup_byte lawful first, lastGroup_byte lawful second, lastGroup_byte lawful third,
      lastGroup_fill (by decide : 2 ≤ 0 + 1 + 1 + 1), Except.map, length_fill]
  rw [Alphabet.decodeLast, read]
  cases alphabet.padded <;>
    simp only [Alphabet.encodeBytes, bind, Except.bind, spare, oneValue, twoValue] <;>
    simp [pure, Except.pure]

omit lawful in
/-- The three bytes that four symbols carry. -/
theorem carried (one two three : UInt8) :
    UInt8.ofNat (one.toNat / 4 * 4 + (one.toNat % 4 * 16 + two.toNat / 16) / 16) = one ∧
      UInt8.ofNat ((one.toNat % 4 * 16 + two.toNat / 16) % 16 * 16 +
        (two.toNat % 16 * 4 + three.toNat / 64) / 4) = two ∧
      UInt8.ofNat ((two.toNat % 16 * 4 + three.toNat / 64) % 4 * 64 + three.toNat % 64) =
        three := by
  have oneBound := one.toNat_lt
  have twoBound := two.toNat_lt
  have threeBound := three.toNat_lt
  refine ⟨?_, ?_, ?_⟩
  · rw [show one.toNat / 4 * 4 + (one.toNat % 4 * 16 + two.toNat / 16) / 16 = one.toNat by omega]
    exact UInt8.ofNat_toNat
  · rw [show (one.toNat % 4 * 16 + two.toNat / 16) % 16 * 16 +
      (two.toNat % 16 * 4 + three.toNat / 64) / 4 = two.toNat by omega]
    exact UInt8.ofNat_toNat
  · rw [show (two.toNat % 16 * 4 + three.toNat / 64) % 4 * 64 + three.toNat % 64 =
      three.toNat by omega]
    exact UInt8.ofNat_toNat

omit lawful in
/-- The four symbols of three bytes are below sixty-four. -/
theorem symbols_small (one two three : UInt8) :
    one.toNat / 4 < 64 ∧ one.toNat % 4 * 16 + two.toNat / 16 < 64 ∧
      two.toNat % 16 * 4 + three.toNat / 64 < 64 ∧ three.toNat % 64 < 64 := by
  have oneBound := one.toNat_lt
  have twoBound := two.toNat_lt
  have threeBound := three.toNat_lt
  omega

private theorem decodeLast_three (start : Nat) (one two three : UInt8) :
    alphabet.decodeLast start (alphabet.encodeBytes [one, two, three]) =
      .ok [one, two, three] := by
  obtain ⟨first, second, third, fourth⟩ := symbols_small one two three
  obtain ⟨oneValue, twoValue, threeValue⟩ := carried one two three
  have read : alphabet.lastGroup start 0 (alphabet.encodeBytes [one, two, three]) =
      .ok ([(one.toNat / 4, alphabet.byte (one.toNat / 4)),
        (one.toNat % 4 * 16 + two.toNat / 16,
          alphabet.byte (one.toNat % 4 * 16 + two.toNat / 16)),
        (two.toNat % 16 * 4 + three.toNat / 64,
          alphabet.byte (two.toNat % 16 * 4 + three.toNat / 64)),
        (three.toNat % 64, alphabet.byte (three.toNat % 64))], 0) := by
    simp only [Alphabet.encodeBytes, lastGroup_byte lawful first, lastGroup_byte lawful second,
      lastGroup_byte lawful third, lastGroup_byte lawful fourth, lastGroup_nil, Except.map]
  rw [Alphabet.decodeLast, read]
  cases alphabet.padded <;>
    simp only [Alphabet.encodeBytes, bind, Except.bind, oneValue, twoValue, threeValue] <;>
    simp [pure, Except.pure]

/-! ## Whole sequences -/

omit lawful in
private theorem encodeBytes_ne_nil {bytes : List UInt8} (filled : bytes ≠ []) :
    alphabet.encodeBytes bytes ≠ [] := by
  match bytes, filled with
  | [_], _ => simp [Alphabet.encodeBytes]
  | [_, _], _ => simp [Alphabet.encodeBytes]
  | _ :: _ :: _ :: _, _ => simp [Alphabet.encodeBytes]

/-- Four symbols with more text after them are a full group. -/
theorem decodeFrom_group (start : Nat) (one two three : UInt8) {rest : List UInt8}
    (filled : rest ≠ []) :
    alphabet.decodeFrom start (alphabet.encodeBytes (one :: two :: three :: rest)) =
      (alphabet.decodeFrom (start + 4) (alphabet.encodeBytes rest)).map
        ([one, two, three] ++ ·) := by
  obtain ⟨first, second, third, fourth⟩ := symbols_small one two three
  obtain ⟨oneValue, twoValue, threeValue⟩ := carried one two three
  have more : alphabet.encodeBytes rest ≠ [] := encodeBytes_ne_nil filled
  obtain ⟨next, later, more⟩ := List.exists_cons_of_ne_nil more
  rw [Alphabet.encodeBytes, more, Alphabet.decodeFrom]
  simp only [symbolAt_byte lawful first, symbolAt_byte lawful second, symbolAt_byte lawful third,
    symbolAt_byte lawful fourth, bind, Except.bind, oneValue, twoValue, threeValue]
  cases alphabet.decodeFrom (start + 4) (next :: later) <;> rfl

omit lawful in
/-- At most four bytes of text are the last group. -/
theorem decodeFrom_short (start : Nat) {bytes : List UInt8} (short : bytes.length ≤ 4) :
    alphabet.decodeFrom start bytes = alphabet.decodeLast start bytes := by
  match bytes, short with
  | [], _ => rfl
  | [_], _ => rfl
  | [_, _], _ => rfl
  | [_, _, _], _ => rfl
  | [_, _, _, _], _ => rfl

private theorem decodeFrom_encodeBytes (start : Nat) (bytes : List UInt8) :
    alphabet.decodeFrom start (alphabet.encodeBytes bytes) = .ok bytes := by
  match bytes with
  | [] => simp [Alphabet.encodeBytes, Alphabet.decodeFrom, Alphabet.decodeLast,
      Alphabet.lastGroup, bind, Except.bind, pure, Except.pure]
  | [one] =>
    rw [decodeFrom_short, decodeLast_one lawful]
    simp only [Alphabet.encodeBytes, List.length_append, length_fill]
    split <;> simp
  | [one, two] =>
    rw [decodeFrom_short, decodeLast_two lawful]
    simp only [Alphabet.encodeBytes, List.length_append, length_fill]
    split <;> simp
  | [one, two, three] =>
    rw [decodeFrom_short, decodeLast_three lawful]
    simp [Alphabet.encodeBytes]
  | one :: two :: three :: next :: rest =>
    rw [decodeFrom_group lawful start one two three (List.cons_ne_nil next rest),
      decodeFrom_encodeBytes (start + 4) (next :: rest)]
    rfl

omit lawful in
/-- The number of bytes in the last group says how many symbols it has. -/
theorem length_encodeBytes (bytes : List UInt8) :
    (alphabet.encodeBytes bytes).length =
      bytes.length / 3 * 4 +
        if bytes.length % 3 = 0 then 0
        else if alphabet.padded then 4 else bytes.length % 3 + 1 := by
  match bytes with
  | [] => rfl
  | [one] =>
    simp only [Alphabet.encodeBytes, List.length_append, length_fill]
    split <;> simp_all
  | [one, two] =>
    simp only [Alphabet.encodeBytes, List.length_append, length_fill]
    split <;> simp_all
  | one :: two :: three :: rest =>
    simp only [Alphabet.encodeBytes, List.length_cons, length_encodeBytes rest]
    have whole : (rest.length + 1 + 1 + 1) / 3 = rest.length / 3 + 1 := by omega
    have part : (rest.length + 1 + 1 + 1) % 3 = rest.length % 3 := by omega
    rw [whole, part]
    omega

omit lawful in
/-- An encoded sequence never leaves a single byte over after its full groups. -/
theorem strayByte?_encodeBytes (bytes : List UInt8) :
    alphabet.strayByte? (alphabet.encodeBytes bytes) = none := by
  have whole : (alphabet.encodeBytes bytes).length % 4 ≠ 1 := by
    rw [length_encodeBytes]
    split
    · omega
    · split <;> omega
  rw [Alphabet.strayByte?, if_neg whole]

/-- Bytes read back from their base64 form. -/
theorem decodeBytes_encodeBytes (bytes : List UInt8) :
    alphabet.decodeBytes (alphabet.encodeBytes bytes) = .ok bytes := by
  rw [Alphabet.decodeBytes, strayByte?_encodeBytes, decodeFrom_encodeBytes lawful]

/-! ## Texts -/

omit lawful in
/-- What holds of the bytes of all symbols, and of the padding where there is any, holds of an encoded
sequence. -/
theorem forall_mem_encodeBytes {property : UInt8 → Prop}
    (symbols : ∀ symbol < 64, property (alphabet.byte symbol))
    (padding : alphabet.padded = true → property pad) (bytes : List UInt8) :
    ∀ byte ∈ alphabet.encodeBytes bytes, property byte := by
  have fill (count : Nat) : ∀ byte ∈ alphabet.fill count, property byte := by
    intro byte member
    unfold Alphabet.fill at member
    split at member
    · rename_i padded
      rw [(List.mem_replicate.mp member).2]
      exact padding padded
    · cases member
  match bytes with
  | [] => simp [Alphabet.encodeBytes]
  | [one] =>
    have bound := one.toNat_lt
    intro byte member
    simp only [Alphabet.encodeBytes, List.mem_append, List.mem_cons, List.not_mem_nil,
      or_false] at member
    rcases member with (rfl | rfl) | padding
    · exact symbols _ (by omega)
    · exact symbols _ (by omega)
    · exact fill 2 byte padding
  | [one, two] =>
    have oneBound := one.toNat_lt
    have twoBound := two.toNat_lt
    intro byte member
    simp only [Alphabet.encodeBytes, List.mem_append, List.mem_cons, List.not_mem_nil,
      or_false] at member
    rcases member with (rfl | rfl | rfl) | padding
    · exact symbols _ (by omega)
    · exact symbols _ (by omega)
    · exact symbols _ (by omega)
    · exact fill 1 byte padding
  | one :: two :: three :: rest =>
    obtain ⟨first, second, third, fourth⟩ := symbols_small one two three
    intro byte member
    simp only [Alphabet.encodeBytes, List.mem_cons] at member
    rcases member with rfl | rfl | rfl | rfl | later
    · exact symbols _ first
    · exact symbols _ second
    · exact symbols _ third
    · exact symbols _ fourth
    · exact forall_mem_encodeBytes symbols padding rest byte later

/-- Padding stands in an encoded sequence unless its bytes fill the last group. -/
theorem pad_mem_encodeBytes_iff (padded : alphabet.padded = true) (bytes : List UInt8) :
    pad ∈ alphabet.encodeBytes bytes ↔ bytes.length % 3 ≠ 0 := by
  match bytes with
  | [] => simp [Alphabet.encodeBytes]
  | [_] => simp [Alphabet.encodeBytes, Alphabet.fill, padded]
  | [_, _] => simp [Alphabet.encodeBytes, Alphabet.fill, padded]
  | one :: two :: three :: rest =>
    obtain ⟨first, second, third, fourth⟩ := symbols_small one two three
    have length : (one :: two :: three :: rest).length % 3 = rest.length % 3 := by
      simp only [List.length_cons]
      omega
    rw [length, ← pad_mem_encodeBytes_iff padded rest]
    simp only [Alphabet.encodeBytes, List.mem_cons, (byte_ne_pad lawful first).symm,
      (byte_ne_pad lawful second).symm, (byte_ne_pad lawful third).symm,
      (byte_ne_pad lawful fourth).symm, false_or]

/-- Base64 is written in ASCII. -/
theorem encodeBytes_ascii (bytes : List UInt8) :
    ∀ byte ∈ alphabet.encodeBytes bytes, byte < 128 :=
  forall_mem_encodeBytes (fun _ small => byte_ascii lawful small) (fun _ => by decide) bytes

/-- Encoding loses nothing, whatever the bytes and their number. -/
theorem decode_encode (bytes : List UInt8) :
    decode alphabet (encode alphabet bytes) = .ok bytes := by
  rw [decode, encode, Utf8.encode_ofList_ascii (encodeBytes_ascii lawful bytes),
    decodeBytes_encodeBytes lawful]

end Lawful

private theorem toNat_ofByte (byte : UInt8) : (Char.ofNat byte.toNat).toNat = byte.toNat := by
  have bound := byte.toNat_lt
  have valid : byte.toNat.isValidChar := .inl (by omega)
  rw [Char.ofNat, dif_pos valid]
  exact UInt32.toNat_ofNatLT

theorem length_encode (alphabet : Alphabet) (bytes : List UInt8) :
    (encode alphabet bytes).toList.length = (alphabet.encodeBytes bytes).length := by
  rw [encode, String.toList_ofList, List.length_map]

/-- Each character of an encoded text stands for one byte. -/
theorem mem_encode_iff {alphabet : Alphabet} (byte : UInt8) (bytes : List UInt8) :
    Char.ofNat byte.toNat ∈ (encode alphabet bytes).toList ↔ byte ∈ alphabet.encodeBytes bytes := by
  rw [encode, String.toList_ofList, List.mem_map]
  constructor
  · rintro ⟨written, member, same⟩
    have codes := congrArg Char.toNat same
    rw [toNat_ofByte, toNat_ofByte, UInt8.toNat_inj] at codes
    rwa [← codes]
  · intro member
    exact ⟨byte, member, rfl⟩

/-- The form without padding never writes a dot. -/
theorem dot_not_mem_encode (bytes : List UInt8) : '.' ∉ (encode urlSafe bytes).toList := by
  have symbols : ∀ symbol : Fin 64, urlSafe.byte symbol.val ≠ 46 := by decide
  have plain := @forall_mem_encodeBytes urlSafe (· ≠ 46)
    (fun symbol small => symbols ⟨symbol, small⟩) (fun padded => by cases padded) bytes
  intro member
  exact plain 46 ((mem_encode_iff 46 bytes).mp member) rfl

end RoleVault.Text.Base64
