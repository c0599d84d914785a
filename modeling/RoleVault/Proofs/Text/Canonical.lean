import RoleVault.Proofs.Text.Base64
import RoleVault.Proofs.Text.Scan

/-!
Contract: base64 that is read is what would be written.

Owns:
- `byte_of_value?` and `lastGroup_ok`, the bytes behind the symbols that were read;
- `encodeBytes_of_decodeFrom`: the bytes of a text are those that its content is written by;
- `decode_eq_ok_iff`: a text is read as some bytes exactly where they are written as that text.

Does not own: the faults of a text that is not read.
-/

namespace RoleVault.Text.Base64

open RoleVault.Text

variable {alphabet : Alphabet}

/-! ## Symbols -/

/-- A byte that writes a symbol is the byte of that symbol. -/
theorem byte_of_value? {byte : UInt8} {symbol : Nat}
    (reads : alphabet.value? byte = some symbol) :
    symbol < 64 ∧ alphabet.byte symbol = byte := by
  have same {value : Nat} (code : value = byte.toNat) : UInt8.ofNat value = byte := by
    rw [code, UInt8.ofNat_toNat]
  simp only [Alphabet.value?, Bool.and_eq_true, decide_eq_true_eq, UInt8.le_iff_toNat_le,
    UInt8.reduceToNat, beq_iff_eq] at reads
  unfold Alphabet.byte
  split at reads
  · cases reads
    rw [if_pos (by omega)]
    exact ⟨by omega, same (by omega)⟩
  · split at reads
    · cases reads
      rw [if_neg (by omega), if_pos (by omega)]
      exact ⟨by omega, same (by omega)⟩
    · split at reads
      · cases reads
        rw [if_neg (by omega), if_neg (by omega), if_pos (by omega)]
        exact ⟨by omega, same (by omega)⟩
      · split at reads
        · rename_i symbol62
          cases reads
          simp [symbol62]
        · split at reads
          · rename_i symbol63
            cases reads
            simp [symbol63]
          · cases reads

private theorem symbolAt_ok {offset symbol : Nat} {byte : UInt8}
    (reads : alphabet.symbolAt offset byte = .ok symbol) :
    symbol < 64 ∧ alphabet.byte symbol = byte := by
  unfold Alphabet.symbolAt at reads
  split at reads
  · rename_i value
    cases reads
    exact byte_of_value? value
  · cases reads

/-! ## The last group -/

/-- A last group that is read consists of the bytes of its symbols, and after them of padding. -/
theorem lastGroup_ok {start place padding : Nat} {symbols : List (Nat × UInt8)}
    {bytes : List UInt8} (reads : alphabet.lastGroup start place bytes = .ok (symbols, padding)) :
    bytes = symbols.map Prod.snd ++ List.replicate padding pad ∧
      ∀ symbol ∈ symbols, symbol.1 < 64 ∧ alphabet.byte symbol.1 = symbol.2 := by
  induction bytes generalizing place symbols with
  | nil =>
    cases reads
    simp
  | cons byte rest inductionHypothesis =>
    rw [Alphabet.lastGroup] at reads
    by_cases isPad : byte = pad
    · rw [if_pos (beq_iff_eq.mpr isPad)] at reads
      split at reads
      · cases reads
      · split at reads
        · rename_i allPad
          cases reads
          have rest_eq : rest = List.replicate rest.length pad := by
            apply List.eq_replicate_of_mem
            intro other member
            exact beq_iff_eq.mp (List.all_eq_true.mp allPad other member)
          rw [isPad, List.replicate_succ, ← rest_eq]
          simp
        · cases reads
    · rw [if_neg (by simpa using isPad)] at reads
      simp only [bind_eq_ok_iff] at reads
      obtain ⟨symbol, first, others, later, returns⟩ := reads
      cases returns
      have rest := inductionHypothesis later
      rw [List.forall_mem_cons, List.map_cons, List.cons_append, ← rest.1]
      exact ⟨rfl, symbolAt_ok first, rest.2⟩

/-- Padding that makes a group of some symbols whole, where the form asks for it, is the padding that
fills the group. -/
theorem replicate_eq_fill {count padding : Nat} (some : 1 ≤ count) (short : count + padding ≤ 4)
    (whole : if alphabet.padded then (padding + count) % 4 = 0 else padding = 0) :
    List.replicate padding pad = alphabet.fill (4 - count) := by
  unfold Alphabet.fill
  split at whole
  · rename_i padded
    rw [if_pos padded]
    congr 1
    omega
  · rename_i unpadded
    rw [if_neg unpadded, whole, List.replicate_zero]

/-! ## Groups -/

section Group

variable {one two three four : Nat} (first : one < 64) (second : two < 64) (third : three < 64)
  (fourth : four < 64)

include first second in
private theorem toNat_firstByte :
    (UInt8.ofNat (one * 4 + two / 16)).toNat = one * 4 + two / 16 := by
  rw [UInt8.toNat_ofNat']
  omega

include third in
private theorem toNat_secondByte :
    (UInt8.ofNat (two % 16 * 16 + three / 4)).toNat = two % 16 * 16 + three / 4 := by
  rw [UInt8.toNat_ofNat']
  omega

include fourth in
private theorem toNat_thirdByte :
    (UInt8.ofNat (three % 4 * 64 + four)).toNat = three % 4 * 64 + four := by
  rw [UInt8.toNat_ofNat']
  omega

include first second in
private theorem encodeBytes_one (spare : two % 16 = 0) :
    alphabet.encodeBytes [UInt8.ofNat (one * 4 + two / 16)] =
      [alphabet.byte one, alphabet.byte two] ++ alphabet.fill 2 := by
  have high : (one * 4 + two / 16) / 4 = one := by omega
  have low : (one * 4 + two / 16) % 4 * 16 = two := by omega
  rw [Alphabet.encodeBytes, toNat_firstByte first second, high, low]

include first second third in
private theorem encodeBytes_two (spare : three % 4 = 0) :
    alphabet.encodeBytes
        [UInt8.ofNat (one * 4 + two / 16), UInt8.ofNat (two % 16 * 16 + three / 4)] =
      [alphabet.byte one, alphabet.byte two, alphabet.byte three] ++ alphabet.fill 1 := by
  have high : (one * 4 + two / 16) / 4 = one := by omega
  have middle : (one * 4 + two / 16) % 4 * 16 + (two % 16 * 16 + three / 4) / 16 = two := by omega
  have low : (two % 16 * 16 + three / 4) % 16 * 4 = three := by omega
  rw [Alphabet.encodeBytes, toNat_firstByte first second, toNat_secondByte third, high, middle, low]

include first second third fourth in
/-- The bytes that four symbols carry are written by those symbols. -/
theorem encodeBytes_three (rest : List UInt8) :
    alphabet.encodeBytes (UInt8.ofNat (one * 4 + two / 16) ::
        UInt8.ofNat (two % 16 * 16 + three / 4) :: UInt8.ofNat (three % 4 * 64 + four) :: rest) =
      alphabet.byte one :: alphabet.byte two :: alphabet.byte three :: alphabet.byte four ::
        alphabet.encodeBytes rest := by
  have high : (one * 4 + two / 16) / 4 = one := by omega
  have upper : (one * 4 + two / 16) % 4 * 16 + (two % 16 * 16 + three / 4) / 16 = two := by omega
  have lower : (two % 16 * 16 + three / 4) % 16 * 4 + (three % 4 * 64 + four) / 64 = three := by
    omega
  have low : (three % 4 * 64 + four) % 64 = four := by omega
  rw [Alphabet.encodeBytes, toNat_firstByte first second, toNat_secondByte third,
    toNat_thirdByte fourth, high, upper, lower, low]

end Group

/-- The bytes that the symbols of the last group carry. -/
def lastContent (start : Nat) : List (Nat × UInt8) → Except DecodeError (List UInt8)
  | [(one, _), (two, last)] =>
    if two % 16 != 0 then .error (.invalidLastSymbol (start + 1) last)
    else .ok [UInt8.ofNat (one * 4 + two / 16)]
  | [(one, _), (two, _), (three, last)] =>
    if three % 4 != 0 then .error (.invalidLastSymbol (start + 2) last)
    else .ok [UInt8.ofNat (one * 4 + two / 16), UInt8.ofNat (two % 16 * 16 + three / 4)]
  | [(one, _), (two, _), (three, _), (four, _)] =>
    .ok [UInt8.ofNat (one * 4 + two / 16), UInt8.ofNat (two % 16 * 16 + three / 4),
      UInt8.ofNat (three % 4 * 64 + four)]
  | _ => .ok []

/-- A last group that is read has symbols that carry its content, at least two if there is any text,
and the padding that the form asks for. -/
theorem decodeLast_ok {start : Nat} {bytes content : List UInt8}
    (reads : alphabet.decodeLast start bytes = .ok content) :
    ∃ symbols padding, alphabet.lastGroup start 0 bytes = .ok (symbols, padding) ∧
      (bytes ≠ [] → 2 ≤ symbols.length) ∧
      (if alphabet.padded then (padding + symbols.length) % 4 = 0 else padding = 0) ∧
      lastContent start symbols = .ok content := by
  unfold Alphabet.decodeLast at reads
  obtain ⟨⟨symbols, padding⟩, group, reads⟩ := bind_eq_ok_iff.mp reads
  refine ⟨symbols, padding, group, ?_⟩
  simp only [bind, Except.bind] at reads
  split at reads
  · cases reads
  · rename_i filled
    have enough : bytes ≠ [] → 2 ≤ symbols.length := by
      intro text
      apply Nat.le_of_not_lt
      intro fewer
      exact filled (by simp [text, fewer])
    refine ⟨enough, ?_⟩
    split at reads
    · rename_i padded
      split at reads
      · cases reads
      · rename_i whole
        rw [if_pos padded]
        exact ⟨by simpa using whole, reads⟩
    · rename_i unpadded
      split at reads
      · cases reads
      · rename_i whole
        rw [if_neg unpadded]
        exact ⟨by simpa using whole, reads⟩

/-- What two to four symbols carry is written by the bytes of those symbols, filled up to a group. -/
theorem encodeBytes_of_lastContent {start : Nat} {symbols : List (Nat × UInt8)}
    {content : List UInt8} (enough : 2 ≤ symbols.length) (short : symbols.length ≤ 4)
    (written : ∀ symbol ∈ symbols, symbol.1 < 64 ∧ alphabet.byte symbol.1 = symbol.2)
    (reads : lastContent start symbols = .ok content) :
    alphabet.encodeBytes content =
      symbols.map Prod.snd ++ alphabet.fill (4 - symbols.length) := by
  match symbols, enough, short with
  | [one, two], _, _ =>
    simp only [List.forall_mem_cons, List.not_mem_nil, false_imp_iff, implies_true, and_true]
      at written
    rw [lastContent] at reads
    split at reads
    · cases reads
    · rename_i spare
      cases reads
      rw [encodeBytes_one written.1.1 written.2.1 (by simpa using spare), written.1.2, written.2.2]
      rfl
  | [one, two, three], _, _ =>
    simp only [List.forall_mem_cons, List.not_mem_nil, false_imp_iff, implies_true, and_true]
      at written
    rw [lastContent] at reads
    split at reads
    · cases reads
    · rename_i spare
      cases reads
      rw [encodeBytes_two written.1.1 written.2.1.1 written.2.2.1 (by simpa using spare),
        written.1.2, written.2.1.2, written.2.2.2]
      rfl
  | [one, two, three, four], _, _ =>
    simp only [List.forall_mem_cons, List.not_mem_nil, false_imp_iff, implies_true, and_true]
      at written
    cases reads
    rw [encodeBytes_three written.1.1 written.2.1.1 written.2.2.1.1 written.2.2.2.1,
      written.1.2, written.2.1.2, written.2.2.1.2, written.2.2.2.2]
    have none : alphabet.fill 0 = [] := by
      unfold Alphabet.fill
      split <;> rfl
    simp [Alphabet.encodeBytes, none]

/-- At most four bytes that are read as the last group are what would be written of its content. -/
theorem encodeBytes_of_decodeLast {start : Nat} {bytes content : List UInt8}
    (short : bytes.length ≤ 4) (reads : alphabet.decodeLast start bytes = .ok content) :
    alphabet.encodeBytes content = bytes := by
  obtain ⟨symbols, padding, group, enough, whole, carries⟩ := decodeLast_ok reads
  have parts := lastGroup_ok group
  by_cases none : bytes = []
  · subst none
    cases group
    cases carries
    rfl
  · have length := congrArg List.length parts.1
    rw [List.length_append, List.length_map, List.length_replicate] at length
    rw [encodeBytes_of_lastContent (enough none) (by omega) parts.2 carries,
      ← replicate_eq_fill (Nat.le_of_succ_le (enough none)) (by omega) whole, ← parts.1]

/-! ## Whole sequences -/

/-- The bytes of a text that is read are those that its content is written by: full groups, then the
last one. -/
theorem encodeBytes_of_decodeFrom (start : Nat) {bytes content : List UInt8}
    (reads : alphabet.decodeFrom start bytes = .ok content) :
    alphabet.encodeBytes content = bytes := by
  match bytes with
  | one :: two :: three :: four :: next :: rest =>
    rw [Alphabet.decodeFrom] at reads
    simp only [bind_eq_ok_iff] at reads
    obtain ⟨symbolOne, first, symbolTwo, second, symbolThree, third, symbolFour, fourth, further,
      later, returns⟩ := reads
    cases returns
    have writtenOne := symbolAt_ok first
    have writtenTwo := symbolAt_ok second
    have writtenThree := symbolAt_ok third
    have writtenFour := symbolAt_ok fourth
    rw [encodeBytes_three writtenOne.1 writtenTwo.1 writtenThree.1 writtenFour.1, writtenOne.2,
      writtenTwo.2, writtenThree.2, writtenFour.2, encodeBytes_of_decodeFrom (start + 4) later]
  | [] | [_] | [_, _] | [_, _, _] | [_, _, _, _] =>
    exact encodeBytes_of_decodeLast (by simp) reads

private theorem encodeBytes_of_decodeBytes {bytes content : List UInt8}
    (reads : alphabet.decodeBytes bytes = .ok content) : alphabet.encodeBytes content = bytes := by
  unfold Alphabet.decodeBytes at reads
  split at reads
  · cases reads
  · exact encodeBytes_of_decodeFrom 0 reads

/-- A text is read as some bytes exactly where it is what would be written of them. -/
theorem decode_eq_ok_iff (lawful : alphabet.IsLawful) {text : String} {bytes : List UInt8} :
    decode alphabet text = .ok bytes ↔ text = encode alphabet bytes := by
  constructor
  · intro reads
    apply Utf8.encode_injective
    rw [encode, Utf8.encode_ofList_ascii (encodeBytes_ascii lawful bytes)]
    exact (encodeBytes_of_decodeBytes reads).symm
  · rintro rfl
    exact decode_encode lawful bytes

end RoleVault.Text.Base64
