import RoleVault.Text.Utf8

/-!
Contract: text of ASCII characters as bytes, and the parts of a text as parts of its bytes.

Owns:
- `encodeChars`, the bytes of a row of characters, and the bytes of single characters;
- `encode_ofList_ascii`, and what encoding makes of the empty text and of a text put together;
- `decode?_eq_some_iff`: strict reading is the converse of writing.

Does not own: what becomes of bytes that no text wrote (`RoleVault.Proofs.Text.Lossy`).
-/

namespace RoleVault.Text.Utf8

/-- The bytes of a row of characters. -/
def encodeChars (chars : List Char) : List UInt8 :=
  chars.flatMap String.utf8EncodeChar

@[simp] theorem encodeChars_nil : encodeChars [] = [] :=
  rfl

theorem encodeChars_cons (char : Char) (rest : List Char) :
    encodeChars (char :: rest) = String.utf8EncodeChar char ++ encodeChars rest :=
  List.flatMap_cons

@[simp] theorem encodeChars_append (left right : List Char) :
    encodeChars (left ++ right) = encodeChars left ++ encodeChars right :=
  List.flatMap_append

theorem encode_ofList (chars : List Char) : encode (String.ofList chars) = encodeChars chars := by
  simp [encode, encodeChars, List.utf8Encode]

theorem encode_eq_encodeChars (text : String) : encode text = encodeChars text.toList := by
  rw [← encode_ofList, String.ofList_toList]

/-- A character of ASCII is written by its code. -/
theorem utf8EncodeChar_of_lt {char : Char} (ascii : char.toNat < 128) :
    String.utf8EncodeChar char = [UInt8.ofNat char.toNat] := by
  have small : char.val.toNat ≤ 127 := Nat.le_of_lt_succ ascii
  simp only [String.utf8EncodeChar, if_pos small]
  rfl

/-- The bytes of any other character lie beyond ASCII. -/
theorem le_of_mem_utf8EncodeChar {char : Char} (wide : 128 ≤ char.toNat) {byte : UInt8}
    (member : byte ∈ String.utf8EncodeChar char) : 128 ≤ byte.toNat := by
  have large : ¬char.val.toNat ≤ 127 := Nat.not_le.mpr wide
  have ofNat_bound {value : Nat} (least : 128 ≤ value) (most : value < 256) :
      128 ≤ (UInt8.ofNat value).toNat := by
    rw [UInt8.toNat_ofNat']
    omega
  simp only [String.utf8EncodeChar, if_neg large] at member
  split at member
  · simp only [List.mem_cons, List.not_mem_nil, or_false] at member
    rcases member with rfl | rfl <;> exact ofNat_bound (by omega) (by omega)
  · split at member
    · simp only [List.mem_cons, List.not_mem_nil, or_false] at member
      rcases member with rfl | rfl | rfl <;> exact ofNat_bound (by omega) (by omega)
    · simp only [List.mem_cons, List.not_mem_nil, or_false] at member
      rcases member with rfl | rfl | rfl | rfl <;> exact ofNat_bound (by omega) (by omega)

/-- A character of ASCII is one byte. -/
theorem utf8EncodeChar_ascii {byte : UInt8} (ascii : byte < 128) :
    String.utf8EncodeChar (Char.ofNat byte.toNat) = [byte] := by
  have table : ∀ code : Fin 128,
      String.utf8EncodeChar (Char.ofNat code.val) = [UInt8.ofNat code.val] := by decide
  have small : byte.toNat < 128 := UInt8.lt_iff_toNat_lt.mp ascii
  rw [table ⟨byte.toNat, small⟩, UInt8.ofNat_toNat]

/-- A text of ASCII characters is written by their codes. -/
theorem encode_ofList_ascii {bytes : List UInt8} (ascii : ∀ byte ∈ bytes, byte < 128) :
    encode (String.ofList (bytes.map fun byte => Char.ofNat byte.toNat)) = bytes := by
  rw [encode_ofList]
  induction bytes with
  | nil => rfl
  | cons byte rest inductionHypothesis =>
    rw [List.map_cons, encodeChars_cons, utf8EncodeChar_ascii (ascii byte List.mem_cons_self),
      inductionHypothesis fun other member => ascii other (List.mem_cons_of_mem byte member)]
    rfl

/-- Different texts have different bytes. -/
theorem encode_injective {left right : String} (same : encode left = encode right) :
    left = right := by
  have read := decode?_encode left
  rw [same, decode?_encode] at read
  exact (Option.some.inj read).symm

/-- Some bytes are read as a text exactly where they are the bytes of that text. -/
theorem decode?_eq_some_iff {bytes : List UInt8} {text : String} :
    decode? bytes = some text ↔ encode text = bytes := by
  constructor
  · intro reads
    unfold decode? String.fromUTF8? at reads
    split at reads
    · cases reads
      rfl
    · cases reads
  · rintro rfl
    exact decode?_encode text

theorem encode_eq_nil_iff {text : String} : encode text = [] ↔ text = "" := by
  constructor
  · intro none
    exact encode_injective (none.trans (by rfl))
  · rintro rfl
    rfl

end RoleVault.Text.Utf8
