import Mathlib.Tactic.SplitIfs
import RoleVault.Json.Reader
import RoleVault.Json.Value
import RoleVault.Proofs.Text.Utf8

/-!
Contract: written texts read back.

Owns:
- `IsPlain`, the bytes that stand for themselves inside a string;
- `Spells`, the bytes that stand for others inside a string, and how its cases are put together;
- `scalar_quote`: a quoted text reads back, whatever its characters;
- `isPlainName`, the names that are written without escapes.

Does not own: texts that are spelled in other ways than this library writes them.
-/

namespace RoleVault.Json.Reader

open RoleVault.Text

/-! ## Characters of ASCII -/

theorem encodeChars_ascii {char : Char} (small : char.toNat < 128) (rest : List Char) :
    Utf8.encodeChars (char :: rest) = ascii char :: Utf8.encodeChars rest := by
  rw [Utf8.encodeChars_cons, Utf8.utf8EncodeChar_of_lt small]
  rfl

theorem toNat_ascii {char : Char} (small : char.toNat < 128) :
    (ascii char).toNat = char.toNat := by
  rw [ascii, UInt8.toNat_ofNat']
  omega

/-- Different ASCII characters are different bytes. -/
theorem ascii_injective {left right : Char} (leftSmall : left.toNat < 128)
    (rightSmall : right.toNat < 128) (same : ascii left = ascii right) : left = right := by
  apply Char.toNat_inj.mp
  rw [← toNat_ascii leftSmall, ← toNat_ascii rightSmall, same]

private theorem ascii_ne {left right : Char} (leftSmall : left.toNat < 128)
    (rightSmall : right.toNat < 128)
    (different : left ≠ right) : ascii left ≠ ascii right :=
  mt (ascii_injective leftSmall rightSmall) different

/-- A byte that stands for itself inside a string. -/
structure IsPlain (byte : UInt8) : Prop where
  quote : byte ≠ ascii '"'
  backslash : byte ≠ ascii '\\'
  control : ¬byte < 0x20

/-! ## Spellings -/

/-- Inside a string, the bytes `written` stand for the bytes `plain`. -/
def Spells (written plain : Bytes) : Prop :=
  ∃ made : List Piece,
    (∀ rest, pieces (written ++ rest) =
      (pieces rest).map fun (tail, after) => (made ++ tail, after)) ∧
    ∀ tail, assemble (made ++ tail) = (assemble tail).map (plain ++ ·)

namespace Spells

theorem nil : Spells [] [] := by
  refine ⟨[], fun rest => ?_, fun tail => ?_⟩ <;> simp

/-- What is spelled in two parts is spelled as a whole. -/
theorem append {first second plainFirst plainSecond : Bytes} (before : Spells first plainFirst)
    (after : Spells second plainSecond) : Spells (first ++ second) (plainFirst ++ plainSecond) := by
  obtain ⟨made, read, assembled⟩ := before
  obtain ⟨others, readOthers, assembledOthers⟩ := after
  refine ⟨made ++ others, fun rest => ?_, fun tail => ?_⟩
  · rw [List.append_assoc, read, readOthers, Option.map_map]
    simp [Function.comp_def]
  · rw [List.append_assoc, assembled, assembledOthers, Option.map_map]
    simp [Function.comp_def]

theorem byte {byte : UInt8} (plain : IsPlain byte) : Spells [byte] [byte] := by
  refine ⟨[.byte byte], fun rest => ?_, fun tail => rfl⟩
  rw [List.singleton_append, pieces.eq_def]
  simp [plain.quote, plain.backslash, plain.control]

/-- Plain bytes spell themselves. -/
theorem bytes {run : Bytes} (plain : ∀ byte ∈ run, IsPlain byte) : Spells run run := by
  induction run with
  | nil => exact nil
  | cons first rest inductionHypothesis =>
    have later := inductionHypothesis fun other member => plain other (List.mem_cons_of_mem _ member)
    exact (byte (plain first List.mem_cons_self)).append later

/-- A one-letter escape stands for its byte. -/
theorem short {letter byte : UInt8} (known : shortEscape? letter = some byte)
    (letterShort : letter ≠ ascii 'u') : Spells [ascii '\\', letter] [byte] := by
  have mark : ascii '\\' ≠ ascii '"' := by decide
  refine ⟨[.byte byte], fun rest => ?_, fun tail => rfl⟩
  rw [List.cons_append, List.singleton_append, pieces.eq_def]
  simp [mark, letterShort, known]

/-- A hexadecimal escape of no half of a pair stands for the character of its unit. -/
theorem unit {one two three four : UInt8} {unit : Nat} (known : unit? one two three four = some unit)
    (high : isHighSurrogate unit = false) (low : isLowSurrogate unit = false) :
    Spells [ascii '\\', ascii 'u', one, two, three, four] (encodeCode unit) := by
  have mark : ascii '\\' ≠ ascii '"' := by decide
  refine ⟨[.unit unit], fun rest => ?_, fun tail => ?_⟩
  · simp [pieces, mark, known]
  · cases tail with
    | nil => simp [assemble, high, low]
    | cons piece tail => cases piece <;> simp [assemble, high, low]

end Spells

/-! ## Characters -/

private theorem hexDigit?_digit {value : Nat} (small : value < 16) :
    hexDigit? (ascii (Hex.digit value)) = some value := by
  have table : ∀ index : Fin 16, hexDigit? (ascii (Hex.digit index.val)) = some index.val := by
    decide
  exact table ⟨value, small⟩

private theorem toNat_digit_lt {value : Nat} (small : value < 16) :
    (Hex.digit value).toNat < 128 := by
  have table : ∀ index : Fin 16, (Hex.digit index.val).toNat < 128 := by decide
  exact table ⟨value, small⟩

/-- A control character is spelled by its code. -/
theorem spells_control {char : Char} (control : char.toNat < 0x20) :
    Spells (Utf8.encodeChars
      ['\\', 'u', '0', '0', Hex.digit (char.toNat / 16), Hex.digit (char.toNat % 16)])
      (String.utf8EncodeChar char) := by
  have high : char.toNat / 16 < 16 := by omega
  have low : char.toNat % 16 < 16 := by omega
  have zero : hexDigit? (ascii '0') = some 0 := by decide
  have known : unit? (ascii '0') (ascii '0') (ascii (Hex.digit (char.toNat / 16)))
      (ascii (Hex.digit (char.toNat % 16))) = some char.toNat := by
    have whole : char.toNat / 16 * 16 + char.toNat % 16 = char.toNat := by omega
    simp [unit?, zero, hexDigit?_digit high, hexDigit?_digit low, whole]
  have spelled := Spells.unit known (by simp [isHighSurrogate]; omega) (by simp [isLowSurrogate]; omega)
  rw [encodeCode, Utf8.encode_ofList, Char.ofNat_toNat] at spelled
  simpa [encodeChars_ascii, toNat_digit_lt high, toNat_digit_lt low, Utf8.encodeChars_cons]
    using spelled

/-- A character that needs no escape is written by plain bytes. -/
theorem isPlain_of_mem {char : Char} (quote : char ≠ '"') (backslash : char ≠ '\\')
    (control : ¬char.toNat < 0x20) {byte : UInt8} (member : byte ∈ String.utf8EncodeChar char) :
    IsPlain byte := by
  have bound : (0x20 : UInt8).toNat = 32 := rfl
  rcases Nat.lt_or_ge char.toNat 128 with small | wide
  · rw [Utf8.utf8EncodeChar_of_lt small, List.mem_singleton] at member
    rw [member, ← ascii]
    refine ⟨ascii_ne small (by decide) quote, ascii_ne small (by decide) backslash, ?_⟩
    rwa [UInt8.lt_iff_toNat_lt, toNat_ascii small, bound]
  · have large := Utf8.le_of_mem_utf8EncodeChar wide member
    have beyond (mark : UInt8) (low : mark.toNat < 128) : byte ≠ mark := by
      rintro rfl
      omega
    refine ⟨beyond _ (by decide), beyond _ (by decide), ?_⟩
    rw [UInt8.lt_iff_toNat_lt, bound]
    omega

private theorem escape_of_plain {char : Char} (quote : char ≠ '"') (backslash : char ≠ '\\')
    (control : ¬char.toNat < 0x20) : Value.escape char = [char] := by
  have other {mark : Char} (low : mark.toNat < 0x20) : char ≠ mark := by
    rintro rfl
    exact control low
  rw [Value.escape, if_neg quote, if_neg backslash, if_neg (other (by decide)),
    if_neg (other (by decide)), if_neg (other (by decide)), if_neg (other (by decide)),
    if_neg (other (by decide)), if_neg control]

/-- A character with a one-letter escape is spelled by it. -/
theorem spells_short {char letter : Char}
    (short : char.toNat < 128 ∧ letter.toNat < 128 ∧
      shortEscape? (ascii letter) = some (ascii char) ∧ letter ≠ 'u') :
    Spells (Utf8.encodeChars ['\\', letter]) (String.utf8EncodeChar char) := by
  obtain ⟨small, letterSmall, known, other⟩ := short
  rw [encodeChars_ascii (by decide), encodeChars_ascii letterSmall, Utf8.encodeChars_nil,
    Utf8.utf8EncodeChar_of_lt small]
  exact Spells.short known (ascii_ne letterSmall (by decide) other)

private theorem spells_escape (char : Char) :
    Spells (Utf8.encodeChars (Value.escape char)) (String.utf8EncodeChar char) := by
  unfold Value.escape
  split_ifs with quote backslash backspace formFeed lineFeed carriageReturn tab control
  · rw [quote]
    exact spells_short (by decide)
  · rw [backslash]
    exact spells_short (by decide)
  · rw [backspace]
    exact spells_short (by decide)
  · rw [formFeed]
    exact spells_short (by decide)
  · rw [lineFeed]
    exact spells_short (by decide)
  · rw [carriageReturn]
    exact spells_short (by decide)
  · rw [tab]
    exact spells_short (by decide)
  · exact spells_control control
  · rw [Utf8.encodeChars_cons, Utf8.encodeChars_nil, List.append_nil]
    exact Spells.bytes fun _ member => isPlain_of_mem quote backslash control member

/-! ## Texts -/

/-- Whether no character of a name needs an escape. -/
def isPlainName (name : String) : Bool :=
  name.toList.all fun char => char != '"' && char != '\\' && 0x20 ≤ char.toNat

/-- A plain name is written as it stands, by plain bytes. -/
theorem escapes_of_isPlainName {name : String} (plain : isPlainName name = true) :
    name.toList.flatMap Value.escape = name.toList ∧ ∀ byte ∈ Utf8.encode name, IsPlain byte := by
  rw [isPlainName] at plain
  rw [Utf8.encode_eq_encodeChars]
  generalize name.toList = chars at plain ⊢
  induction chars with
  | nil => simp
  | cons char rest inductionHypothesis =>
    rw [List.all_cons, Bool.and_eq_true] at plain
    obtain ⟨first, others⟩ := plain
    simp only [Bool.and_eq_true, bne_iff_ne, decide_eq_true_eq] at first
    obtain ⟨⟨quote, backslash⟩, printed⟩ := first
    have control : ¬char.toNat < 0x20 := by omega
    obtain ⟨unescaped, bytes⟩ := inductionHypothesis others
    constructor
    · rw [List.flatMap_cons, escape_of_plain quote backslash control, unescaped,
        List.singleton_append]
    · intro byte member
      rw [Utf8.encodeChars_cons, List.mem_append] at member
      rcases member with here | later
      · exact isPlain_of_mem quote backslash control here
      · exact bytes byte later

private theorem spells_escapes (chars : List Char) :
    Spells (Utf8.encodeChars (chars.flatMap Value.escape)) (Utf8.encodeChars chars) := by
  induction chars with
  | nil => exact Spells.nil
  | cons char rest inductionHypothesis =>
    rw [List.flatMap_cons, Utf8.encodeChars_append, Utf8.encodeChars_cons]
    exact (spells_escape char).append inductionHypothesis

/-- A spelled text reads back up to its closing quote. -/
theorem pieces_of_spells {written : Bytes} {text : String} (spelled : Spells written (Utf8.encode text))
    (rest : Bytes) :
    ∃ made, pieces (written ++ ascii '"' :: rest) = some (made, rest) ∧ textOf made = .ok text := by
  obtain ⟨made, read, assembled⟩ := spelled
  refine ⟨made, ?_, ?_⟩
  · rw [read, pieces.eq_def]
    simp
  · have whole := assembled []
    rw [List.append_nil] at whole
    simp [textOf, whole, assemble, Utf8.decode?_encode]

/-- A quoted text is its escaped characters between two quotation marks. -/
theorem encodeChars_quote (text : String) :
    Utf8.encodeChars (Value.quote text) =
      ascii '"' :: (Utf8.encodeChars (text.toList.flatMap Value.escape) ++ [ascii '"']) := by
  rw [Value.quote, List.cons_append, encodeChars_ascii (by decide), Utf8.encodeChars_append,
    encodeChars_ascii (by decide), Utf8.encodeChars_nil]

/-- A quoted text reads back. -/
theorem scalar_quote (text : String) (rest : Bytes) :
    scalar (Utf8.encodeChars (Value.quote text) ++ rest) = some (.text (.ok text), rest) := by
  have spelled := spells_escapes text.toList
  rw [← Utf8.encode_eq_encodeChars] at spelled
  obtain ⟨made, read, content⟩ := pieces_of_spells spelled rest
  rw [encodeChars_quote, List.cons_append, List.append_assoc, List.singleton_append]
  simp [scalar, read, content]

end RoleVault.Json.Reader
