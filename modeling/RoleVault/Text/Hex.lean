import RoleVault.Text.Scan
import RoleVault.Text.Utf8

/-!
Contract: bytes as hexadecimal digits, and behind percent signs.

Owns:
- `Hex`: writing a number or a byte in lower-case digits, and reading digits of either case;
- `Percent`: reading bytes written as a percent sign and two digits in a path (`decode?`) and in a
  query (`query`), and writing them so (`encode`, `encodeForm`).

Does not own: the grouping that a format asks for, or what is written behind percent signs
(`RoleVault.Store.Address`).
-/

namespace RoleVault.Text.Hex

def digit (value : Nat) : Char :=
  if value < 10 then Char.ofNat (48 + value) else Char.ofNat (87 + value)

/-- The number of one hexadecimal digit, of either case. -/
def value? (char : Char) : Option Nat :=
  if '0' ≤ char && char ≤ '9' then some (char.toNat - 48)
  else if 'a' ≤ char && char ≤ 'f' then some (char.toNat - 87)
  else if 'A' ≤ char && char ≤ 'F' then some (char.toNat - 55)
  else none

/-- Whether a character is a digit, of either case. -/
def isDigit (char : Char) : Bool :=
  (value? char).isSome

/-- The number that digits write; other characters count as zero. -/
def toNat (digits : List Char) : Nat :=
  digits.foldl (fun number char => number * 16 + (value? char).getD 0) 0

def ofByte (byte : UInt8) : List Char :=
  [digit (byte.toNat / 16), digit (byte.toNat % 16)]

/-- The digits of a number without leading zeros. -/
def ofNat (value : Nat) : List Char :=
  Nat.toDigits 16 value

/-- The digits of a sequence of bytes, two for each. -/
def encode (bytes : List UInt8) : List Char :=
  bytes.flatMap ofByte

/-- The bytes that pairs of digits write; an odd digit or a foreign character is refused. -/
def decode? : List Char → Option (List UInt8)
  | [] => some []
  | [_] => none
  | high :: low :: rest =>
    match value? high, value? low, decode? rest with
    | some high, some low, some bytes => some (UInt8.ofNat (high * 16 + low) :: bytes)
    | _, _, _ => none

/-- Each byte reads back from its two digits. -/
theorem value?_digit {value : Nat} (small : value < 16) : value? (digit value) = some value := by
  have table : ∀ index : Fin 16, value? (digit index.val) = some index.val := by decide
  exact table ⟨value, small⟩

/-- Written bytes read back. -/
theorem decode?_encode (bytes : List UInt8) : decode? (encode bytes) = some bytes := by
  induction bytes with
  | nil => rfl
  | cons byte rest inductionHypothesis =>
    have high : byte.toNat / 16 < 16 := by have := byte.toNat_lt; omega
    have low : byte.toNat % 16 < 16 := by omega
    have whole : UInt8.ofNat (byte.toNat / 16 * 16 + byte.toNat % 16) = byte := by
      rw [show byte.toNat / 16 * 16 + byte.toNat % 16 = byte.toNat by omega]
      exact UInt8.ofNat_toNat
    simp only [encode] at inductionHypothesis
    simp [encode, ofByte, decode?, value?_digit high, value?_digit low, inductionHypothesis, whole]

end RoleVault.Text.Hex

namespace RoleVault.Text.Percent

def digitValue? (byte : UInt8) : Option UInt8 :=
  if 0x30 ≤ byte ∧ byte ≤ 0x39 then some (byte - 0x30)
  else if 0x41 ≤ byte ∧ byte ≤ 0x46 then some (byte - 0x41 + 10)
  else if 0x61 ≤ byte ∧ byte ≤ 0x66 then some (byte - 0x61 + 10)
  else none

/-- The bytes with every percent sign that two digits follow read; other percent signs stay. -/
def decodeBytes : List UInt8 → List UInt8
  | 0x25 :: high :: low :: rest =>
    match digitValue? high, digitValue? low with
    | some one, some two => (one * 16 + two) :: decodeBytes rest
    | _, _ => 0x25 :: decodeBytes (high :: low :: rest)
  | byte :: rest => byte :: decodeBytes rest
  | [] => []
termination_by bytes => bytes.length

def decode? (text : String) : Option String :=
  Utf8.decode? (decodeBytes (Utf8.encode text))

/-- A name or a value of a query, in which a plus sign writes a space. -/
def queryPart (text : String) : String :=
  let spaced := text.toList.map fun char => if char = '+' then ' ' else char
  Utf8.decodeLossy (decodeBytes (Utf8.encode (String.ofList spaced)))

/-- The texts before and after the first mark; without a mark the whole text and nothing. -/
def splitFirst (mark : Char) (text : String) : String × Option String :=
  let chars := text.toList
  let before := String.ofList (chars.takeWhile (· != mark))
  match chars.dropWhile (· != mark) with
  | [] => (before, none)
  | _ :: after => (before, some (String.ofList after))

def query (text : String) : List (String × String) :=
  ((text.splitOn "&").filter (· != "")).map fun pair =>
    let (name, value) := splitFirst '=' pair
    (queryPart name, queryPart (value.getD ""))

/-! ## Writing -/

/-- Whether a byte is a letter or a digit of ASCII. -/
def isPlain (byte : UInt8) : Bool :=
  (0x30 ≤ byte && byte ≤ 0x39) || (0x41 ≤ byte && byte ≤ 0x5A) || (0x61 ≤ byte && byte ≤ 0x7A)

def escape (byte : UInt8) : List Char :=
  '%' :: (Hex.ofByte byte).map Char.toUpper

/-- The writing in which every byte but letters and digits is escaped. -/
def encode (text : String) : String :=
  String.ofList ((Utf8.encode text).flatMap fun byte =>
    if isPlain byte then [Char.ofNat byte.toNat] else escape byte)

/-- The writing of a name or a value in a query. -/
def encodeForm (text : String) : String :=
  String.ofList ((Utf8.encode text).flatMap fun byte =>
    if byte == 0x20 then ['+']
    else if isPlain byte || [0x2A, 0x2D, 0x2E, 0x5F].contains byte then [Char.ofNat byte.toNat]
    else escape byte)

end RoleVault.Text.Percent
