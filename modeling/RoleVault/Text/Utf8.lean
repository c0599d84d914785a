/-!
Contract: text as bytes and bytes as text.

Owns:
- `encode` and `decode?`, with `decode?_encode`: encoded text reads back;
- `decodeLossy`, which never fails: each longest run of bytes that begins a character and cannot
  go on stands for one replacement character.

Does not own: escapes of any text format.
-/

namespace RoleVault.Text.Utf8

def encode (text : String) : List UInt8 :=
  text.toByteArray.data.toList

def decode? (bytes : List UInt8) : Option String :=
  String.fromUTF8? ⟨bytes.toArray⟩

/-- Encoded text reads back as the same text. -/
theorem decode?_encode (text : String) : decode? (encode text) = some text := by
  simp [decode?, encode, String.fromUTF8?, text.isValidUTF8, String.fromUTF8]

/-- What the head of a byte sequence is: one character of some length, or a run of bytes that
belongs to no character. -/
inductive Head where
  | character (value : Char) (width : Nat)
  | broken (width : Nat)

/-- Whether the byte may stand at a place after the second of a character. -/
def isContinuation (byte : UInt8) : Bool :=
  0x80 ≤ byte && byte ≤ 0xBF

/-- The bytes that may stand second after a given first byte of a character of three bytes. -/
def secondOfThree (first second : UInt8) : Bool :=
  if first == 0xE0 then 0xA0 ≤ second && second ≤ 0xBF
  else if first == 0xED then 0x80 ≤ second && second ≤ 0x9F
  else isContinuation second

/-- The bytes that may stand second after a given first byte of a character of four bytes. -/
def secondOfFour (first second : UInt8) : Bool :=
  if first == 0xF0 then 0x90 ≤ second && second ≤ 0xBF
  else if first == 0xF4 then 0x80 ≤ second && second ≤ 0x8F
  else isContinuation second

/-- The low six bits of a byte after the first. -/
def payload (byte : UInt8) : Nat :=
  byte.toNat % 64

/-- The character or broken run that begins with `first` and goes on with `rest`. -/
def head (first : UInt8) (rest : List UInt8) : Head :=
  if first < 0x80 then .character (Char.ofNat first.toNat) 1
  else if 0xC2 ≤ first && first ≤ 0xDF then
    match rest with
    | second :: _ =>
      if isContinuation second then
        .character (Char.ofNat ((first.toNat - 0xC0) * 64 + payload second)) 2
      else .broken 1
    | [] => .broken 1
  else if 0xE0 ≤ first && first ≤ 0xEF then
    match rest with
    | second :: third :: _ =>
      if !secondOfThree first second then .broken 1
      else if !isContinuation third then .broken 2
      else .character
        (Char.ofNat ((first.toNat - 0xE0) * 4096 + payload second * 64 + payload third)) 3
    | [second] => if secondOfThree first second then .broken 2 else .broken 1
    | [] => .broken 1
  else if 0xF0 ≤ first && first ≤ 0xF4 then
    match rest with
    | second :: third :: fourth :: _ =>
      if !secondOfFour first second then .broken 1
      else if !isContinuation third then .broken 2
      else if !isContinuation fourth then .broken 3
      else .character
        (Char.ofNat ((first.toNat - 0xF0) * 262144 + payload second * 4096 + payload third * 64 +
          payload fourth)) 4
    | [second, third] =>
      if !secondOfFour first second then .broken 1
      else if !isContinuation third then .broken 2
      else .broken 3
    | [second] => if secondOfFour first second then .broken 2 else .broken 1
    | [] => .broken 1
  else .broken 1

/-- The characters of the bytes, where `skip` bytes are still to be passed over
because they belong to the character before. -/
def charactersFrom (skip : Nat) : List UInt8 → List Char
  | [] => []
  | first :: rest =>
    match skip with
    | skip + 1 => charactersFrom skip rest
    | 0 =>
      match head first rest with
      | .character value width => value :: charactersFrom (width - 1) rest
      | .broken width => Char.ofNat 0xFFFD :: charactersFrom (width - 1) rest

/-- The text of any bytes, with a replacement character for each broken run. -/
def decodeLossy (bytes : List UInt8) : String :=
  String.ofList (charactersFrom 0 bytes)

end RoleVault.Text.Utf8
