import RoleVault.Text.Utf8

/-!
Contract: the two base64 forms that stored credentials and session tokens use.

Owns:
- the alphabets `standard` (with padding) and `urlSafe` (without);
- `encode`, and `decode` with the exact position of the first fault;
- the wording of each fault.

Does not own: what the bytes mean.

Symbols are numbers below sixty-four.  Four symbols carry three bytes; the last group may carry one
or two bytes in two or three symbols, whose spare bits must be zero.
-/

namespace RoleVault.Text.Base64

open RoleVault.Text

/-- A base64 form: its last two symbols, and whether the last group is filled up with `=`. -/
structure Alphabet where
  symbol62 : UInt8
  symbol63 : UInt8
  padded : Bool
deriving DecidableEq, Repr

/-- Letters, digits, `+` and `/`, always padded. -/
def standard : Alphabet := ⟨43, 47, true⟩

/-- Letters, digits, `-` and `_`, never padded. -/
def urlSafe : Alphabet := ⟨45, 95, false⟩

/-- The padding byte `=`. -/
def pad : UInt8 := 61

def Alphabet.byte (alphabet : Alphabet) (symbol : Nat) : UInt8 :=
  if symbol < 26 then UInt8.ofNat (65 + symbol)
  else if symbol < 52 then UInt8.ofNat (71 + symbol)
  else if symbol < 62 then UInt8.ofNat (symbol - 4)
  else if symbol = 62 then alphabet.symbol62
  else alphabet.symbol63

/-- The symbol that a byte writes, if it writes one. -/
def Alphabet.value? (alphabet : Alphabet) (byte : UInt8) : Option Nat :=
  if 65 ≤ byte && byte ≤ 90 then some (byte.toNat - 65)
  else if 97 ≤ byte && byte ≤ 122 then some (byte.toNat - 71)
  else if 48 ≤ byte && byte ≤ 57 then some (byte.toNat + 4)
  else if byte == alphabet.symbol62 then some 62
  else if byte == alphabet.symbol63 then some 63
  else none

/-- The padding that fills a group, where the form asks for it. -/
def Alphabet.fill (alphabet : Alphabet) (count : Nat) : List UInt8 :=
  if alphabet.padded then List.replicate count pad else []

def Alphabet.encodeBytes (alphabet : Alphabet) : List UInt8 → List UInt8
  | [] => []
  | [one] =>
    [alphabet.byte (one.toNat / 4), alphabet.byte (one.toNat % 4 * 16)] ++ alphabet.fill 2
  | [one, two] =>
    [alphabet.byte (one.toNat / 4), alphabet.byte (one.toNat % 4 * 16 + two.toNat / 16),
      alphabet.byte (two.toNat % 16 * 4)] ++ alphabet.fill 1
  | one :: two :: three :: rest =>
    alphabet.byte (one.toNat / 4) :: alphabet.byte (one.toNat % 4 * 16 + two.toNat / 16) ::
      alphabet.byte (two.toNat % 16 * 4 + three.toNat / 64) :: alphabet.byte (three.toNat % 64) ::
      alphabet.encodeBytes rest

/-- The base64 text of a byte sequence; every byte of it is ASCII. -/
def encode (alphabet : Alphabet) (bytes : List UInt8) : String :=
  String.ofList ((alphabet.encodeBytes bytes).map fun byte => Char.ofNat byte.toNat)

/-- The first fault of a text that is not in the form. -/
inductive DecodeError where
  | invalidSymbol (offset : Nat) (byte : UInt8)
  | invalidLastSymbol (offset : Nat) (byte : UInt8)
  | invalidLength (length : Nat)
  | invalidPadding
deriving DecidableEq, Repr

def DecodeError.message : DecodeError → String
  | .invalidSymbol offset byte => s!"Invalid symbol {byte}, offset {offset}."
  | .invalidLastSymbol offset byte => s!"Invalid last symbol {byte}, offset {offset}."
  | .invalidLength length => s!"Invalid input length: {length}"
  | .invalidPadding => "Invalid padding"

/-- The symbol of the byte at an offset, or the fault that it writes none. -/
def Alphabet.symbolAt (alphabet : Alphabet) (offset : Nat) (byte : UInt8) :
    Except DecodeError Nat :=
  match alphabet.value? byte with
  | some symbol => .ok symbol
  | none => .error (.invalidSymbol offset byte)

/-- The symbols before the padding of the last group, and the number of padding bytes.  Padding may
begin only at the third place and nothing may follow it. -/
def Alphabet.lastGroup (alphabet : Alphabet) (start : Nat) :
    Nat → List UInt8 → Except DecodeError (List (Nat × UInt8) × Nat)
  | _, [] => .ok ([], 0)
  | place, byte :: rest =>
    if byte == pad then
      if place < 2 then .error (.invalidSymbol (start + place) byte)
      else if rest.all (· == pad) then .ok ([], rest.length + 1)
      else .error (.invalidSymbol (start + place) pad)
    else do
      let symbol ← alphabet.symbolAt (start + place) byte
      let (symbols, padding) ← alphabet.lastGroup start (place + 1) rest
      return ((symbol, byte) :: symbols, padding)

/-- The bytes of the last group, which holds at most four bytes of text. -/
def Alphabet.decodeLast (alphabet : Alphabet) (start : Nat) (bytes : List UInt8) :
    Except DecodeError (List UInt8) := do
  let (symbols, padding) ← alphabet.lastGroup start 0 bytes
  if !bytes.isEmpty && symbols.length < 2 then
    throw (.invalidLength (start + symbols.length))
  if alphabet.padded then
    if (padding + symbols.length) % 4 != 0 then throw .invalidPadding
  else if padding != 0 then throw .invalidPadding
  match symbols with
  | [(one, _), (two, last)] =>
    if two % 16 != 0 then throw (.invalidLastSymbol (start + 1) last)
    return [UInt8.ofNat (one * 4 + two / 16)]
  | [(one, _), (two, _), (three, last)] =>
    if three % 4 != 0 then throw (.invalidLastSymbol (start + 2) last)
    return [UInt8.ofNat (one * 4 + two / 16), UInt8.ofNat (two % 16 * 16 + three / 4)]
  | [(one, _), (two, _), (three, _), (four, _)] =>
    return [UInt8.ofNat (one * 4 + two / 16), UInt8.ofNat (two % 16 * 16 + three / 4),
      UInt8.ofNat (three % 4 * 64 + four)]
  | _ => return []

/-- The bytes of a text from an offset on: full groups as long as more text follows, then the last
group. -/
def Alphabet.decodeFrom (alphabet : Alphabet) (start : Nat) :
    List UInt8 → Except DecodeError (List UInt8)
  | one :: two :: three :: four :: next :: rest => do
    let one ← alphabet.symbolAt start one
    let two ← alphabet.symbolAt (start + 1) two
    let three ← alphabet.symbolAt (start + 2) three
    let four ← alphabet.symbolAt (start + 3) four
    let bytes ← alphabet.decodeFrom (start + 4) (next :: rest)
    return UInt8.ofNat (one * 4 + two / 16) :: UInt8.ofNat (two % 16 * 16 + three / 4) ::
      UInt8.ofNat (three % 4 * 64 + four) :: bytes
  | bytes => alphabet.decodeLast start bytes

/-- The fault of a single byte left over after full groups, which is seen before all others: a byte
that is neither a symbol nor padding. -/
def Alphabet.strayByte? (alphabet : Alphabet) (bytes : List UInt8) : Option DecodeError :=
  if bytes.length % 4 = 1 then
    match bytes.getLast? with
    | some last =>
      if last != pad && (alphabet.value? last).isNone then
        some (.invalidSymbol (bytes.length - 1) last)
      else none
    | none => none
  else none

/-- The bytes that base64 bytes write, or their first fault. -/
def Alphabet.decodeBytes (alphabet : Alphabet) (bytes : List UInt8) :
    Except DecodeError (List UInt8) :=
  match alphabet.strayByte? bytes with
  | some fault => .error fault
  | none => alphabet.decodeFrom 0 bytes

/-- The bytes that a base64 text writes, or its first fault.  Offsets count bytes of the text. -/
def decode (alphabet : Alphabet) (text : String) : Except DecodeError (List UInt8) :=
  alphabet.decodeBytes (Utf8.encode text)

end RoleVault.Text.Base64
