import RoleVault.Json.Value
import RoleVault.Text.Decimal
import RoleVault.Text.Utf8

/-!
Contract: from bytes to JSON nodes.

Owns: the grammar of blanks, numbers, strings, literals, arrays and objects, and `Document.read`.

Does not own: which values a record accepts (`RoleVault.Json.Decode`).

Each reader returns what it read and the bytes after it, or no bytes where reading came to a halt.
-/

namespace RoleVault.Json

open RoleVault.Text

/-- A sequence of bytes still to be read. -/
abbrev Bytes := List UInt8

namespace Reader

def ascii (char : Char) : UInt8 :=
  UInt8.ofNat char.toNat

/-- Space, tab, line feed and carriage return. -/
def isBlank (byte : UInt8) : Bool :=
  byte == 0x20 || byte == 0x09 || byte == 0x0A || byte == 0x0D

def dropBlanks (bytes : Bytes) : Bytes :=
  bytes.dropWhile isBlank

def isDigit (byte : UInt8) : Bool :=
  0x30 ≤ byte && byte ≤ 0x39

/-! ## Strings -/

def shortEscape? (byte : UInt8) : Option UInt8 :=
  if byte == ascii '"' || byte == ascii '\\' || byte == ascii '/' then some byte
  else if byte == ascii 'b' then some 0x08
  else if byte == ascii 'f' then some 0x0C
  else if byte == ascii 'n' then some 0x0A
  else if byte == ascii 'r' then some 0x0D
  else if byte == ascii 't' then some 0x09
  else none

def hexDigit? (byte : UInt8) : Option Nat :=
  if isDigit byte then some (byte.toNat - 0x30)
  else if 0x61 ≤ byte && byte ≤ 0x66 then some (byte.toNat - 0x57)
  else if 0x41 ≤ byte && byte ≤ 0x46 then some (byte.toNat - 0x37)
  else none

def unit? (one two three four : UInt8) : Option Nat := do
  return (← hexDigit? one) * 4096 + (← hexDigit? two) * 256 + (← hexDigit? three) * 16 +
    (← hexDigit? four)

def isHighSurrogate (unit : Nat) : Bool := 0xD800 ≤ unit && unit ≤ 0xDBFF
def isLowSurrogate (unit : Nat) : Bool := 0xDC00 ≤ unit && unit ≤ 0xDFFF

def encodeCode (code : Nat) : Bytes :=
  Utf8.encode (String.ofList [Char.ofNat code])

/-- The bytes of the character that two halves of a surrogate pair write. -/
def encodePair (high low : Nat) : Bytes :=
  encodeCode (0x10000 + (high - 0xD800) * 1024 + (low - 0xDC00))

/-- A part of a string: a byte that stands for itself or is written by a one-letter escape, or the
unit of a hexadecimal escape. -/
inductive Piece where
  | byte (value : UInt8)
  | unit (value : Nat)

/-- The pieces of a string up to its closing quote.  Control characters and unknown escapes break
it off. -/
def pieces : Bytes → Option (List Piece × Bytes)
  | [] => none
  | byte :: rest =>
    if byte == ascii '"' then some ([], rest)
    else if byte == ascii '\\' then
      match rest with
      | [] => none
      | escape :: rest =>
        if escape == ascii 'u' then
          match rest with
          | one :: two :: three :: four :: rest =>
            match unit? one two three four with
            | none => none
            | some unit => (pieces rest).map fun (tail, after) => (.unit unit :: tail, after)
          | _ => none
        else
          match shortEscape? escape with
          | none => none
          | some plain => (pieces rest).map fun (tail, after) => (.byte plain :: tail, after)
    else if byte < 0x20 then none
    else (pieces rest).map fun (tail, after) => (.byte byte :: tail, after)

/-- The bytes that the pieces write, if every surrogate among them has its partner. -/
def assemble : List Piece → Option Bytes
  | [] => some []
  | .byte byte :: rest => (assemble rest).map (byte :: ·)
  | .unit high :: .unit low :: rest =>
    if isHighSurrogate high && isLowSurrogate low then
      (assemble rest).map (encodePair high low ++ ·)
    else if isHighSurrogate high || isLowSurrogate high then none
    else (assemble (.unit low :: rest)).map (encodeCode high ++ ·)
  | .unit unit :: rest =>
    if isHighSurrogate unit || isLowSurrogate unit then none
    else (assemble rest).map (encodeCode unit ++ ·)

def textOf (pieces : List Piece) : Except TextFault String :=
  match assemble pieces with
  | none => .error .loneSurrogate
  | some bytes =>
    match Utf8.decode? bytes with
    | some text => .ok text
    | none => .error .notUnicode

/-! ## Numbers -/

def digits (bytes : Bytes) : Bytes × Bytes :=
  (bytes.takeWhile isDigit, bytes.dropWhile isDigit)

/-- The number that digits write after those of `start`. -/
def digitsValue (start : Nat) (digits : Bytes) : Nat :=
  digits.foldl (fun value byte => value * 10 + (byte.toNat - 0x30)) start

/-- A number as it is evaluated: an integer of sixty-four bits, and the power of ten that it is
multiplied by. -/
structure Scaled where
  significand : Nat
  power : Int

/-- Appends digits from the left while the significand fits sixty-four bits, and returns it with the
number of digits that did not fit. -/
def appendDigits : Nat → Bytes → Nat × Nat
  | significand, [] => (significand, 0)
  | significand, byte :: rest =>
    let next := digitsValue significand [byte]
    if next < Decimal.wordLimit then appendDigits next rest else (significand, rest.length + 1)

/-- The whole part of a number.  A digit that does not fit counts as a factor of ten. -/
def Scaled.ofWhole (whole : Bytes) : Scaled :=
  let (significand, surplus) := appendDigits 0 whole
  ⟨significand, surplus⟩

/-- Appends the digits of a fraction.  Those that do not fit are left out. -/
def Scaled.addFraction (number : Scaled) (fraction : Bytes) : Scaled :=
  let (significand, surplus) := appendDigits number.significand fraction
  ⟨significand, number.power - (fraction.length - surplus : Nat)⟩

def Scaled.scale (number : Scaled) (power : Int) : Scaled :=
  ⟨number.significand, number.power + power⟩

def Scaled.isFinite (number : Scaled) : Bool :=
  DoublePrecision.productIsFinite number.significand number.power

/-- An optional fraction: its digits, at least one if there is a point. -/
def fraction (bytes : Bytes) : Option (Option Bytes × Bytes) :=
  match bytes with
  | byte :: rest =>
    if byte == ascii '.' then
      match digits rest with
      | ([], _) => none
      | (fraction, rest) => some (some fraction, rest)
    else some (none, bytes)
  | [] => some (none, [])

def exponentDigits (sign : Int) (bytes : Bytes) : Option (Int × Bytes) :=
  match digits bytes with
  | ([], _) => none
  | (power, rest) => some (sign * digitsValue 0 power, rest)

def exponent (bytes : Bytes) : Option (Option Int × Bytes) :=
  match bytes with
  | byte :: rest =>
    if byte == ascii 'e' || byte == ascii 'E' then
      let (sign, rest) : Int × Bytes :=
        match rest with
        | mark :: after =>
          if mark == ascii '+' then (1, after)
          else if mark == ascii '-' then (-1, after)
          else (1, rest)
        | [] => (1, rest)
      (exponentDigits sign rest).map fun (power, rest) => (some power, rest)
    else some (none, bytes)
  | [] => some (none, [])

def numberNode (negative : Bool) (whole : Bytes) (fraction : Option Bytes) (power : Option Int) :
    Node :=
  let value : Int := digitsValue 0 whole
  let fits := if negative then 0 < value && value ≤ Decimal.signedLimit else value < Decimal.wordLimit
  if fraction.isNone && power.isNone && fits then .integer (if negative then -value else value)
  else .real (((Scaled.ofWhole whole).addFraction (fraction.getD [])).scale (power.getD 0)).isFinite

/-- The whole part of a number: digits without a leading zero. -/
def wholePart (bytes : Bytes) : Option (Bytes × Bytes) :=
  match digits bytes with
  | ([], _) => none
  | (whole, rest) =>
    if whole.head? == some (ascii '0') && whole.length != 1 then none else some (whole, rest)

/-- A number after its sign. -/
def unsigned (negative : Bool) (bytes : Bytes) : Option (Node × Bytes) := do
  let (whole, rest) ← wholePart bytes
  let (fraction, rest) ← fraction rest
  let (power, rest) ← exponent rest
  return (numberNode negative whole fraction power, rest)

def number (bytes : Bytes) : Option (Node × Bytes) :=
  match bytes with
  | byte :: rest => if byte == ascii '-' then unsigned true rest else unsigned false bytes
  | [] => none

/-! ## Values -/

def literal (word : String) (node : Node) (bytes : Bytes) : Option (Node × Bytes) :=
  let spelled := Utf8.encode word
  if bytes.take spelled.length == spelled then some (node, bytes.drop spelled.length) else none

def scalar (bytes : Bytes) : Option (Node × Bytes) :=
  match bytes with
  | [] => none
  | byte :: rest =>
    if byte == ascii '"' then (pieces rest).map fun (inner, rest) => (.text (textOf inner), rest)
    else if byte == ascii 'n' then literal "null" .null bytes
    else if byte == ascii 't' then literal "true" (.bool true) bytes
    else if byte == ascii 'f' then literal "false" (.bool false) bytes
    else number bytes

mutual

/-- A value after blanks.  `fuel` bounds the number of values still to be begun. -/
def value : Nat → Bytes → Node × Option Bytes
  | 0, _ => (.broken, none)
  | fuel + 1, bytes =>
    match dropBlanks bytes with
    | [] => (.broken, none)
    | byte :: rest =>
      if byte == ascii '[' then
        match dropBlanks rest with
        | [] => (.array [] false, none)
        | next :: after =>
          if next == ascii ']' then (.array [] true, some after)
          else
            let (items, after) := items fuel (next :: after)
            (.array items after.isSome, after)
      else if byte == ascii '\x7b' then
        match dropBlanks rest with
        | [] => (.object [] false, none)
        | next :: after =>
          if next == ascii '\x7d' then (.object [] true, some after)
          else
            let (members, after) := members fuel (next :: after)
            (.object members after.isSome, after)
      else
        match scalar (byte :: rest) with
        | some (node, rest) => (node, some rest)
        | none => (.broken, none)

def items : Nat → Bytes → List Node × Option Bytes
  | 0, _ => ([], none)
  | fuel + 1, bytes =>
    match value fuel bytes with
    | (item, none) => ([item], none)
    | (item, some rest) =>
      match dropBlanks rest with
      | [] => ([item], none)
      | byte :: rest =>
        if byte == ascii ']' then ([item], some rest)
        else if byte == ascii ',' then
          let (others, after) := items fuel rest
          (item :: others, after)
        else ([item], none)

def members : Nat → Bytes → List (Node × Node) × Option Bytes
  | 0, _ => ([], none)
  | fuel + 1, bytes =>
    match value fuel bytes with
    | (key, none) => ([(key, .broken)], none)
    | (key, some rest) =>
      match key.isText, dropBlanks rest with
      | true, byte :: rest =>
        if byte == ascii ':' then
          match value fuel rest with
          | (member, none) => ([(key, member)], none)
          | (member, some rest) =>
            match dropBlanks rest with
            | [] => ([(key, member)], none)
            | byte :: rest =>
              if byte == ascii '\x7d' then ([(key, member)], some rest)
              else if byte == ascii ',' then
                let (others, after) := members fuel rest
                ((key, member) :: others, after)
              else ([(key, member)], none)
        else ([(key, .broken)], none)
      | _, _ => ([(key, .broken)], none)

end

end Reader

/-- Reads a document.  Every value takes at least one byte, so twice the number of bytes bounds the
steps of reading. -/
def Document.read (bytes : Bytes) : Document :=
  let (root, rest) := Reader.value (2 * bytes.length + 2) bytes
  ⟨root, match rest with
    | some rest => (Reader.dropBlanks rest).isEmpty
    | none => false⟩

end RoleVault.Json
