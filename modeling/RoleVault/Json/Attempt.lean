import RoleVault.Json.Reader

/-!
Contract: reading a value whose failure does not end the reading of its document.

Owns:
- `Attempt`, a reader that keeps its place in the bytes also where it fails;
- the readers of strings, numbers, literals and whole values as attempts (`value`, `scalar`).

Does not own: which members are read this way (`RoleVault.Session.Registered`).

A reader that passes over a failed value goes on where the failure was noticed.  So the place of a
failure matters here, and each reader takes exactly the bytes that it needs to notice one.  A nested
array or object still takes its own closing bracket when something inside it fails right before that
bracket.
-/

namespace RoleVault.Json

open RoleVault.Text

/-- A reader of bytes that may fail; a failed one leaves the bytes that it has not taken. -/
abbrev Attempt := OptionT (StateM Bytes)

namespace Attempt

open Reader

def next : Attempt UInt8 := do
  match ← get with
  | [] => failure
  | byte :: rest =>
    set rest
    return byte

/-- Takes the next byte, which has to be the given one. -/
def expect (byte : UInt8) : Attempt Unit := do
  if (← next) != byte then failure

/-- Takes blanks and looks at the byte after them. -/
def peek : Attempt UInt8 := do
  modify dropBlanks
  match ← get with
  | [] => failure
  | byte :: _ => return byte

def takeDigits : Attempt Bytes :=
  modifyGet digits

/-- Runs a reader and returns what it read, or nothing where it failed. -/
def settle {α : Type} (reader : Attempt α) : Attempt (Option α) :=
  OptionT.lift reader.run

/-- Runs `reader`, and `close` after it in any case; both have to succeed. -/
def closedBy {α : Type} (reader : Attempt α) (close : Attempt Unit) : Attempt α := do
  let result ← settle reader
  close
  match result with
  | some value => return value
  | none => failure

/-! ## Strings -/

def unit : Attempt Nat := do
  match ← get with
  | one :: two :: three :: four :: rest =>
    set rest
    match unit? one two three four with
    | some unit => return unit
    | none => failure
  | _ =>
    set ([] : Bytes)
    failure

/-- The bytes of a hexadecimal escape.  The upper half of a surrogate pair needs the lower half in an
escape right after it. -/
def unitEscape : Attempt Bytes := do
  let high ← unit
  if isLowSurrogate high then failure
  if !isHighSurrogate high then return encodeCode high
  expect (ascii '\\')
  expect (ascii 'u')
  let low ← unit
  if isLowSurrogate low then return encodePair high low else failure

/-- The bytes of an escape after its backslash. -/
def escape : Attempt Bytes := do
  let letter ← next
  if letter == ascii 'u' then unitEscape
  else
    match shortEscape? letter with
    | some byte => return [byte]
    | none => failure

/-- The bytes of a string after its opening quote.  `fuel` bounds the number of characters. -/
def stringBytes : Nat → Attempt Bytes
  | 0 => failure
  | fuel + 1 => do
    let byte ← next
    if byte == ascii '"' then return []
    else if byte == ascii '\\' then return (← escape) ++ (← stringBytes fuel)
    else if byte < 0x20 then failure
    else return byte :: (← stringBytes fuel)

/-- A string after its opening quote; its closing quote is taken before its bytes turn out to be no
text. -/
def string : Attempt String := do
  let bytes ← stringBytes ((← get).length + 1)
  match Utf8.decode? bytes with
  | some text => return text
  | none => failure

/-! ## Numbers and literals -/

/-- The digits of an exponent after those that make up `power`, up to the first that makes it too
large, and whether there was none such. -/
def powerDigits : Nat → Bytes → Nat × Bytes × Bool
  | power, [] => (power, [], true)
  | power, byte :: rest =>
    if isDigit byte then
      let power := digitsValue power [byte]
      if power < maxPower then powerDigits power rest else (power, rest, false)
    else (power, byte :: rest, true)
where
  /-- The first exponent that is too large to be kept. -/
  maxPower : Nat := 0x80000000

/-- An exponent after its mark, for a number with or without a nonzero digit.  One that is too large
ends the number at once, unless it makes the number zero. -/
def power (significant : Bool) : Attempt Int := do
  let (sign, bytes) : Int × Bytes := match ← get with
    | mark :: rest =>
      if mark == ascii '+' then (1, rest)
      else if mark == ascii '-' then (-1, rest)
      else (1, mark :: rest)
    | [] => (1, [])
  set bytes
  let first ← next
  if !isDigit first then failure
  let (power, rest, kept) := powerDigits (digitsValue 0 [first]) (← get)
  set rest
  if !kept then
    if significant && 0 < sign then failure
    let _ ← takeDigits
  return sign * power

def fraction : Attempt (Option Bytes) := do
  if (← get).head? == some (ascii '.') then
    let _ ← next
    let digits ← takeDigits
    if digits.isEmpty then failure
    return some digits
  else return none

def whole : Attempt Bytes := do
  let first ← next
  if first == ascii '0' then
    if (← get).head?.any isDigit then failure
    return [first]
  else if isDigit first then return first :: (← takeDigits)
  else failure

/-- A number after its sign. -/
def unsigned (negative : Bool) : Attempt Node := do
  let whole ← whole
  let fraction ← fraction
  let mark := (← get).head?
  let power ← if mark == some (ascii 'e') || mark == some (ascii 'E') then do
      let _ ← next
      let kept := (Scaled.ofWhole whole).addFraction (fraction.getD [])
      some <$> power (kept.significand != 0)
    else pure none
  match numberNode negative whole fraction power with
  | .real false => failure
  | node => return node

def literal (rest : String) (node : Node) : Attempt Node := do
  (Utf8.encode rest).forM expect
  return node

/-- A value that is neither an array nor an object, whose first byte is only looked at yet.  Any other
byte is left where it is. -/
def scalar (first : UInt8) : Attempt Node := do
  if first == ascii '"' then
    let _ ← next
    return .text (.ok (← string))
  else if first == ascii 'n' then
    let _ ← next
    literal "ull" .null
  else if first == ascii 't' then
    let _ ← next
    literal "rue" (.bool true)
  else if first == ascii 'f' then
    let _ ← next
    literal "alse" (.bool false)
  else if first == ascii '-' then
    let _ ← next
    unsigned true
  else if isDigit first then unsigned false
  else failure

/-! ## Arrays and objects -/

/-- The end of an array; a comma is taken before it turns out to be out of place. -/
def endArray : Attempt Unit := do
  let byte ← peek
  if byte == ascii ']' then let _ ← next
  else if byte == ascii ',' then
    let _ ← next
    failure
  else failure

def endObject : Attempt Unit := do
  if (← peek) == ascii '\x7d' then let _ ← next
  else failure

/-- Whether another item follows before `closing`; a comma has to separate it from the one before. -/
def hasNext (first : Bool) (closing : UInt8) : Attempt Bool := do
  let byte ← peek
  if byte == closing then return false
  else if first then return true
  else if byte == ascii ',' then
    let _ ← next
    if (← peek) == closing then failure
    return true
  else failure

/-- Whether another member follows; its key has to be a string. -/
def hasMember (first : Bool) : Attempt Bool := do
  if !(← hasNext first (ascii '\x7d')) then return false
  if (← peek) == ascii '"' then return true else failure

/-- A key and the colon after it. -/
def key : Attempt String := do
  let _ ← next
  string

def colon : Attempt Unit := do
  if (← peek) == ascii ':' then let _ ← next
  else failure

mutual

/-- Any value, with arrays and objects nested less than `depth` deep.  `fuel` bounds the number of
values still to be begun. -/
def valueWith (depth : Nat) : Nat → Attempt Node
  | 0 => failure
  | fuel + 1 => do
    let first ← peek
    if first == ascii '[' then
      if depth ≤ 1 then failure
      let _ ← next
      return .array (← (items (depth - 1) fuel true).closedBy endArray) true
    else if first == ascii '\x7b' then
      if depth ≤ 1 then failure
      let _ ← next
      return .object (← (members (depth - 1) fuel true).closedBy endObject) true
    else scalar first

def items (depth : Nat) : Nat → Bool → Attempt (List Node)
  | 0, _ => failure
  | fuel + 1, first => do
    if ← hasNext first (ascii ']') then
      return (← valueWith depth fuel) :: (← items depth fuel false)
    else return []

def members (depth : Nat) : Nat → Bool → Attempt (List (Node × Node))
  | 0, _ => failure
  | fuel + 1, first => do
    if ← hasMember first then
      let key ← key
      colon
      let value ← valueWith depth fuel
      return (.text (.ok key), value) :: (← members depth fuel false)
    else return []

end

def value : Attempt Node := do
  valueWith Node.maxDepth (2 * (← get).length + 2)

/-- A value that is passed over, whatever its strings and numbers. -/
def skip : Attempt Unit := do
  match Reader.value (2 * (← get).length + 2) (← get) with
  | (node, some rest) =>
    set rest
    if !node.isSkippable then failure
  | (_, none) => failure

end Attempt

end RoleVault.Json
