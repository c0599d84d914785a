import RoleVault.Text.Decimal
import RoleVault.Text.Hex

/-!
Contract: the address of a database as settings write it, and the name under which it is opened.

Owns:
- reading an address (`Address.parse?`), and the name that it opens (`Address.openingName`);
- what such a name says (`FileName.ofAddress?`), be it the plain name of a file or a URI with `file:`
  before the name and settings after it.

Does not own: the file itself (`RoleVault.Store.Connection`).

An address is a file name or `:memory:`, with `sqlite:` and slashes before it and a query after it.

| part of a URI | rule |
| --- | --- |
| `//host` | empty or `localhost` |
| path | up to the first question mark |
| settings | pairs with an equals sign, with ampersands between; unknown ones do not matter |
| `#` | ends the URI |

A percent sign with two digits writes a byte.  The byte zero ends the part that it stands in.
-/

namespace RoleVault.Store

open RoleVault.Text

structure Address where
  /-- The name of a file, which may be a URI of its own. -/
  name : String
  /-- Whether the database lasts only as long as the program. -/
  inMemory : Bool := false
  readOnly : Bool := false
  /-- Whether the file is taken for one that nobody writes. -/
  immutable : Bool := false
  /-- The name of the layer that reaches files, where it is not the usual one. -/
  layer : Option String := none
deriving DecidableEq, Repr

namespace Address

/-- The text without a leading mark, however often it stands there. -/
def dropLeading (mark : List Char) (filled : 0 < mark.length) (chars : List Char) : List Char :=
  if leads : mark.isPrefixOf chars then
    have : (chars.drop mark.length).length < chars.length := by
      have fits := (List.isPrefixOf_iff_prefix.mp leads).length_le
      simp only [List.length_drop]
      omega
    dropLeading mark filled (chars.drop mark.length)
  else chars
termination_by chars.length

def withSetting? (address : Address) : String × String → Option Address
  | ("mode", "ro") => some { address with readOnly := true }
  | ("mode", "rw") | ("mode", "rwc") => some address
  | ("mode", "memory") => some { address with inMemory := true }
  | ("cache", "private") | ("cache", "shared") => some address
  | ("immutable", "true") | ("immutable", "1") => some { address with immutable := true }
  | ("immutable", "false") | ("immutable", "0") => some { address with immutable := false }
  | ("vfs", name) => some { address with layer := some name }
  | _ => none

/-- The name of the first database in memory. -/
def memoryName : String := "file:in-memory"

/-- The address that a text writes.  A file name may be written with percent signs. -/
def parse? (text : String) : Option Address := do
  let chars := dropLeading "//".toList (by decide) (dropLeading "sqlite:".toList (by decide) text.toList)
  let (place, settings) := Percent.splitFirst '?' (String.ofList chars)
  let start ← if place = ":memory:" then some { name := memoryName, inMemory := true }
    else (Percent.decode? place).map fun name => { name := name }
  (Percent.query (settings.getD "")).foldlM withSetting? start

/-- The settings that a name carries in a query of its own. -/
def openingSettings (address : Address) : List String :=
  (if address.immutable then ["immutable=true"] else []) ++
    (address.layer.map fun layer => "vfs=" ++ Percent.encodeForm layer).toList

def openingName (address : Address) : String :=
  match address.openingSettings with
  | [] => address.name
  | settings => "file:" ++ Percent.encode address.name ++ "?" ++ "&".intercalate settings

end Address

inductive FileAccess where
  /-- There is no file. -/
  | without
  | readOnly
  | readWrite
  /-- Reading and writing, also of a file that does not exist yet. -/
  | create
deriving DecidableEq, Repr

/-- The rank by which one access may replace another; memory has a rank of its own. -/
def FileAccess.rank : FileAccess → Nat
  | without => 0
  | readOnly => 1
  | readWrite => 2
  | create => 6

inductive Layer where
  /-- Files with locks, and with a log of changes if wanted; the index of the log is a file too. -/
  | locking
  /-- Files that one program has to itself, with a log of changes if wanted. -/
  | exclusive
  /-- Files with a lock of its own name beside each, which cannot have a log. -/
  | lockBeside
  /-- Files without locks, which cannot have a log either. -/
  | unlocked
  /-- No file at all. -/
  | memory
deriving DecidableEq, Repr

def Layer.ofName? (name : String) : Option Layer :=
  if name = "unix" then some .locking
  else if name = "unix-excl" then some .exclusive
  else if name = "unix-dotfile" then some .lockBeside
  else if name = "unix-none" then some .unlocked
  else if name = "memdb" then some .memory
  else none

structure FileName where
  /-- The name of the file; empty for a file of no name that is gone in the end. -/
  name : String
  access : FileAccess
  inMemory : Bool
  layer : Layer := .locking
  noLock : Bool := false
  immutable : Bool := false
  /-- Whether a file with the index of a log is never created. -/
  indexReadOnly : Bool := false
  /-- The file whose mode a new one is created with. -/
  modeOf : Option String := none
deriving DecidableEq, Repr

namespace FileName

/-! ## Parts of a URI -/

def decodePart (chars : List Char) : String :=
  let bytes := Percent.decodeBytes (Utf8.encode (String.ofList chars))
  Utf8.decodeLossy (bytes.takeWhile (· != 0))

/-- The characters after the host, unless it is a foreign one. -/
def dropHost? (chars : List Char) : Option (List Char) :=
  match chars with
  | '/' :: '/' :: rest =>
    let host := String.ofList (rest.takeWhile (· != '/'))
    if host = "" ∨ host = "localhost" then some (rest.dropWhile (· != '/')) else none
  | _ => some chars

def readSetting? (text : String) : Option (String × String) :=
  let chars := text.toList
  let name := decodePart (chars.takeWhile (· != '='))
  let value := decodePart ((chars.dropWhile (· != '=')).drop 1)
  if name.isEmpty then none else some (name, value)

/-- The settings of a URI in their order. -/
def readSettings (chars : List Char) : List (String × String) :=
  ((String.ofList chars).splitOn "&").filterMap readSetting?

/-! ## Settings -/

def mode? (value : String) : Option (FileAccess × Bool) :=
  if value = "ro" then some (.readOnly, false)
  else if value = "rw" then some (.readWrite, false)
  else if value = "rwc" then some (.create, false)
  else if value = "memory" then some (.without, true)
  else none

/-- The rank that modes are measured against. -/
def modeLimit (file : FileName) : Nat :=
  file.access.rank + if file.inMemory then 128 else 0

/-- The number at the front of a value that begins with a digit: decimal or, after `0x`, hexadecimal
with at most eight significant digits. -/
def leadingNumber (chars : List Char) : Nat :=
  let mark := chars.take 2
  let tail := chars.drop 2
  if (mark = ['0', 'x'] ∨ mark = ['0', 'X']) ∧ tail.head?.any Hex.isDigit then
    let digits := (tail.dropWhile (· == '0')).takeWhile Hex.isDigit
    if 8 < digits.length then 0 else Hex.toNat digits
  else (Decimal.toNat? (chars.takeWhile Char.isDigit)).getD 0

/-- Whether a value means yes: a word for it, or a number of thirty-one bits that is not a multiple of
256. -/
def isYes (value : String) : Bool :=
  if value.toList.head?.any Char.isDigit then
    let number := leadingNumber value.toList
    number < 0x80000000 && number % 256 != 0
  else ["on", "yes", "true"].contains (String.ofList (value.toList.map Char.toLower))

def withSetting? (file : FileName) : String × String → Option FileName
  | ("cache", value) => if value ∈ ["shared", "private"] then some file else none
  | ("mode", value) => do
    let (access, inMemory) ← mode? value
    if access.rank ≤ file.modeLimit then some { file with access := access, inMemory := inMemory }
    else none
  | _ => some file

def layerOf? (settings : List (String × String)) : Option Layer :=
  match settings.reverse.lookup "vfs" with
  | some name => Layer.ofName? name
  | none => some .locking

/-- What a URI says after its scheme; `start` holds what is asked for beside it. -/
def ofUri? (start : FileName) (chars : List Char) : Option FileName := do
  let chars := (← dropHost? chars).takeWhile (· != '#')
  let settings := readSettings ((chars.dropWhile (· != '?')).drop 1)
  let file ← settings.foldlM withSetting?
    { start with name := decodePart (chars.takeWhile (· != '?')) }
  return { file with
    layer := ← layerOf? settings
    noLock := (settings.lookup "nolock").any isYes
    immutable := (settings.lookup "immutable").any isYes
    indexReadOnly := (settings.lookup "readonly_shm").any isYes
    modeOf := settings.lookup "modeof" }

def ofAddress? (address : Address) : Option FileName :=
  let start : FileName := {
    name := address.openingName
    access := if address.readOnly then .readOnly else .create
    inMemory := address.inMemory }
  let chars := start.name.toList
  if chars.contains '\x00' then none
  else if "file:".toList.isPrefixOf chars then ofUri? start (chars.drop 5)
  else some start

/-- Whether the name stands for something that its layer has to open. -/
def isNamed (file : FileName) : Bool :=
  !(file.inMemory || file.name == ":memory:" || file.name == "")

def isFile (file : FileName) : Bool :=
  file.isNamed && file.layer != .memory

/-- Whether the database may be written.  What no layer opens is never taken for immutable. -/
def isWritable (file : FileName) : Bool :=
  file.access != .readOnly && !(file.immutable && file.isNamed)

end FileName

end RoleVault.Store
