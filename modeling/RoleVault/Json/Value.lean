import RoleVault.Text.Decimal
import RoleVault.Text.Hex

/-!
Contract: JSON as it is written, and as far as it can be read.

Owns:
- `Value`, the values that this library writes, and `render`, which writes them without blanks and
  with the shortest escapes;
- `Node`, a value together with the place where reading it came to a halt;
- `isSkippable`, what a reader needs that passes a value over, and `isReadable`, what a reader needs
  that takes a value in whatever its type.

Does not own: the way from bytes to nodes (`RoleVault.Json.Reader`) or from nodes to records
(`RoleVault.Json.Decode`).

A reader of records looks at a document from left to right and stops at the first thing that is
wrong for it, be it an unfit value or broken writing.  Nodes keep what stands before the break, so
that such a reader is an ordinary function of a node.
-/

namespace RoleVault.Json

open RoleVault.Text

/-- A JSON value; the numbers of this library are integers. -/
inductive Value where
  | null
  | bool (value : Bool)
  | integer (value : Int)
  | text (value : String)
  | array (items : List Value)
  | object (members : List (String × Value))

namespace Value

/-- How a character is written inside a string: the two marks of a string and the control
characters are escaped, all others stand as they are. -/
def escape (char : Char) : List Char :=
  if char = '"' then ['\\', '"']
  else if char = '\\' then ['\\', '\\']
  else if char = '\x08' then ['\\', 'b']
  else if char = '\x0c' then ['\\', 'f']
  else if char = '\n' then ['\\', 'n']
  else if char = '\r' then ['\\', 'r']
  else if char = '\t' then ['\\', 't']
  else if char.toNat < 0x20 then
    ['\\', 'u', '0', '0', Hex.digit (char.toNat / 16), Hex.digit (char.toNat % 16)]
  else [char]

def quote (text : String) : List Char :=
  '"' :: text.toList.flatMap escape ++ ['"']

mutual

def chars : Value → List Char
  | null => ['n', 'u', 'l', 'l']
  | bool true => ['t', 'r', 'u', 'e']
  | bool false => ['f', 'a', 'l', 's', 'e']
  | integer value => (Decimal.ofInt value).toList
  | text value => quote value
  | array items => '[' :: itemChars items ++ [']']
  | object members => '\x7b' :: memberChars members ++ ['\x7d']

/-- The items of an array, with commas between. -/
def itemChars : List Value → List Char
  | [] => []
  | [item] => chars item
  | item :: next :: rest => chars item ++ ',' :: itemChars (next :: rest)

/-- The members of an object, with commas between. -/
def memberChars : List (String × Value) → List Char
  | [] => []
  | [(name, value)] => quote name ++ ':' :: chars value
  | (name, value) :: next :: rest =>
    quote name ++ ':' :: chars value ++ ',' :: memberChars (next :: rest)

end

def render (value : Value) : String :=
  String.ofList (chars value)

end Value

/-- Why a string that is properly closed is still no text. -/
inductive TextFault where
  /-- An escape writes one half of a surrogate pair. -/
  | loneSurrogate
  /-- The bytes are not UTF-8. -/
  | notUnicode
deriving DecidableEq, Repr

/-- A value as far as it can be read.  Keys are nodes too, because any value may stand where a key
belongs; a proper key is a text. -/
inductive Node where
  | null
  | bool (value : Bool)
  /-- A number without fraction or exponent, from -2^63 to 2^64-1, and not minus zero. -/
  | integer (value : Int)
  /-- Any other number; `finite` when it is within the range of double precision. -/
  | real (finite : Bool)
  | text (content : Except TextFault String)
  /-- The items read, and whether the closing bracket follows the last of them. -/
  | array (items : List Node) (closed : Bool)
  /-- The members read, and whether the closing brace follows the last of them. -/
  | object (members : List (Node × Node)) (closed : Bool)
  /-- No value can be read here. -/
  | broken

namespace Node

/-- Whether the node is a string, whatever its content. -/
def isText : Node → Bool
  | text _ => true
  | _ => false

mutual

/-- Whether the value is written properly, so that it can be passed over. -/
def isSkippable : Node → Bool
  | broken => false
  | array items closed => closed && itemsSkippable items
  | object members closed => closed && membersSkippable members
  | _ => true

def itemsSkippable : List Node → Bool
  | [] => true
  | item :: rest => isSkippable item && itemsSkippable rest

def membersSkippable : List (Node × Node) → Bool
  | [] => true
  | (key, value) :: rest => key.isText && isSkippable value && membersSkippable rest

end

/-- The deepest nesting of arrays and objects that is taken in. -/
def maxDepth : Nat := 127

mutual

/-- Whether the value can be taken in whatever its type: written properly, every string a text,
every number in range, and arrays and objects nested at most `depth` deep. -/
def isReadable (depth : Nat) : Node → Bool
  | broken => false
  | real finite => finite
  | text (.ok _) => true
  | text (.error _) => false
  | array items closed => closed && 0 < depth && itemsReadable (depth - 1) items
  | object members closed => closed && 0 < depth && membersReadable (depth - 1) members
  | _ => true

def itemsReadable (depth : Nat) : List Node → Bool
  | [] => true
  | item :: rest => isReadable depth item && itemsReadable depth rest

def membersReadable (depth : Nat) : List (Node × Node) → Bool
  | [] => true
  | (key, value) :: rest =>
    key.isText && isReadable depth key && isReadable depth value && membersReadable depth rest

end

end Node

/-- The first value of a text, and whether only blanks follow it. -/
structure Document where
  root : Node
  ended : Bool

end RoleVault.Json
