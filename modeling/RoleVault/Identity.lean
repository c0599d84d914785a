import RoleVault.Role
import RoleVault.Text.Hex

/-!
Contract: who is calling.

Owns:
- the type `UserId` of 128-bit identifiers, their canonical text, lower-case and hyphenated, and the
  reader of all accepted spellings;
- the facts about a caller that a session token carries, and the questions the permission gate asks
  of them.

Does not own: how the facts are proved (`RoleVault.Session.Token`), or how fresh identifiers come
about; operations take them as arguments.
-/

namespace RoleVault

open RoleVault.Text

structure UserId where
  bytes : List UInt8
  length_eq : bytes.length = 16
deriving DecidableEq

namespace UserId

instance : Inhabited UserId := ⟨⟨List.replicate 16 0, by decide⟩⟩

/-- The identifier of these bytes, if there are sixteen. -/
def ofBytes? (bytes : List UInt8) : Option UserId :=
  if sized : bytes.length = 16 then some ⟨bytes, sized⟩ else none

/-- Digits in groups of eight, four, four, four and twelve, with hyphens between. -/
def hyphenate (digits : List Char) : List Char :=
  digits.take 8 ++ '-' :: (digits.drop 8).take 4 ++ '-' :: (digits.drop 12).take 4 ++
    '-' :: (digits.drop 16).take 4 ++ '-' :: digits.drop 20

def text (id : UserId) : String :=
  String.ofList (hyphenate (Hex.encode id.bytes))

instance : ToString UserId := ⟨text⟩
instance : Repr UserId := ⟨fun id _ => Std.Format.text id.text⟩

/-- The digits of a hyphenated spelling, if the hyphens stand where they belong. -/
def unhyphenate? (chars : List Char) : Option (List Char) :=
  if chars.length = 36 && chars[8]? == some '-' && chars[13]? == some '-' &&
      chars[18]? == some '-' && chars[23]? == some '-' then
    some (chars.take 8 ++ (chars.drop 9).take 4 ++ (chars.drop 14).take 4 ++
      (chars.drop 19).take 4 ++ chars.drop 24)
  else none

/-- The digits of a spelling: plain, hyphenated, hyphenated in braces, or hyphenated as a URN with the
letters of its head in any case. -/
def digits? (chars : List Char) : Option (List Char) :=
  match chars.length with
  | 32 => some chars
  | 36 => unhyphenate? chars
  | 38 =>
    if chars.head? == some '\x7b' && chars.getLast? == some '\x7d' then
      unhyphenate? ((chars.drop 1).take 36)
    else none
  | 45 =>
    if (chars.take 9).map Char.toLower == ['u', 'r', 'n', ':', 'u', 'u', 'i', 'd', ':'] then
      unhyphenate? (chars.drop 9)
    else none
  | _ => none

/-- The identifier that a text spells in one of the accepted forms, digits in either case. -/
def ofText? (text : String) : Option UserId := do
  ofBytes? (← Hex.decode? (← digits? text.toList))

/-- A byte whose high bits in `mask` are those of `mark`. -/
def marked (mask mark byte : UInt8) : UInt8 :=
  (byte &&& ~~~mask) ||| mark

/-- The identifier of sixteen random bytes: version four and the usual variant are marked in it. -/
def ofRandom (bytes : Vector UInt8 16) : UserId :=
  ⟨((bytes.set 6 (marked 0xF0 0x40 bytes[6])).set 8 (marked 0xC0 0x80 bytes[8])).toList, by simp⟩

end UserId

/-- The caller of a request, as of the time its session began. -/
structure Identity where
  id : UserId
  name : String
  displayName : String
  group : GroupId
  roles : List Role
deriving DecidableEq, Repr

namespace Identity

def highest (identity : Identity) : Role :=
  Role.highest identity.roles

def isOperator (identity : Identity) : Bool :=
  identity.highest == .operator

def isSelf (identity : Identity) (id : UserId) : Bool :=
  identity.id == id

def inGroup (identity : Identity) (group : GroupId) : Bool :=
  identity.group == group

end Identity

end RoleVault
