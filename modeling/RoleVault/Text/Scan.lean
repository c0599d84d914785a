import RoleVault.Text.Decimal

/-!
Contract: the character classes and the steps that readers of small formats share.

Owns:
- `CharClass`: the ASCII classes of letters and digits, the Unicode classes of blank and control
  characters;
- `Scan`: the type of a step, which takes something off the front of a text, and the steps for a
  number of bounded width and for a given character.

Does not own: any format, and the field rules (`RoleVault.Access.Fields`).
-/

namespace RoleVault.Text.CharClass

/-- The letters `A` to `Z` and `a` to `z`, and no others. -/
def isLetter (char : Char) : Bool :=
  ('a' ≤ char && char ≤ 'z') || ('A' ≤ char && char ≤ 'Z')

/-- The digits `0` to `9`, and no others. -/
def isDigit (char : Char) : Bool :=
  '0' ≤ char && char ≤ '9'

/-- A letter or a digit, both of ASCII. -/
def isAlphanumeric (char : Char) : Bool :=
  isLetter char || isDigit char

/-- The characters of the Unicode property White_Space. -/
def isBlank (char : Char) : Bool :=
  let code := char.toNat
  (0x9 ≤ code && code ≤ 0xD) || code == 0x20 || code == 0x85 || code == 0xA0 || code == 0x1680 ||
    (0x2000 ≤ code && code ≤ 0x200A) || code == 0x2028 || code == 0x2029 || code == 0x202F ||
    code == 0x205F || code == 0x3000

/-- The characters of the Unicode category Cc. -/
def isControl (char : Char) : Bool :=
  char.toNat < 0x20 || (0x7F ≤ char.toNat && char.toNat ≤ 0x9F)

/-- The text without the blank characters at its two ends. -/
def trim (text : String) : String :=
  String.ofList ((text.toList.dropWhile isBlank).reverse.dropWhile isBlank).reverse

end RoleVault.Text.CharClass

namespace RoleVault.Text.Scan

/-- What a step takes off the front of a text, and what it leaves. -/
abbrev Step (α : Type) := List Char → Option (α × List Char)

/-- A run of `least` to `most` digits, below two to the sixty-third. -/
def number (least most : Nat) : Step Nat := fun chars =>
  let run := (chars.take most).takeWhile CharClass.isDigit
  let value := Nat.ofDigitChars 10 run 0
  if run.length < least || Decimal.signedLimit ≤ value then none
  else some (value, chars.drop run.length)

def twoDigits (least most : Nat) : Step Nat := fun chars => do
  let (value, rest) ← number 2 2 chars
  if least ≤ value && value ≤ most then some (value, rest) else none

def literal (char : Char) : Step Unit
  | [] => none
  | first :: rest => if first = char then some ((), rest) else none

def word (spelling : List Char) : Step Unit := fun chars =>
  if spelling.isPrefixOf chars then some ((), chars.drop spelling.length) else none

end RoleVault.Text.Scan
