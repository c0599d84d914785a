import RoleVault.Text.Decimal
import RoleVault.Text.Hex
import RoleVault.Text.Scan
import RoleVault.Time.Calendar
import RoleVault.Toml.Value

/-!
Contract: the written form of TOML.

Owns:
- blanks, comments, keys, strings, numbers, dates, arrays and inline tables, and the lines of a
  document as statements;
- what a sequence of statements amounts to, one table, and `Document.parse?`.

Does not own: what the table is used for (`RoleVault.Settings.File`).
-/

namespace RoleVault.Toml

open RoleVault.Text RoleVault.Text.Scan

namespace Reader

/-! ## Blanks, comments and ends of lines -/

def isBlank (char : Char) : Bool :=
  char == ' ' || char == '\t'

def dropBlanks (chars : List Char) : List Char :=
  chars.dropWhile isBlank

/-- The characters of comments and of strings, their own marks apart: a tab, and all but the control
characters. -/
def isPlain (char : Char) : Bool :=
  char == '\t' || (0x20 ≤ char.toNat && char.toNat ≤ 0x7E) || 0x80 ≤ char.toNat

def newline : List Char → Option (List Char)
  | '\n' :: rest => some rest
  | '\r' :: '\n' :: rest => some rest
  | _ => none

def dropComment : List Char → List Char
  | '#' :: rest => rest.dropWhile isPlain
  | chars => chars

/-- Takes blanks, a comment, and the end of the line or of the text. -/
def lineEnd (chars : List Char) : Option (List Char) :=
  match dropComment (dropBlanks chars) with
  | [] => some []
  | chars => newline chars

/-- Takes blanks, ends of lines and comments, as long as there are any; `fuel` bounds their
number. -/
def dropLines : Nat → List Char → List Char
  | 0, chars => chars
  | fuel + 1, chars =>
    let chars := dropBlanks chars
    match newline (dropComment chars) with
    | some rest => dropLines fuel rest
    | none => chars

/-! ## Strings -/

def shortEscape? (char : Char) : Option Char :=
  if char = '"' || char = '\\' then some char
  else if char = 'b' then some '\x08'
  else if char = 't' then some '\t'
  else if char = 'n' then some '\n'
  else if char = 'f' then some '\x0c'
  else if char = 'r' then some '\r'
  else none

def codePoint? (digits : List Char) : Option Char := do
  let values ← digits.mapM Hex.value?
  let code := values.foldl (fun code value => code * 16 + value) 0
  if code < 0xD800 || (0xE000 ≤ code && code < 0x110000) then some (Char.ofNat code) else none

/-- A character before the text that follows it. -/
def prepend (char : Char) : Option (List Char × List Char) → Option (List Char × List Char)
  | some (text, rest) => some (char :: text, rest)
  | none => none

/-- The rest of a string in double quotes. -/
def basicText : Step (List Char)
  | '"' :: rest => some ([], rest)
  | '\\' :: 'u' :: a :: b :: c :: d :: rest =>
    match codePoint? [a, b, c, d] with
    | some char => prepend char (basicText rest)
    | none => none
  | '\\' :: 'U' :: a :: b :: c :: d :: e :: f :: g :: h :: rest =>
    match codePoint? [a, b, c, d, e, f, g, h] with
    | some char => prepend char (basicText rest)
    | none => none
  | '\\' :: escape :: rest =>
    match shortEscape? escape with
    | some char => prepend char (basicText rest)
    | none => none
  | char :: rest => if char != '\\' && isPlain char then prepend char (basicText rest) else none
  | [] => none

/-- The rest of a string in single quotes. -/
def literalText : Step (List Char)
  | '\'' :: rest => some ([], rest)
  | char :: rest => if isPlain char then prepend char (literalText rest) else none
  | [] => none

/-- The rest of a string in three double quotes.  Two quotes may stand before the closing ones.
While `joining`, after a backslash at the end of a line, blanks and ends of lines are passed over. -/
def basicBlock (joining : Bool) : Step (List Char)
  | '"' :: '"' :: '"' :: '"' :: '"' :: rest => some (['"', '"'], rest)
  | '"' :: '"' :: '"' :: '"' :: rest => some (['"'], rest)
  | '"' :: '"' :: '"' :: rest => some ([], rest)
  | '\\' :: 'u' :: a :: b :: c :: d :: rest =>
    match codePoint? [a, b, c, d] with
    | some char => prepend char (basicBlock false rest)
    | none => none
  | '\\' :: 'U' :: a :: b :: c :: d :: e :: f :: g :: h :: rest =>
    match codePoint? [a, b, c, d, e, f, g, h] with
    | some char => prepend char (basicBlock false rest)
    | none => none
  | '\\' :: escape :: rest =>
    match shortEscape? escape with
    | some char => prepend char (basicBlock false rest)
    | none =>
      if (newline (dropBlanks (escape :: rest))).isSome then basicBlock true (escape :: rest)
      else none
  | '\r' :: '\n' :: rest =>
    if joining then basicBlock true rest else prepend '\n' (basicBlock false rest)
  | char :: rest =>
    if joining && (isBlank char || char == '\n') then basicBlock true rest
    else if char != '\\' && (isPlain char || char == '\n') then prepend char (basicBlock false rest)
    else none
  | [] => none

/-- The rest of a string in three single quotes. -/
def literalBlock : Step (List Char)
  | '\'' :: '\'' :: '\'' :: '\'' :: '\'' :: rest => some (['\'', '\''], rest)
  | '\'' :: '\'' :: '\'' :: '\'' :: rest => some (['\''], rest)
  | '\'' :: '\'' :: '\'' :: rest => some ([], rest)
  | '\r' :: '\n' :: rest => prepend '\n' (literalBlock rest)
  | char :: rest =>
    if isPlain char || char == '\n' then prepend char (literalBlock rest) else none
  | [] => none

/-- The text without an end of a line at its front. -/
def dropNewline (chars : List Char) : List Char :=
  (newline chars).getD chars

def lineString : Step String
  | '"' :: rest => (basicText rest).map fun (text, rest) => (String.ofList text, rest)
  | '\'' :: rest => (literalText rest).map fun (text, rest) => (String.ofList text, rest)
  | _ => none

def string : Step String
  | '"' :: '"' :: '"' :: rest =>
    (basicBlock false (dropNewline rest)).map fun (text, rest) => (String.ofList text, rest)
  | '\'' :: '\'' :: '\'' :: rest =>
    (literalBlock (dropNewline rest)).map fun (text, rest) => (String.ofList text, rest)
  | chars => lineString chars

/-! ## Keys -/

def isBareKeyChar (char : Char) : Bool :=
  CharClass.isAlphanumeric char || char == '-' || char == '_'

/-- A key without dots. -/
def simpleKey : Step String := fun chars =>
  match chars with
  | '"' :: _ | '\'' :: _ => lineString chars
  | _ =>
    let bare := chars.takeWhile isBareKeyChar
    if bare.isEmpty then none else some (String.ofList bare, chars.drop bare.length)

/-- The most names of a dotted key, and the most arrays and inline tables inside each other. -/
def maxDepth : Nat := 79

/-- The names of a dotted key, with blanks around each; `fuel` bounds their number. -/
def keyNames : Nat → Step (List String)
  | 0, _ => none
  | fuel + 1, chars =>
    match simpleKey (dropBlanks chars) with
    | none => none
    | some (name, rest) =>
      match dropBlanks rest with
      | '.' :: rest => (keyNames fuel rest).map fun (names, rest) => (name :: names, rest)
      | rest => some ([name], rest)

/-- A dotted key: the names on the way and the last name. -/
def key : Step (List String × String) := fun chars => do
  let (names, rest) ← keyNames maxDepth chars
  return ((names.dropLast, names.getLast?.getD ""), rest)

/-! ## Numbers and dates -/

/-- Digits of a base, with single underscores between them. -/
def digitRun (isDigit : Char → Bool) : Step (List Char)
  | char :: '_' :: next :: rest =>
    if !isDigit char then none
    else if isDigit next then prepend char (digitRun isDigit (next :: rest))
    else some ([char], '_' :: next :: rest)
  | char :: next :: rest =>
    if !isDigit char then none
    else if isDigit next then prepend char (digitRun isDigit (next :: rest))
    else some ([char], next :: rest)
  | [char] => if isDigit char then some ([char], []) else none
  | [] => none

/-- Whether a number lies within sixty-four bits with a sign. -/
def inRange (value : Int) : Bool :=
  Int64.minValue.toInt ≤ value && value ≤ Int64.maxValue.toInt

/-- An integer in a base other than ten, after its mark. -/
def basedInteger (base : Nat) : Step Value := fun chars => do
  let isDigit (char : Char) : Bool := (Hex.value? char).any (· < base)
  let (run, rest) ← digitRun isDigit chars
  let value : Int := run.foldl (fun value char => value * base + (Hex.value? char).getD 0) 0
  if inRange value then some (.integer value, rest) else none

def sign : List Char → Bool × List Char
  | '-' :: rest => (true, rest)
  | '+' :: rest => (false, rest)
  | chars => (false, chars)

/-- Decimal digits without a leading zero. -/
def wholePart : Step (List Char)
  | '0' :: rest => some (['0'], rest)
  | chars => digitRun CharClass.isDigit chars

def decimalInteger : Step Value := fun chars => do
  let (negative, unsigned) := sign chars
  let (run, rest) ← wholePart unsigned
  let value : Int := Nat.ofDigitChars 10 run 0
  let value := if negative then -value else value
  if inRange value then some (.integer value, rest) else none

def exponent : Step Int
  | 'e' :: rest | 'E' :: rest => do
    let (negative, unsigned) := sign rest
    let (run, rest) ← digitRun CharClass.isDigit unsigned
    let value : Int := Nat.ofDigitChars 10 run 0
    return (if negative then -value else value, rest)
  | _ => none

/-- A number with a fraction or an exponent.  Only negative ones may be out of range. -/
def decimalReal : Step Value := fun chars => do
  let (negative, unsigned) := sign chars
  let (whole, rest) ← wholePart unsigned
  let (places, power, rest) ← match rest with
    | '.' :: rest => do
      let (places, rest) ← digitRun CharClass.isDigit rest
      match exponent rest with
      | some (power, rest) => some (places, power, rest)
      | none => match rest with
        | 'e' :: _ | 'E' :: _ => none
        | _ => some (places, 0, rest)
    | rest => (exponent rest).map fun (power, rest) => (([] : List Char), power, rest)
  let significand := Nat.ofDigitChars 10 (whole ++ places) 0
  if negative || DoublePrecision.isFinite significand (power - places.length) then some (.real, rest)
  else none

/-- An infinity or no number at all, with an optional sign. -/
def specialReal : Step Value := fun chars =>
  let (_, rest) := sign chars
  if ['i', 'n', 'f'].isPrefixOf rest || ['n', 'a', 'n'].isPrefixOf rest then
    some (.real, rest.drop 3)
  else none

def date : Step Unit := fun chars => do
  let (year, rest) ← number 4 4 chars
  let (_, rest) ← literal '-' rest
  let (month, rest) ← twoDigits 1 12 rest
  let (_, rest) ← literal '-' rest
  let (day, rest) ← twoDigits 1 31 rest
  if Time.Date.isValid ⟨year, month, day⟩ then some ((), rest) else none

/-- A time of day, with an optional fraction of a second. -/
def time : Step Unit := fun chars => do
  let (_, rest) ← twoDigits 0 23 chars
  let (_, rest) ← literal ':' rest
  let (_, rest) ← twoDigits 0 59 rest
  let (_, rest) ← literal ':' rest
  let (_, rest) ← twoDigits 0 60 rest
  match rest with
  | '.' :: fraction =>
    let digits := fraction.takeWhile CharClass.isDigit
    if digits.isEmpty then some ((), rest) else some ((), fraction.drop digits.length)
  | _ => some ((), rest)

def offset : Step Unit
  | 'Z' :: rest | 'z' :: rest => some ((), rest)
  | '+' :: rest | '-' :: rest => do
    let (_, rest) ← twoDigits 0 23 rest
    let (_, rest) ← literal ':' rest
    let (_, rest) ← twoDigits 0 59 rest
    return ((), rest)
  | _ => none

def timeAfterDate : Step Unit
  | first :: rest =>
    if first = 'T' || first = 't' || first = ' ' then do
      let (_, rest) ← time rest
      return ((offset rest).getD ((), rest))
    else none
  | [] => none

def moment : Step Value := fun chars =>
  match date chars with
  | some (_, rest) => some (.moment, ((timeAfterDate rest).getD ((), rest)).2)
  | none => (time chars).map fun (_, rest) => (.moment, rest)

def numeral : Step Value := fun chars =>
  match chars with
  | '0' :: 'x' :: rest => basedInteger 16 rest
  | '0' :: 'o' :: rest => basedInteger 8 rest
  | '0' :: 'b' :: rest => basedInteger 2 rest
  | _ =>
    (moment chars).orElse fun _ => (decimalReal chars).orElse fun _ =>
      (specialReal chars).orElse fun _ => decimalInteger chars

/-! ## Values -/

def scalar : Step Value := fun chars =>
  match chars with
  | '"' :: _ | '\'' :: _ => (string chars).map fun (text, rest) => (.text text, rest)
  | 't' :: _ => (word ['t', 'r', 'u', 'e'] chars).map fun (_, rest) => (.boolean true, rest)
  | 'f' :: _ => (word ['f', 'a', 'l', 's', 'e'] chars).map fun (_, rest) => (.boolean false, rest)
  | _ => numeral chars

mutual

/-- A value; `depth` bounds the arrays and inline tables inside each other, and `fuel` the values
still to be begun. -/
def value : Nat → Nat → Step Value
  | 0, _, _ => none
  | fuel + 1, depth, chars =>
    match chars with
    | '[' :: rest =>
      match depth with
      | 0 => none
      | depth + 1 => (items fuel depth rest).map fun (items, rest) => (.array items, rest)
    | '\x7b' :: rest =>
      match depth with
      | 0 => none
      | depth + 1 =>
        match dropBlanks rest with
        | '\x7d' :: rest => some (Value.emptyTable .inline, rest)
        | _ => members fuel depth (Value.emptyTable .inline) rest
    | _ => scalar chars

def items : Nat → Nat → Step (List Value)
  | 0, _, _ => none
  | fuel + 1, depth, chars =>
    match dropLines chars.length chars with
    | ']' :: rest => some ([], rest)
    | chars =>
      match value fuel depth chars with
      | none => none
      | some (item, rest) =>
        match dropLines rest.length rest with
        | ']' :: rest => some ([item], rest)
        | ',' :: rest => (items fuel depth rest).map fun (others, rest) => (item :: others, rest)
        | _ => none

/-- The members of an inline table up to its closing brace, added to those before. -/
def members : Nat → Nat → Value → Step Value
  | 0, _, _, _ => none
  | fuel + 1, depth, table, chars =>
    match key chars with
    | some ((path, name), '=' :: rest) =>
      match value fuel depth (dropBlanks rest) with
      | none => none
      | some (member, rest) =>
        match Value.assign path name member table with
        | none => none
        | some table =>
          match dropBlanks rest with
          | '\x7d' :: rest => some (table, rest)
          | ',' :: rest => members fuel depth table rest
          | _ => none
    | _ => none

end

/-! ## Lines -/

/-- A line of a document that says something. -/
inductive Statement where
  | assign (path : List String) (name : String) (value : Value)
  | table (path : List String) (name : String)
  | row (path : List String) (name : String)

/-- A header after its opening bracket. -/
def header : Step Statement
  | '[' :: rest => do
    let ((path, name), rest) ← key rest
    let (_, rest) ← word [']', ']'] rest
    return (.row path name, rest)
  | chars => do
    let ((path, name), rest) ← key chars
    let (_, rest) ← literal ']' rest
    return (.table path name, rest)

def assignment : Step Statement := fun chars => do
  let ((path, name), rest) ← key chars
  let (_, rest) ← literal '=' rest
  let rest := dropBlanks rest
  let (value, rest) ← value (2 * rest.length + 2) maxDepth rest
  return (.assign path name value, rest)

/-- A line that says something, without its end. -/
def statement : Step Statement
  | '[' :: rest => header rest
  | chars => assignment chars

/-- The statements of a text; `fuel` bounds the number of its lines. -/
def statements : Nat → List Char → Option (List Statement)
  | 0, _ => none
  | fuel + 1, chars =>
    match dropLines chars.length chars with
    | [] => some []
    | chars =>
      match dropComment chars with
      | [] => some []
      | _ => do
        let (first, rest) ← statement chars
        let rest ← lineEnd rest
        let others ← statements fuel rest
        return first :: others

end Reader

/-- A document under construction: its table, and the path of the header that is open. -/
structure Document where
  root : Value
  here : List String

namespace Document

/-- The document before its first statement. -/
def empty : Document := ⟨Value.emptyTable .header, []⟩

/-- The document after one more statement; a statement that defines something twice is refused. -/
def add (document : Document) : Reader.Statement → Option Document
  | .assign path name value => do
    let root ← Value.changeAt .implied (Value.assign path name value) document.here document.root
    return { document with root := root }
  | .table path name => do
    let root ← Value.changeAt .implied (Value.openTable name) path document.root
    return ⟨root, path ++ [name]⟩
  | .row path name => do
    let root ← Value.changeAt .implied (Value.openRow name) path document.root
    return ⟨root, path ++ [name]⟩

/-- The document of a text, if the text is well formed.  A byte order mark in front is passed
over. -/
def parse? (text : String) : Option Document := do
  let chars := match text.toList with
    | '\ufeff' :: rest => rest
    | chars => chars
  let statements ← Reader.statements (chars.length + 1) chars
  statements.foldlM add empty

end Document

end RoleVault.Toml
