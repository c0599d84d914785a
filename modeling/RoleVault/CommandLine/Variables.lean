import RoleVault.Settings.Load
import RoleVault.Text.Alphanumeric
import RoleVault.Text.Scan

/-!
Contract: environment variables written in a file.

Owns: the lines of such a file, the names and values in them, and adding them to an environment.

Does not own: what the variables are for (`RoleVault.Settings.Load`).

| written | value |
| --- | --- |
| `NAME=text # note` | `text` |
| `NAME='text'` | the text as it stands |
| `NAME="text"` | the text after escapes and other variables in it are read |
| `export NAME=text` | as without the word |

A variable that is set already stays.  The first line that cannot be read ends the reading; the
lines before it count.
-/

namespace RoleVault.CommandLine.Variables

open RoleVault.Settings (Environment)
open RoleVault.Text RoleVault.Text.CharClass

/-! ## Lines -/

/-- Where in a line a character stands, as far as that decides whether the line goes on after its
line feed. -/
inductive Place where
  | plain
  /-- After a blank outside quotes. -/
  | blank
  | escape
  | strong
  | strongEscape
  | weak
  | weakEscape
deriving DecidableEq, Repr

/-- The place after a character outside quotes that is not blank. -/
def Place.opening (char : Char) : Place :=
  if char = '\\' then escape
  else if char = '"' then weak
  else if char = '\'' then strong
  else plain

/-- The place after a character. -/
def Place.next (char : Char) : Place → Place
  | plain =>
    if isBlank char && char != '\n' && char != '\r' then blank else Place.opening char
  | blank => Place.opening char
  | escape => plain
  | strong => if char = '\\' then strongEscape else if char = '\'' then plain else strong
  | strongEscape => strong
  | weak => if char = '\\' then weakEscape else if char = '"' then plain else weak
  | weakEscape => weak

/-- The line up to a note, and the place at its end; the place is missing where a note begins. -/
def scanLine : Place → List Char → List Char × Option Place
  | place, [] => ([], some place)
  | place, char :: rest =>
    if place = .blank ∧ char = '#' then ([], none)
    else
      let (kept, last) := scanLine (place.next char) rest
      (char :: kept, last)

/-- The characters without a line feed at their end and a carriage return before it. -/
def dropLineEnd (chars : List Char) : List Char :=
  match chars.reverse with
  | '\n' :: '\r' :: rest | '\n' :: rest => rest.reverse
  | _ => chars

def isNote (chars : List Char) : Bool :=
  (chars.dropWhile isBlank).head? == some '#'

/-- Lines joined where quotes go on over a line feed.  A line that is not text, and quotes that are
still open at the end, come out as nothing, after which no more lines come. -/
def join : Place → List Char → List (Option (List Char)) → List (Option (List Char))
  | place, _, [] => if place = .plain then [] else [none]
  | _, _, none :: _ => [none]
  | place, before, some line :: rest =>
    if isNote (before ++ line) then some [] :: join .plain [] rest
    else
      match scanLine place line with
      | (kept, none) => some (before ++ kept) :: join .plain [] rest
      | (_, some .plain) => some (dropLineEnd (before ++ line)) :: join .plain [] rest
      | (_, some open_) => join open_ (before ++ line) rest

def splitBytes : List UInt8 → List (List UInt8)
  | [] => []
  | byte :: rest =>
    match byte == 0x0A, splitBytes rest with
    | true, lines => [byte] :: lines
    | false, [] => [[byte]]
    | false, line :: lines => (byte :: line) :: lines

/-- The bytes without the mark of their order at the start. -/
def dropMark : List UInt8 → List UInt8
  | 0xEF :: 0xBB :: 0xBF :: rest => rest
  | bytes => bytes

def linesOf (content : List UInt8) : List (Option (List Char)) :=
  join .plain [] ((splitBytes (dropMark content)).map fun line => (Utf8.decode? line).map String.toList)

/-! ## Values -/

inductive Scan where
  | plain
  | weak
  | strong
  | escape (weak : Bool)
  /-- In the name of a variable after a dollar sign; the name so far is reversed. -/
  | name (weak : Bool) (reversed : List Char)
  /-- In such a name between braces. -/
  | braced (weak : Bool) (reversed : List Char)
  /-- After the blank that ends the value. -/
  | ending
deriving DecidableEq, Repr

/-- The place outside a name or an escape. -/
def Scan.outside (weak : Bool) : Scan :=
  if weak then Scan.weak else Scan.plain

/-- The place after a character outside quotes, names and escapes, and what it adds to the value. -/
def Scan.afterPlain (char : Char) : Scan × List Char :=
  if char = '$' then (.name false [], [])
  else if char = '\'' then (.strong, [])
  else if char = '"' then (.weak, [])
  else if char = '\\' then (.escape false, [])
  else if char = ' ' ∨ char = '\t' then (.ending, [])
  else (.plain, [char])

/-- The value that characters write.  `valueOf` gives the value of another variable. -/
def readValue (valueOf : List Char → List Char) : Scan → List Char → Option (List Char)
  | .plain, [] | .ending, [] | .escape false, [] => some []
  | .name false reversed, [] => some (valueOf reversed.reverse)
  | _, [] => none
  | .plain, char :: rest =>
    let (next, added) := Scan.afterPlain char
    (readValue valueOf next rest).map (added ++ ·)
  | .weak, char :: rest =>
    if char = '$' then readValue valueOf (.name true []) rest
    else if char = '"' then readValue valueOf .plain rest
    else if char = '\\' then readValue valueOf (.escape true) rest
    else (readValue valueOf .weak rest).map (char :: ·)
  | .strong, char :: rest =>
    if char = '\'' then readValue valueOf .plain rest
    else (readValue valueOf .strong rest).map (char :: ·)
  | .escape weak, char :: rest =>
    if char = '\\' ∨ char = '\'' ∨ char = '"' ∨ char = '$' ∨ char = ' ' then
      (readValue valueOf (.outside weak) rest).map (char :: ·)
    else if char = 'n' then (readValue valueOf (.outside weak) rest).map ('\n' :: ·)
    else none
  | .name weak reversed, char :: rest =>
    if Alphanumeric.contains char then readValue valueOf (.name weak (char :: reversed)) rest
    else if char = '\x7b' ∧ reversed = [] then readValue valueOf (.braced weak []) rest
    else
      let value := valueOf reversed.reverse
      if char = '$' then (readValue valueOf (.name weak []) rest).map (value ++ ·)
      else (readValue valueOf (.outside weak) rest).map (value ++ char :: ·)
  | .braced weak reversed, char :: rest =>
    if char = '\x7d' then
      (readValue valueOf (.outside weak) rest).map (valueOf reversed.reverse ++ ·)
    else readValue valueOf (.braced weak (char :: reversed)) rest
  | .ending, char :: rest =>
    if char = ' ' ∨ char = '\t' then readValue valueOf .ending rest
    else if char = '#' then some []
    else none

/-! ## Assignments -/

inductive Statement where
  | nothing
  | assign (name : String) (value : List Char)
deriving DecidableEq, Repr

/-- The name at the start, and what follows it. -/
def readName? (chars : List Char) : Option (List Char × List Char) :=
  match chars with
  | first :: _ =>
    if isLetter first || first == '_' then
      let inName := fun char => isAlphanumeric char || char == '_' || char == '.'
      some (chars.takeWhile inName, (chars.dropWhile inName).dropWhile isBlank)
    else none
  | [] => none

/-- What follows an equals sign, without blanks before it. -/
def afterEquals? : List Char → Option (List Char)
  | '=' :: rest => some (rest.dropWhile isBlank)
  | _ => none

/-- The name that a line assigns and the writing of its value.  The word `export` may stand before
the name, unless it is the name. -/
def readTarget? (chars : List Char) : Option (List Char × List Char) := do
  let (name, rest) ← readName? chars
  match afterEquals? rest with
  | some value => return (name, value)
  | none =>
    if name = "export".toList then
      let (name, rest) ← readName? rest
      return (name, ← afterEquals? rest)
    else none

/-- The characters without blanks at their end. -/
def dropEnd (chars : List Char) : List Char :=
  (chars.reverse.dropWhile isBlank).reverse

def readLine (valueOf : List Char → List Char) (line : List Char) : Option Statement :=
  let chars := (dropEnd line).dropWhile isBlank
  if chars.isEmpty || chars.head? == some '#' then some .nothing
  else do
    let (name, value) ← readTarget? chars
    if value.isEmpty || value.head? == some '#' then return .assign (String.ofList name) []
    else return .assign (String.ofList name) (← readValue valueOf .plain value)

/-- The environment with a variable, unless it is set already. -/
def assign (environment : Environment) (name : String) (value : List Char) : Environment :=
  if (environment.text? name).isSome then environment
  else ⟨(name, Utf8.encode (String.ofList value)) :: environment.entries⟩

/-- Does what lines say, up to the first that cannot be read. -/
def perform (environment : Environment) : List (Option (List Char)) → Environment
  | [] | none :: _ => environment
  | some line :: rest =>
    let valueOf := fun name => ((environment.text? (String.ofList name)).getD "").toList
    match readLine valueOf line with
    | none => environment
    | some .nothing => perform environment rest
    | some (.assign name value) => perform (assign environment name value) rest

def load (environment : Environment) (content : List UInt8) : Environment :=
  perform environment (linesOf content)

end RoleVault.CommandLine.Variables
