/-!
Contract: the values of a TOML document while it is built and when it is done.

Owns:
- the type `Value` and where a table comes from, which decides what may still be added to it;
- adding keys and tables under a path of names, with the rule that nothing is defined twice.

Does not own: the written form (`RoleVault.Toml.Reader`).
-/

namespace RoleVault.Toml

inductive Origin where
  /-- Written in braces; complete as it stands. -/
  | inline
  /-- Opened by a header of its own. -/
  | header
  /-- Named on the way by the header of a table below it. -/
  | implied
  /-- Named on the way by a dotted key. -/
  | dotted
deriving DecidableEq, Repr

/-- A value.  Real numbers and dates carry no content, because nothing looks at it. -/
inductive Value where
  | text (content : String)
  | integer (value : Int)
  | real
  | boolean (value : Bool)
  | moment
  | array (items : List Value)
  | table (origin : Origin) (members : List (String × Value))
  /-- An array of tables, each opened by a header in double brackets. -/
  | rows (tables : List Value)

namespace Value

def member? (name : String) : Value → Option Value
  | table _ members => members.lookup name
  | _ => none

/-- Puts a member into a table, in the place of an earlier one of its name. -/
def setMember (members : List (String × Value)) (name : String) (value : Value) :
    List (String × Value) :=
  match members with
  | [] => [(name, value)]
  | (other, old) :: rest =>
    if other == name then (name, value) :: rest else (other, old) :: setMember rest name value

def emptyTable (origin : Origin) : Value := table origin []

def changeLast (change : Value → Option Value) : List Value → Option (List Value)
  | [] => none
  | [last] => (change last).map fun last => [last]
  | first :: rest => (changeLast change rest).map (first :: ·)

/-- Changes the table under a path of names and creates the tables that are missing on the way, which
come from `origin`.  The way leads through the last table of an array of tables.  A dotted key must
not lead through a table that has a header or braces of its own, nor a header through braces. -/
def changeAt (origin : Origin) (change : Value → Option Value) : List String → Value → Option Value
  | [], value => change value
  | name :: path, table home members =>
    let replaced (value : Value) : Value := table home (setMember members name value)
    match members.lookup name with
    | none => (changeAt origin change path (emptyTable origin)).map replaced
    | some (table .inline _) => none
    | some (table inner content) =>
      if origin = .dotted && inner = .header then none
      else (changeAt origin change path (table inner content)).map replaced
    | some (rows tables) =>
      (changeLast (changeAt origin change path) tables).map fun tables => replaced (rows tables)
    | some _ => none
  | _ :: _, _ => none

/-- Adds a key to a table: a plain key to a table that is not opened by dotted keys, a dotted key to
one that is. -/
def addKey (isDotted : Bool) (name : String) (value : Value) : Value → Option Value
  | table origin members =>
    if (origin == .dotted) != isDotted || (members.lookup name).isSome then none
    else some (table origin (members ++ [(name, value)]))
  | _ => none

def assign (path : List String) (name : String) (value : Value) (home : Value) : Option Value :=
  changeAt .dotted (addKey (!path.isEmpty) name value) path home

/-- Opens a table by its header.  It may have been named on the way before. -/
def openTable (name : String) : Value → Option Value
  | table origin members =>
    match members.lookup name with
    | none => some (table origin (members ++ [(name, emptyTable .header)]))
    | some (table .implied content) =>
      some (table origin (setMember members name (table .header content)))
    | some _ => none
  | _ => none

def openRow (name : String) : Value → Option Value
  | table origin members =>
    match members.lookup name with
    | none => some (table origin (members ++ [(name, rows [emptyTable .header])]))
    | some (rows tables) =>
      some (table origin (setMember members name (rows (tables ++ [emptyTable .header]))))
    | some _ => none
  | _ => none

end Value

end RoleVault.Toml
