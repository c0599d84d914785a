import RoleVault.Store.Tables
import RoleVault.Text.Utf8

/-!
Contract: the names of files, and the tree of files.

Owns:
- paths as a written base and further names below it, their text, the steps that they write, and the
  paths above them;
- the type `Disk` and where a path leads in it (`resolve`);
- its operations: look up, create directories, write, read, remove;
- the failures of these operations and their wording.

Does not own: which process does them when (`RoleVault.Vault.Engine`), or what is kept in a file of a
database (`RoleVault.Store.Connection`).
-/

namespace RoleVault.Files

/-- A place in the tree of files: the names on the way to it from the root. -/
abbrev Location := List String

/-- A path as it is written, and names added below it. -/
structure Path where
  base : String
  names : List String := []
deriving DecidableEq, Repr

namespace Path

def join (text name : String) : String :=
  if text == "" then name
  else if text.endsWith "/" then text ++ name
  else text ++ "/" ++ name

def text (path : Path) : String :=
  path.names.foldl join path.base

def child (path : Path) (name : String) : Path :=
  { path with names := path.names ++ [name] }

/-- Whether the path begins at the root and not where the program runs. -/
def isAbsolute (path : Path) : Bool :=
  path.base.startsWith "/"

/-- The steps of the path.  An empty one and `.` stay where they are, and `..` goes back. -/
def steps (path : Path) : List String :=
  path.base.splitOn "/" ++ path.names

/-- The steps without those that stay where they are; a dot that the path begins with counts. -/
def components (path : Path) : List String :=
  let steps := path.steps
  let names := steps.filter fun step => step != "" && step != "."
  if steps.head? = some "." then "." :: names else names

def ofComponents (absolute : Bool) (components : List String) : Path :=
  ⟨(if absolute then "/" else "") ++ "/".intercalate components, []⟩

/-- The path without its last component, if it has one. -/
def parent? (path : Path) : Option Path :=
  let components := path.components
  if components.isEmpty then none else some (ofComponents path.isAbsolute components.dropLast)

/-- The path and those above it with at least one component, the longest first. -/
def withParents (path : Path) : List Path :=
  let components := path.components
  let shorter := ((List.range components.length).drop 1).reverse
  if components.isEmpty then []
  else path :: shorter.map fun count => ofComponents path.isAbsolute (components.take count)

/-- The places that the steps of the path name one after the other, whatever stands there; `home` is
where the program runs. -/
def places (path : Path) (home : Location) : List Location :=
  let start := if path.isAbsolute then [] else home
  (path.components.foldl (fun (here, seen) step =>
    let next := if step = "." then here else if step = ".." then here.dropLast else here ++ [step]
    (next, next :: seen)) (start, [start])).2.reverse

instance : ToString Path := ⟨text⟩

end Path

open RoleVault.Text

inductive DiskError where
  | notFound
  | permissionDenied
  | alreadyExists
  | notADirectory
  | isADirectory
  | nameTooLong
  /-- A path holds the character that ends texts of the system. -/
  | nulInPath
  /-- A tool was to be started with a text that holds this character. -/
  | nulInArgument
  | argumentTooLong
  /-- Text was asked for and the bytes are not UTF-8. -/
  | notText
  | other (reason : String)
deriving DecidableEq, Repr

def DiskError.message : DiskError → String
  | notFound => "No such file or directory (os error 2)"
  | permissionDenied => "Permission denied (os error 13)"
  | alreadyExists => "File exists (os error 17)"
  | notADirectory => "Not a directory (os error 20)"
  | isADirectory => "Is a directory (os error 21)"
  | nameTooLong => "File name too long (os error 36)"
  | nulInPath => "file name contained an unexpected NUL byte"
  | nulInArgument => "nul byte found in provided data"
  | argumentTooLong => "Argument list too long (os error 7)"
  | notText => "stream did not contain valid UTF-8"
  | other reason => reason

inductive Entry where
  | file (content : List UInt8)
  /-- The file of a database; `writeAhead` if its changes go to a log beside it first. -/
  | database (tables : Store) (writeAhead : Bool)
  | directory
deriving DecidableEq, Repr

/-- The bytes that a reader of plain files finds in the file of a database, up to the first byte that
belongs to no text. -/
def databaseHead : List UInt8 :=
  Utf8.encode "SQLite format 3" ++ [0x00, 0xFF]

structure Disk where
  entries : List (Location × Entry) := []
  /-- Where the program runs: a directory, and so are all on the way to it. -/
  home : Location := []
deriving DecidableEq, Repr

/-- Where a path leads. -/
inductive Target where
  | entry (place : Location) (entry : Entry)
  /-- To a name in a directory under which nothing stands; `slashed` if a slash follows the name. -/
  | vacant (place : Location) (slashed : Bool)
deriving DecidableEq, Repr

/-- The longest name, in bytes. -/
def maxNameSize : Nat := 255

/-- The longest text of a path, in bytes. -/
def maxPathSize : Nat := 4095

namespace Disk

/-! ## Places -/

/-- What stands at a place, if anything. -/
def get? (disk : Disk) (place : Location) : Option Entry :=
  if place.isPrefixOf disk.home then some .directory else disk.entries.lookup place

def put (disk : Disk) (place : Location) (entry : Entry) : Disk :=
  { disk with entries := (place, entry) :: disk.entries.filter fun (other, _) => other != place }

/-- The tree without a place and all that is below it. -/
def removeAt (disk : Disk) (place : Location) : Disk :=
  { disk with entries := disk.entries.filter fun (other, _) => !place.isPrefixOf other }

def children (disk : Disk) (place : Location) : List Location :=
  (disk.entries.map Prod.fst).filter fun other => other.dropLast == place && other != []

/-! ## Paths -/

/-- Goes steps from a place.  Only the last name may be missing, and only slashes may follow it. -/
def walk (disk : Disk) : Location → List String → Except DiskError Target
  | here, [] =>
    match disk.get? here with
    | some entry => .ok (.entry here entry)
    | none => .error .notFound
  | here, step :: rest =>
    if disk.get? here != some .directory then .error .notADirectory
    else if step = "" ∨ step = "." then disk.walk here rest
    else if step = ".." then disk.walk here.dropLast rest
    else if maxNameSize < step.utf8ByteSize then .error .nameTooLong
    else
      let next := here ++ [step]
      if (disk.get? next).isSome then disk.walk next rest
      else if rest.all (· == "") then .ok (.vacant next !rest.isEmpty)
      else .error .notFound

def follow (disk : Disk) (path : Path) (steps : List String) : Except DiskError Target :=
  let text := path.text
  if text.contains '\x00' then .error .nulInPath
  else if text.isEmpty then .error .notFound
  else if maxPathSize < text.utf8ByteSize then .error .nameTooLong
  else disk.walk (if path.isAbsolute then [] else disk.home) steps

def resolve (disk : Disk) (path : Path) : Except DiskError Target :=
  disk.follow path path.steps

/-- What a path leads to, if anything. -/
def find? (disk : Disk) (path : Path) : Option Entry :=
  match disk.resolve path with
  | .ok (.entry _ entry) => some entry
  | _ => none

def isFile (disk : Disk) (path : Path) : Bool :=
  match disk.find? path with
  | some (.file _) | some (.database _ _) => true
  | _ => false

def isDirectory (disk : Disk) (path : Path) : Bool :=
  disk.find? path == some .directory

def exists? (disk : Disk) (path : Path) : Bool :=
  (disk.find? path).isSome

/-- The tree without what a path leads to and all that is below it. -/
def removeTree (disk : Disk) (path : Path) : Disk :=
  match disk.resolve path with
  | .ok (.entry place _) => disk.removeAt place
  | _ => disk

/-! ## Directories -/

/-- Steps without empty ones at their end. -/
def dropSlashes (steps : List String) : List String :=
  (steps.reverse.dropWhile (· == "")).reverse

/-- Creates a directory; slashes after its name do not matter. -/
def createDirectory (disk : Disk) (path : Path) : Except DiskError Disk := do
  match ← disk.follow path (dropSlashes path.steps) with
  | .entry _ _ => throw .alreadyExists
  | .vacant place _ => return disk.put place .directory

/-- Creates the first of some directories after those behind it, as far as they are missing.  What was
created before a failure stays. -/
def createChain (disk : Disk) : List Path → Except DiskError Unit × Disk
  | [] => (.ok (), disk)
  | path :: parents =>
    let settled (disk : Disk) (error : DiskError) : Except DiskError Unit :=
      if error = .alreadyExists && disk.isDirectory path then .ok () else .error error
    match disk.createDirectory path with
    | .ok disk => (.ok (), disk)
    | .error .notFound =>
      match disk.createChain parents with
      | (.error error, disk) => (.error error, disk)
      | (.ok (), disk) =>
        match disk.createDirectory path with
        | .ok disk => (.ok (), disk)
        | .error error => (settled disk error, disk)
    | .error error => (settled disk error, disk)

/-- Creates a directory and those on the way to it, as far as they do not exist. -/
def createDirectories (disk : Disk) (path : Path) : Except DiskError Unit × Disk :=
  disk.createChain path.withParents

/-! ## Files -/

/-- Writes a file, in the place of an earlier one if there is one. -/
def write (disk : Disk) (path : Path) (content : List UInt8) : Except DiskError Disk := do
  match ← disk.resolve path with
  | .entry _ .directory | .vacant _ true => throw .isADirectory
  | .entry place _ | .vacant place false => return disk.put place (.file content)

def read (disk : Disk) (path : Path) : Except DiskError (List UInt8) := do
  match ← disk.resolve path with
  | .entry _ (.file content) => return content
  | .entry _ (.database _ _) => return databaseHead
  | .entry _ .directory => throw .isADirectory
  | .vacant _ _ => throw .notFound

end Disk

end RoleVault.Files
