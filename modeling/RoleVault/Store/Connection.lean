import RoleVault.Files.Disk
import RoleVault.Store.Address
import RoleVault.Store.Catalog
import RoleVault.Store.Tables

/-!
Contract: an open database.

Owns:
- the place of the file that a name stands for (`fullPlace?`);
- opening the database of an address (`Connection.openNamed`), completing it (`Connection.migrate`)
  and keeping its tables (`Connection.keep`).

Does not own: what the database holds from the start (`RoleVault.Store.Catalog`).

A name is brought into its full form as it is written: `..` takes back the name before it even where
that one does not exist.  A database is kept with a log of changes beside its file, wherever its
layer can do that.
-/

namespace RoleVault.Store

open RoleVault.Files

structure Connection where
  /-- The place of its file, if it has one. -/
  place : Option Location
  tables : Store := {}
  writable : Bool := true
  /-- Whether changes go to the log first. -/
  writeAhead : Bool := false
deriving DecidableEq, Repr

namespace Connection

/-! ## Places of files -/

/-- The most bytes that the full name of a file and the ending of its journal may have. -/
def maxFullSize : Nat := 512

def fullSize (place : Location) : Nat :=
  place.foldl (fun size name => size + 1 + name.utf8ByteSize) 0

/-- Adds a name to a place.  There must be no file in the way, and in a directory the name must not
be too long. -/
def addName? (disk : Disk) (place : Location) (name : String) : Option Location :=
  if maxFullSize ≤ fullSize place + name.utf8ByteSize + 1 then none
  else
    match disk.get? place with
    | none => some (place ++ [name])
    | some .directory => if maxNameSize < name.utf8ByteSize then none else some (place ++ [name])
    | some _ => none

def fullPlace? (disk : Disk) (name : String) : Option Location := do
  let start := if name.startsWith "/" then [] else disk.home
  let place ← ((name.splitOn "/").filter fun step => step != "" && step != ".").foldlM
    (fun place step => if step = ".." then some place.dropLast else addName? disk place step) start
  if place.isEmpty || maxFullSize < fullSize place + 8 then none else some place

/-! ## Opening -/

structure Found where
  tables : Store := {}
  writeAhead : Bool := false

/-- The content of a file.  Fewer than two bytes count as none. -/
def contentOf? : Entry → Option Found
  | .database tables writeAhead => some ⟨tables, writeAhead⟩
  | .file [] | .file [_] => some {}
  | .file _ | .directory => none

/-- Whether the file that a new one would take its mode from is there, if the name tells of one. -/
def modeIsKnown (file : FileName) (disk : Disk) : Bool :=
  file.modeOf.all fun path => disk.exists? ⟨path, []⟩

/-- What is found at a place, and the files after a missing one was created. -/
def findOrCreate (file : FileName) (disk : Disk) (place : Location) : Option Found × Disk :=
  if !modeIsKnown file disk then (none, disk)
  else
    match disk.get? place with
    | some entry => (contentOf? entry, disk)
    | none =>
      if file.access = .create ∧ disk.get? place.dropLast = some .directory then
        (some {}, disk.put place (.file []))
      else (none, disk)

/-- Whether the database of a file is kept with a log of changes. -/
def isLogged (file : FileName) : Bool :=
  (file.layer == .locking || file.layer == .exclusive) && !file.noLock && !file.immutable

/-- Whether a log can have its index.  An index that is a file does not outlast the connections to its
database, so each connection has to create it. -/
def canIndex (file : FileName) : Bool :=
  file.layer == .exclusive || !file.indexReadOnly

/-- Whether the lock of a file can be taken, as far as the length of its name tells. -/
def canLock (file : FileName) (size : Nat) : Bool :=
  file.layer != .lockBeside || file.noLock || file.immutable || size + 5 ≤ maxNameSize

/-- The connection to a file with what was found in it.  The names of the log, the journal and the lock,
which are longer than that of the file, must not be too long.  A log that is only begun is missed
where its index is needed: as soon as the database is used. -/
def connect? (file : FileName) (place : Location) (found : Found) : Option Connection :=
  let size := (place.getLast?.getD "").utf8ByteSize
  let writable := file.isWritable
  let journaled := size + 8 ≤ maxNameSize
  let connection : Connection := { place := some place, tables := found.tables, writable := writable }
  match isLogged file, found.writeAhead with
  | true, true =>
    if size + 4 ≤ maxNameSize && canIndex file then some { connection with writeAhead := true }
    else none
  | true, false =>
    if writable && journaled then
      some { connection with writable := canIndex file, writeAhead := true }
    else none
  | false, true => if file.immutable then some connection else none
  | false, false =>
    if canLock file size then some { connection with writable := writable && journaled } else none

/-- The files after a connection was made: a database that is kept with a log says so in its file. -/
def markLogged (connection : Connection) (disk : Disk) : Disk :=
  match connection.place, connection.writeAhead with
  | some place, true => disk.put place (.database connection.tables true)
  | _, _ => disk

/-- Opens the database of an address: the connection, and the files after a missing one was
created. -/
def openAddress (address : Address) (disk : Disk) : Option Connection × Disk :=
  match FileName.ofAddress? address with
  | none => (none, disk)
  | some file =>
    if file.isFile then
      match fullPlace? disk file.name with
      | none => (none, disk)
      | some place =>
        let (found, after) := findOrCreate file disk place
        match found.bind (connect? file place) with
        | some connection => (some connection, connection.markLogged after)
        | none => (none, after)
    else (some { place := none, writable := file.isWritable }, disk)

def openNamed (text : String) (disk : Disk) : Except StoreError Connection × Disk :=
  match Address.parse? text with
  | none => (.error (.internal "Invalid database URL: ..."), disk)
  | some address =>
    match openAddress address disk with
    | (some connection, after) => (.ok connection, after)
    | (none, after) => (.error .database, after)

/-- Adds what is missing of the builtin entries, which takes a database that can be written. -/
def migrate (connection : Connection) (now : Time.Instant) : Except StoreError Unit × Database :=
  if connection.writable then (Database.migrate now).run (.opened connection.tables)
  else (.error .database, .opened connection.tables)

/-- The files after the tables were kept. -/
def keep (connection : Connection) (tables : Store) (disk : Disk) : Disk :=
  match connection.place with
  | some place =>
    if connection.writable then disk.put place (.database tables connection.writeAhead) else disk
  | none => disk

end Connection

end RoleVault.Store
