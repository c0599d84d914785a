import Std.Time.DateTime.Timestamp
import RoleVault.CommandLine.Program
import RoleVault.Store.Snapshot

/-!
Contract: the administration tool on a machine.

Owns: loading the files that a run looks at, running the tool on them, and storing what it changed.

Does not own: any decision of the tool (`RoleVault.CommandLine.Program`).

The encryption tools are those of the trial scheme, so no other program is started.
-/

namespace RoleVault.Machine

open RoleVault.CommandLine RoleVault.Files RoleVault.Text

def platform : String := "x86_64-linux"

def written (place : Location) : String :=
  (Path.ofComponents true place).text

def entryOf (content : List UInt8) : Entry :=
  match Store.Snapshot.decode? content with
  | some (tables, writeAhead) => .database tables writeAhead
  | none => .file content

/-- What stands at a place of the machine, if anything. -/
def look (place : Location) : IO (Option Entry) := do
  try
    let content ← IO.FS.readBinFile (written place)
    return some (entryOf content.toList)
  catch
    | .noFileOrDirectory .. => return none
    | .inappropriateType none .. => return some .directory
    | _ => return none

/-- The files with all that a path leads to and through. -/
def load (disk : Disk) (path : Path) : IO Disk :=
  (path.places disk.home).foldlM (fun disk place => do
    if (disk.get? place).isSome then return disk
    match ← look place with
    | some entry => return disk.put place entry
    | none => return disk) disk

/-- The files that a run looks at. -/
def loadAll (invocation : Invocation) : IO Disk := do
  let here := (← IO.currentDir).toString
  (List.replicate footprintRounds ()).foldlM (fun disk _ =>
    (footprint invocation disk).foldlM load disk) { home := Path.components ⟨here, []⟩ }

/-- Stores the entries that differ from those before. -/
def store (before after : Disk) : IO Unit := do
  for (place, _) in before.entries do
    if (after.get? place).isNone && before.get? place != some .directory then
      IO.FS.removeFile (written place)
  for (place, entry) in after.entries.reverse do
    if before.get? place != some entry then
      match entry with
      | .directory => IO.FS.createDirAll (written place)
      | .file content => IO.FS.writeBinFile (written place) ⟨content.toArray⟩
      | .database tables writeAhead =>
        IO.FS.writeBinFile (written place) ⟨(Store.Snapshot.encode tables writeAhead).toArray⟩

/-- The bytes of the input up to its end. -/
partial def readAll (input : IO.FS.Stream) (start : ByteArray := .empty) : IO ByteArray := do
  let block ← input.read 65536
  if block.isEmpty then return start
  readAll input (start ++ block)

def freshId : IO UserId := do
  let bytes ← IO.getRandomBytes 16
  if sized : bytes.data.size = 16 then return .ofRandom ⟨bytes.data, sized⟩
  throw (IO.userError "no random bytes")

def present : IO Time.Instant := do
  let nanos := (← Std.Time.Timestamp.now).toNanosecondsSinceUnixEpoch.val
  return (Time.Instant.ofUnix? (nanos / 1000000000) (nanos % 1000000000).toNat).getD default

def environment : IO Settings.Environment := do
  let found ← variableNames.mapM fun name => do
    return (← IO.getEnv name).map fun text => (name, Utf8.encode text)
  return ⟨found.filterMap id⟩

def run (words : List String) : IO UInt32 := do
  let start : Invocation := {
    words := words
    environment := ← environment
    toolbox := .scheme
    now := ← present
    freshId := ← freshId
    platform := platform }
  let input ← if readsInput start then readAll (← IO.getStdin) else pure .empty
  let disk ← loadAll start
  let (ending, after) := CommandLine.run { start with input := input.toList } { disk := disk }
  store disk after.disk
  IO.print ending.output
  unless ending.complaint.isEmpty do IO.eprintln ending.complaint
  return UInt32.ofNat ending.status

end RoleVault.Machine

/-- The administration tool. -/
def main (words : List String) : IO UInt32 :=
  RoleVault.Machine.run words
