import RoleVault.Text.Scan
import RoleVault.Vault.InProcess

/-!
Contract: the engine behind four command-line tools.

Owns:
- the commands that the engine starts, with their arguments in order;
- what the ways in which a tool can end mean to the vault;
- two kinds of tools to run it with: the trial scheme, and tools that follow a script.

Does not own: starting processes; a toolbox is a function of a command and the files.
-/

namespace RoleVault.Vault

open RoleVault.Files RoleVault.Text

structure ToolNames where
  setup : String
  encrypt : String
  keygen : String
  decrypt : String
deriving DecidableEq, Repr

def ToolNames.usual : ToolNames :=
  ⟨"cpabe-setup", "cpabe-enc", "cpabe-keygen", "cpabe-dec"⟩

structure Command where
  tool : String
  arguments : List String
deriving DecidableEq, Repr

namespace ToolNames

def setupCommand (tools : ToolNames) (keys : KeyPaths) : Command :=
  ⟨tools.setup, ["-p", keys.publicKey.text, "-m", keys.masterKey.text]⟩

def encryptCommand (tools : ToolNames) (publicKey input : Path) (policy : Policy) (output : Path) :
    Command :=
  ⟨tools.encrypt, ["-o", output.text, publicKey.text, input.text, policy.expression]⟩

def keygenCommand (tools : ToolNames) (keys : KeyPaths) (attributes : KeyAttributes)
    (output : Path) : Command :=
  ⟨tools.keygen, ["-o", output.text, keys.publicKey.text, keys.masterKey.text] ++ attributes.names⟩

def decryptCommand (tools : ToolNames) (publicKey privateKey input output : Path) : Command :=
  ⟨tools.decrypt, ["-o", output.text, publicKey.text, privateKey.text, input.text]⟩

end ToolNames

inductive ToolResult where
  | notInstalled
  | notStarted (error : DiskError)
  | exited (status : Nat) (complaint : List UInt8)
deriving DecidableEq, Repr

/-- The tools of a machine: what a command does to the files and how it ends. -/
abbrev Toolbox := Command → Disk → ToolResult × Disk

/-- The complaint of a tool as text, without blanks at its ends. -/
def complaintText (complaint : List UInt8) : String :=
  CharClass.trim (Utf8.decodeLossy complaint)

/-- What the end of a tool means where only success counts. -/
def ToolResult.checked (tool : String) : ToolResult → Except VaultError Unit
  | notInstalled => .error (.engineNotInstalled tool)
  | notStarted error => .error (.disk error)
  | exited 0 _ => .ok ()
  | exited _ complaint => .error (.commandFailed tool (complaintText complaint))

/-- What the end of the decrypting tool means: it fails when the key does not satisfy the policy. -/
def ToolResult.opened (tool : String) : ToolResult → Except VaultError Unit
  | notInstalled => .error (.engineNotInstalled tool)
  | notStarted error => .error (.disk error)
  | exited 0 _ => .ok ()
  | exited _ _ => .error .noPermission

/-- Starts a command, unless the system cannot be told its words. -/
def Toolbox.start (toolbox : Toolbox) (command : Command) (disk : Disk) : ToolResult × Disk :=
  if (command.tool :: command.arguments).any fun word => word.contains '\x00' then
    (.notStarted .nulInArgument, disk)
  else toolbox command disk

def Toolbox.call (toolbox : Toolbox) (meaning : String → ToolResult → Except VaultError Unit)
    (command : Command) : Call := fun workspace =>
  let (result, disk) := toolbox.start command workspace.disk
  (.ended (meaning command.tool result), { workspace with disk := disk })

def Engine.commandLine (tools : ToolNames) (toolbox : Toolbox) : Engine where
  name := "cpabe-cli"
  setup keys := toolbox.call ToolResult.checked (tools.setupCommand keys)
  encrypt publicKey input policy output :=
    toolbox.call ToolResult.checked (tools.encryptCommand publicKey input policy output)
  keygen keys attributes output :=
    toolbox.call ToolResult.checked (tools.keygenCommand keys attributes output)
  decrypt publicKey privateKey input output :=
    toolbox.call ToolResult.opened (tools.decryptCommand publicKey privateKey input output)

/-! ## Tools to run it with -/

/-- The end of a tool that does a call of the scheme: a failure is printed and ends with one. -/
def endOf : Except VaultError Unit → ToolResult
  | .ok () => .exited 0 []
  | .error error => .exited 1 (Utf8.encode error.message)

/-- What a command of the usual tools asks of the scheme; `none` if it cannot be read. -/
def schemeEffect? (command : Command) : Option Scheme.Effect :=
  let usual := ToolNames.usual
  match command.arguments with
  | ["-p", publicKey, "-m", masterKey] =>
    if command.tool = usual.setup then some (Scheme.setup ⟨⟨publicKey, []⟩, ⟨masterKey, []⟩⟩)
    else none
  | "-o" :: output :: publicKey :: third :: rest =>
    if command.tool = usual.keygen then
      some (Scheme.keygen ⟨⟨publicKey, []⟩, ⟨third, []⟩⟩ ⟨rest⟩ ⟨output, []⟩)
    else
      match rest with
      | [last] =>
        if command.tool = usual.encrypt then
          some (Scheme.encrypt ⟨publicKey, []⟩ ⟨third, []⟩ ⟨last⟩ ⟨output, []⟩)
        else if command.tool = usual.decrypt then
          some (Scheme.decrypt ⟨third, []⟩ ⟨last, []⟩ ⟨output, []⟩)
        else none
      | _ => none
  | _ => none

def ToolNames.isUsual (tool : String) : Bool :=
  let usual := ToolNames.usual
  [usual.setup, usual.encrypt, usual.keygen, usual.decrypt].contains tool

/-- The name of a tool that is there but must not be started. -/
def deniedTool : String := "cpabe-denied"

/-- The longest argument that a tool can be started with, in bytes. -/
def maxArgumentSize : Nat := 131071

/-- How starting ends of something that is none of the usual tools.  A name with a slash in it is a
path; files of the tree cannot be executed, and directories never can. -/
def startOther (tool : String) (disk : Disk) : ToolResult :=
  if tool.contains '/' then
    match disk.resolve ⟨tool, []⟩ with
    | .ok (.entry _ _) => .notStarted .permissionDenied
    | .ok (.vacant _ _) | .error .notFound => .notInstalled
    | .error error => .notStarted error
  else if [deniedTool, ".", ".."].contains tool then .notStarted .permissionDenied
  else if maxNameSize < tool.utf8ByteSize then .notStarted .nameTooLong
  else .notInstalled

/-- A machine on which the usual tools are installed and do what `act` says. -/
def installed (act : Command → Disk → ToolResult × Disk) : Toolbox := fun command disk =>
  if !ToolNames.isUsual command.tool then (startOther command.tool disk, disk)
  else if command.arguments.any fun word => maxArgumentSize < word.utf8ByteSize then
    (.notStarted .argumentTooLong, disk)
  else act command disk

def Toolbox.scheme : Toolbox :=
  installed fun command disk =>
    match schemeEffect? command with
    | none => (.exited 1 (Utf8.encode "unreadable arguments"), disk)
    | some effect =>
      let (result, disk) := effect disk
      (endOf result, disk)

/-- What a scripted tool does: it may write an empty output, complains, and ends. -/
structure Script where
  /-- The tool that follows the script; all do if none is named. -/
  tool : Option String := none
  status : Nat := 0
  complaint : List UInt8 := []
  emptyOutput : Bool := false
deriving DecidableEq, Repr

/-- The argument after `-o`. -/
def outputArgument? : List String → Option String
  | "-o" :: output :: _ => some output
  | _ :: rest => outputArgument? rest
  | [] => none

def Script.perform (script : Script) (command : Command) (disk : Disk) : ToolResult × Disk :=
  let written : Disk :=
    match script.emptyOutput, outputArgument? command.arguments with
    | true, some output => (disk.write ⟨output, []⟩ []).toOption.getD disk
    | _, _ => disk
  (.exited (script.status % 256) script.complaint, written)

/-- The usual tools, of which some follow a script and the others do the calls of the scheme. -/
def Toolbox.scripted (script : Script) : Toolbox :=
  installed fun command disk =>
    if script.tool.all (· == command.tool) then script.perform command disk
    else Toolbox.scheme command disk

end RoleVault.Vault
