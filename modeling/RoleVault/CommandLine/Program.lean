import RoleVault.Accounts.Action
import RoleVault.Accounts.Sessions
import RoleVault.CommandLine.Arguments
import RoleVault.CommandLine.Variables
import RoleVault.Settings.Layer
import RoleVault.Settings.Load
import RoleVault.Store.Catalog
import RoleVault.Store.Connection
import RoleVault.Vault.Tools

/-!
Contract: the administration tool.

Owns:
- how a failed command is reported: the headline, its causes, and their text;
- what each command does to the files, what it writes, and how it ends;
- the paths that a run reads (`footprint`), the variables that it looks up (`variableNames`), and
  whether it reads from the input (`readsInput`).

Does not own: the words of the command line (`RoleVault.CommandLine.Arguments`) or the operations on
accounts (`RoleVault.Accounts.Users` and its neighbours).

Commands that need the database open it and add what is missing of the builtin entries before they
read anything from the input.

One file may name another: the file of variables names a file with a secret, and the settings name
the database and the keys.  So the paths depend on the files that are known already, and looking at
all of them takes `footprintRounds` rounds.
-/

namespace RoleVault.CommandLine

/-- A failure with its causes, the nearest first.  A cause may have further ones in the words of the
system, which are left out. -/
structure Report where
  headline : String
  causes : List String := []
  leftOut : Bool := false
deriving DecidableEq, Repr

namespace Report

def indent (margin text : String) : String :=
  ("\n" ++ margin).intercalate (text.splitOn "\n")

def single (cause : String) : String :=
  "    " ++ indent "    " cause

def numbered (place : Nat) (cause : String) : String :=
  let number := toString place
  "".pushn ' ' (5 - number.length) ++ number ++ ": " ++ indent "       " cause

/-- The causes of a report, one below the other; a cause without others has no number. -/
def causeLines (report : Report) : List String :=
  match report.causes, report.leftOut with
  | [cause], false => [single cause]
  | causes, _ => causes.mapIdx numbered

def text (report : Report) : String :=
  let headline := "Error: " ++ report.headline
  if report.causes.isEmpty then headline
  else headline ++ "\n\nCaused by:\n" ++ "\n".intercalate report.causeLines

def ofSettings (error : SettingsError) : Report :=
  let headline := "failed to load configuration"
  match error with
  | .malformedFile | .unreadableFile | .secret .unreadable => ⟨headline, [error.message], true⟩
  | .secret fault => ⟨headline, [error.message, fault.message], false⟩
  | _ => ⟨headline, [error.message], false⟩

def ofVault (headline : String) (error : VaultError) : Report :=
  match error with
  | .disk inner => ⟨headline, [error.message, inner.message], false⟩
  | _ => ⟨headline, [error.message], false⟩

def ofStore (headline : String) (error : StoreError) : Report :=
  ⟨headline, [error.message], error == .database⟩

def ofAccounts (error : AccountsError) : Report :=
  ⟨error.message, [], false⟩

end Report

open RoleVault.Accounts (Action Context SessionPolicy)
open RoleVault.Files RoleVault.Text
open RoleVault.Settings (Environment)
open RoleVault.Vault (Engine KeyPaths ToolNames Toolbox Workspace)

def toolVersion : String := "0.1.0"

/-- What the tool is started with. -/
structure Invocation where
  words : List String
  environment : Environment := {}
  input : List UInt8 := []
  toolbox : Toolbox
  now : Time.Instant
  freshId : UserId
  /-- The kind of machine and of its system. -/
  platform : String

/-- How the tool ends: its status, what it writes, and what it complains about. -/
structure Ending where
  status : Nat
  output : String := ""
  complaint : String := ""
deriving DecidableEq, Repr

namespace Ending

def success (lines : List String) : Ending :=
  { status := 0, output := String.join (lines.map (· ++ "\n")) }

def failure (report : Report) : Ending :=
  { status := 1, complaint := report.text }

def ofOutcome : Except Report (List String) → Ending
  | .ok lines => success lines
  | .error report => failure report

end Ending

/-! ## Input -/

/-- The bytes up to and with the first line feed, and those after it. -/
def firstLine (input : List UInt8) : List UInt8 × List UInt8 :=
  let line := input.takeWhile (· != 0x0A)
  match input.dropWhile (· != 0x0A) with
  | [] => (line, [])
  | feed :: rest => (line ++ [feed], rest)

/-- The secret on the first line of the input, without the end of the line, and what is left of the
input.  Blanks belong to the secret. -/
def readSecret (input : List UInt8) : Except Report (Secret × List UInt8) :=
  let (line, rest) := firstLine input
  match Utf8.decode? line with
  | none => .error ⟨"failed to read from stdin", ["stream did not contain valid UTF-8"], false⟩
  | some text =>
    let chars := (text.toList.reverse.dropWhile fun char => char == '\n' || char == '\r').reverse
    if chars.isEmpty then .error ⟨"expected a value on stdin", [], false⟩
    else .ok (⟨String.ofList chars⟩, rest)

def Invocation.secret (invocation : Invocation) : Except Report Secret :=
  (readSecret invocation.input).map Prod.fst

/-! ## Parts -/

def versionLines (platform : String) : List String :=
  ["warden-server version: " ++ toolVersion, "Platform:              " ++ platform]

def vaultOf (settings : Settings) (toolbox : Toolbox) : Vault where
  engine := Engine.commandLine
    ⟨settings.vault.setupTool, settings.vault.encryptTool, settings.vault.keygenTool,
      settings.vault.decryptTool⟩ toolbox
  keys := .inDirectory settings.vault.keyDirectory
  scratchRoot := settings.vault.scratchDirectory
  timeout := settings.timeoutMilliseconds

def sessionPolicy (settings : Settings) : Except Report SessionPolicy :=
  match settings.token.secret with
  | none => .error ⟨"WARDEN_SERVER_TOKEN_SECRET is not configured", [], false⟩
  | some secret =>
    match Session.SigningKey.ofSecret secret with
    | .error error => .error ⟨"invalid token signing secret", [error.message], false⟩
    | .ok key => .ok ⟨key, settings.token.standardTtl, settings.token.maximumTtl⟩

def settingsLines (settings : Settings) (keys : Vault.KeyStatus) : List String :=
  let presence (present : Bool) : String := if present then "present" else "missing"
  let format := match settings.logFormat with
    | .pretty => "Pretty"
    | .json => "Json"
  ["database:        " ++ settings.databaseUrl,
    "key dir:         " ++ settings.vault.keyDirectory.text,
    "  public key:    " ++ presence keys.publicKey,
    "  master key:    " ++ presence keys.masterKey,
    "scratch dir:     " ++ settings.vault.scratchDirectory.text,
    s!"engine timeout:  {settings.vault.timeoutSeconds}s",
    s!"token ttl:       {settings.token.standardTtl} min (max {settings.token.maximumTtl} min)",
    "signing secret:  " ++ (if settings.token.secret.isSome then "configured" else "missing"),
    s!"log level:       {settings.logLevel} ({format})"]

/-! ## Commands with accounts -/

/-- A part of a command on accounts; it ends with a report where it fails. -/
abbrev Task (α : Type) := ExceptT Report (StateM Accounts.State) α

def Task.perform {α : Type} (action : Action α) : Task α :=
  ExceptT.mk fun state =>
    let (outcome, after) := action.run state
    (outcome.mapError Report.ofAccounts, after)

/-- A part of a command that touches neither database nor files. -/
def Task.check {α : Type} (outcome : Except Report α) : Task α :=
  ExceptT.mk fun state => (outcome, state)

/-- What a command does with accounts, and the lines that it writes. -/
def accountsTask (invocation : Invocation) (settings : Settings) (context : Context) :
    Command → Task (List String)
  | .migrate => return ["database is up to date"]
  | .addOperator name displayName => do
    let password ← Task.check invocation.secret
    let profile ← Task.perform (Accounts.Users.createOperator context
      { name := name, password := password, displayName := displayName })
    return [s!"created {profile.name} ({profile.id})"]
  | .sealUser name => do
    Task.perform (Accounts.Users.sealNamed context name)
    return ["sealed password of " ++ name]
  | .sealAll => do
    let report ← Task.perform (Accounts.Users.sealAll context)
    return s!"sealed {report.sealed}, already sealed {report.alreadySealed}, failed {report.failed.length}"
      :: report.failed.map fun (name, reason) => s!"  {name}: {reason}"
  | .login name minutes => do
    let policy ← Task.check (sessionPolicy settings)
    let password ← Task.check invocation.secret
    let issued ← Task.perform (policy.login context name password minutes)
    return [issued.token]
  | .whoami => do
    let policy ← Task.check (sessionPolicy settings)
    let token ← Task.check invocation.secret
    let identity ← Task.check
      ((policy.resolve context.now token.expose).mapError Report.ofAccounts)
    return [identity.encode]
  | .version | .setup _ | .checkConfig => return []

/-- Runs a task on the database that the settings name, after adding what is missing of the builtin
entries.  The tables are kept however the task ends. -/
def withAccounts (invocation : Invocation) (settings : Settings) (command : Command)
    (workspace : Workspace) : Ending × Workspace :=
  let (connected, disk) := Store.Connection.openNamed settings.databaseUrl workspace.disk
  let opened : Workspace := { workspace with disk := disk }
  match connected with
  | .error error =>
    (.failure (.ofStore ("failed to open database " ++ settings.databaseUrl) error), opened)
  | .ok connection =>
    let (migrated, database) := connection.migrate invocation.now
    let keep (database : Database) (workspace : Workspace) : Workspace :=
      match database with
      | .closed => workspace
      | .opened tables => { workspace with disk := connection.keep tables workspace.disk }
    match migrated with
    | .error error => (.failure (.ofStore "failed to run migrations" error), keep database opened)
    | .ok () =>
      let context : Context :=
        ⟨vaultOf settings invocation.toolbox, invocation.now, invocation.freshId⟩
      let task := accountsTask invocation settings context command
      let (outcome, after) := task.run ⟨database, opened⟩
      (.ofOutcome outcome, keep after.database after.workspace)

/-! ## The tool -/

/-- The names that a file with further environment variables may have: it stands where the program
runs or in a directory above. -/
def variablesFiles (disk : Disk) : List Path :=
  let counts := (List.range (disk.home.length + 1)).reverse
  counts.map fun count => (Path.ofComponents true (disk.home.take count)).child ".env"

def variablesFile? (disk : Disk) : Option Path :=
  (variablesFiles disk).find? disk.isFile

def fullEnvironment (environment : Environment) (disk : Disk) : Environment :=
  match variablesFile? disk with
  | some file =>
    match disk.read file with
    | .ok content => Variables.load environment content
    | .error _ => environment
  | none => environment

def settingsFor (invocation : Invocation) (config : Option String) (disk : Disk) :
    Except SettingsError Settings :=
  let file : Path := (config.map fun text => ⟨text, []⟩).getD Settings.systemFile
  Settings.load (fullEnvironment invocation.environment disk) disk file

def perform (invocation : Invocation) (settings : Settings) (command : Command)
    (workspace : Workspace) : Ending × Workspace :=
  let vault := vaultOf settings invocation.toolbox
  match command with
  | .checkConfig =>
    (.success (settingsLines settings (vault.keyStatus workspace.disk)), workspace)
  | .setup force =>
    let (outcome, after) := (vault.setup force).run.run workspace
    match outcome with
    | .ok () => (.success ["keys written to " ++ settings.vault.keyDirectory.text], after)
    | .error error => (.failure (.ofVault "engine setup failed" error), after)
  | _ => withAccounts invocation settings command workspace

def helpLines : List String :=
  "Usage: warden-server [--config FILE] COMMAND" :: "" :: "Commands:" ::
    shapes.map fun shape => "  " ++ shape.name

def run (invocation : Invocation) (workspace : Workspace) : Ending × Workspace :=
  match Arguments.parse invocation.environment invocation.words with
  | .error .help => (.success helpLines, workspace)
  | .error .version => (.success ["warden-server " ++ toolVersion], workspace)
  | .error .misuse => ({ status := 2 }, workspace)
  | .ok { command := .version, .. } => (.success (versionLines invocation.platform), workspace)
  | .ok { config, command } =>
    match settingsFor invocation config workspace.disk with
    | .error error => (.failure (.ofSettings error), workspace)
    | .ok settings => perform invocation settings command workspace

open RoleVault.Files
open RoleVault.Vault (KeyPaths)

/-- The variables that a run looks up. -/
def variableNames : List String := [
  configVariable,
  "WARDEN_SERVER_DATABASE_URL",
  "WARDEN_SERVER_VAULT_KEY_DIR",
  "WARDEN_SERVER_VAULT_SCRATCH_DIR",
  "WARDEN_SERVER_VAULT_ENGINE_TIMEOUT_SECS",
  "WARDEN_SERVER_CPABE_SETUP_BIN",
  "WARDEN_SERVER_CPABE_ENC_BIN",
  "WARDEN_SERVER_CPABE_KEYGEN_BIN",
  "WARDEN_SERVER_CPABE_DEC_BIN",
  "WARDEN_SERVER_TOKEN_SECRET",
  "WARDEN_SERVER_TOKEN_SECRET_FILE",
  "WARDEN_SERVER_TOKEN_TTL_MINUTES",
  "WARDEN_SERVER_TOKEN_MAX_TTL_MINUTES",
  "WARDEN_SERVER_LOG_LEVEL",
  "WARDEN_SERVER_LOG_FORMAT"]

def settingsPaths (invocation : Invocation) (config : Option String) (disk : Disk) : List Path :=
  let environment := fullEnvironment invocation.environment disk
  let configFile : Path := (config.map fun text => ⟨text, []⟩).getD Settings.systemFile
  let secretFile := (environment.text? "WARDEN_SERVER_TOKEN_SECRET_FILE").toList
  variablesFiles disk ++ configFile :: secretFile.map fun text => ⟨text, []⟩

def dataPaths (settings : Settings) : List Path :=
  let keys := KeyPaths.inDirectory settings.vault.keyDirectory
  let database := (Store.Address.parse? settings.databaseUrl).bind Store.FileName.ofAddress?
  let databaseFile := (database.filter Store.FileName.isFile).map fun file => file.name
  databaseFile.toList.map (fun name => ⟨name, []⟩) ++
    [keys.publicKey, keys.masterKey, settings.vault.scratchDirectory]

/-- The paths that a run looks at, as far as the files that are known tell. -/
def footprint (invocation : Invocation) (disk : Disk) : List Path :=
  match Arguments.parse invocation.environment invocation.words with
  | .error _ => []
  | .ok { command := .version, .. } => []
  | .ok { config, .. } =>
    let leading := settingsPaths invocation config disk
    match settingsFor invocation config disk with
    | .error _ => leading
    | .ok settings => leading ++ dataPaths settings

/-- After the first round the file of variables is known, after the second the secret and the file
of settings that all data are named by. -/
def footprintRounds : Nat := 3

def Command.readsInput : Command → Bool
  | addOperator _ _ | login _ _ | whoami => true
  | version | migrate | setup _ | sealUser _ | sealAll | checkConfig => false

def readsInput (invocation : Invocation) : Bool :=
  match Arguments.parse invocation.environment invocation.words with
  | .ok { command, .. } => command.readsInput
  | .error _ => false

end RoleVault.CommandLine
