import RoleVault.Files.Disk
import RoleVault.Settings.File
import RoleVault.Settings.Layer
import RoleVault.Text.Decimal

/-!
Contract: the settings of the service from all its sources.

Owns:
- the type `Environment` and how a variable is looked up;
- numbers, log formats and secrets in variables, a secret also from a file that a variable names, and
  the names of the variables, in `Environment.layer`;
- the file and the environment as layers, and `Settings.load`, which lays the environment over the
  file and both over the built-in values, by the precedence of the sources.

Does not own: the rules that settings have to meet (`RoleVault.Settings.Layer`), or what the file
says (`RoleVault.Settings.File`).

An empty variable counts as unset, except for secrets.  A variable that is not text counts as unset.
-/

namespace RoleVault.Settings

open RoleVault.Files RoleVault.Text

/-- The variables that a program is started with, as bytes. -/
structure Environment where
  entries : List (String × List UInt8) := []
deriving DecidableEq, Repr

namespace Environment

def text? (environment : Environment) (name : String) : Option String :=
  (environment.entries.lookup name).bind Utf8.decode?

def filled? (environment : Environment) (name : String) : Option String :=
  (environment.text? name).filter fun text => !text.isEmpty

/-- A natural number below two to the sixty-fourth, with an optional plus sign. -/
def parseCount? (text : String) : Option Nat := do
  let digits := match text.toList with
    | '+' :: rest => rest
    | chars => chars
  let value ← Decimal.toNat? digits
  if value < Decimal.wordLimit then some value else none

def count (environment : Environment) (name : String) : Except SettingsError (Option Nat) :=
  match environment.filled? name with
  | none => .ok none
  | some text =>
    match parseCount? text with
    | some value => .ok (some value)
    | none => .error (.invalidValue name s!"cannot parse '{text}' as u64")

end Environment

/-- The look of log lines with a name, in any case of its letters; an unknown name is given back in
small letters. -/
def LogFormat.parse (name : String) : Except String LogFormat :=
  let lower := String.ofList (name.toList.map Char.toLower)
  if lower = "pretty" ∨ lower = "text" then .ok .pretty
  else if lower = "json" then .ok .json
  else .error s!"unknown log format '{lower}'"

namespace Environment

def logFormat (environment : Environment) (name : String) :
    Except SettingsError (Option LogFormat) :=
  match environment.filled? name with
  | none => .ok none
  | some text =>
    match LogFormat.parse text with
    | .ok format => .ok (some format)
    | .error reason => .error (.invalidValue name reason)

/-- The text without one line feed at its end. -/
def dropNewline (text : String) : String :=
  let chars := text.toList
  if chars.getLast? = some '\n' then String.ofList chars.dropLast else text

def secretInFile (disk : Disk) (path : String) : Except SecretFault Secret :=
  match disk.read ⟨path, []⟩ with
  | .error _ => .error .unreadable
  | .ok content =>
    match Utf8.decode? content with
    | none => .error .unreadable
    | some text => .ok ⟨dropNewline text⟩

/-- The secret of a variable.  A variable of the same name with `_FILE` after it goes first and names
a file with the secret. -/
def secret (environment : Environment) (disk : Disk) (name : String) :
    Except SecretFault (Option Secret) :=
  let fileName := name ++ "_FILE"
  match environment.text? fileName with
  | some path =>
    if path.isEmpty then .error (.emptyPath fileName)
    else (secretInFile disk path).map some
  | none => .ok ((environment.text? name).map Secret.mk)

def path? (environment : Environment) (name : String) : Option Path :=
  (environment.filled? name).map fun text => ⟨text, []⟩

def databaseLayer (environment : Environment) : DatabaseLayer where
  url := environment.filled? "WARDEN_SERVER_DATABASE_URL"

def vaultLayer (environment : Environment) : Except SettingsError VaultLayer := do
  return {
    keyDirectory := environment.path? "WARDEN_SERVER_VAULT_KEY_DIR"
    scratchDirectory := environment.path? "WARDEN_SERVER_VAULT_SCRATCH_DIR"
    timeoutSeconds := ← environment.count "WARDEN_SERVER_VAULT_ENGINE_TIMEOUT_SECS"
    setupTool := environment.filled? "WARDEN_SERVER_CPABE_SETUP_BIN"
    encryptTool := environment.filled? "WARDEN_SERVER_CPABE_ENC_BIN"
    keygenTool := environment.filled? "WARDEN_SERVER_CPABE_KEYGEN_BIN"
    decryptTool := environment.filled? "WARDEN_SERVER_CPABE_DEC_BIN" }

def tokenLayer (environment : Environment) (disk : Disk) : Except SettingsError TokenLayer := do
  return {
    secret := ← (environment.secret disk "WARDEN_SERVER_TOKEN_SECRET").mapError .secret
    standardTtl := ← environment.count "WARDEN_SERVER_TOKEN_TTL_MINUTES"
    maximumTtl := ← environment.count "WARDEN_SERVER_TOKEN_MAX_TTL_MINUTES" }

def loggingLayer (environment : Environment) : Except SettingsError LoggingLayer := do
  return {
    format := ← environment.logFormat "WARDEN_SERVER_LOG_FORMAT"
    level := environment.filled? "WARDEN_SERVER_LOG_LEVEL" }

/-- The layer that the environment gives.  It has every section. -/
def layer (environment : Environment) (disk : Disk) : Except SettingsError Layer := do
  return {
    database := some environment.databaseLayer
    vault := some (← environment.vaultLayer)
    token := some (← environment.tokenLayer disk)
    logging := some (← environment.loggingLayer) }

end Environment

def systemFile : Path := ⟨"/etc/warden/server.toml", []⟩

/-- The layer that a file gives.  A file that does not exist gives an empty one. -/
def fileLayer (disk : Disk) (path : Path) : Except SettingsError Layer :=
  if !disk.exists? path then .ok {}
  else
    match disk.read path with
    | .error _ => .error .unreadableFile
    | .ok content =>
      match Utf8.decode? content with
      | none => .error .unreadableFile
      | some text =>
        match Layer.ofToml? text with
        | none => .error .malformedFile
        | some layer => .ok layer

def sourceLayer (environment : Environment) (disk : Disk) (file : Path) :
    Source → Except SettingsError Layer
  | .builtin => .ok {}
  | .file => fileLayer disk file
  | .environment => environment.layer disk

def loadFrom (environment : Environment) (disk : Disk) (file : Path) (sources : List Source) :
    Except SettingsError Settings := do
  let ordered := sources.mergeSort fun one other => one.precedence ≤ other.precedence
  let layers ← ordered.mapM (sourceLayer environment disk file)
  (Layer.stack layers).settle

def load (environment : Environment) (disk : Disk) (file : Path) : Except SettingsError Settings :=
  loadFrom environment disk file Source.all

end RoleVault.Settings
