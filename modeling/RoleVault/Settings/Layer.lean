import RoleVault.Files.Disk
import RoleVault.Secret

/-!
Contract: the settings of the service and how they are put together from layers.

Owns:
- what can be wrong with settings, and the wording of it;
- layers, in which every setting may be left open, `Layer.onto`, which lays one over another, and
  `Layer.stack`, which does so with many;
- the built-in values of the settings that every layer leaves open;
- the rules that the finished settings have to meet, in `Layer.settle`.

Does not own: the sources of layers (`RoleVault.Settings.File`, `RoleVault.Settings.Load`).
-/

namespace RoleVault

namespace Settings

inductive SecretFault where
  /-- The file that should hold it cannot be read as text. -/
  | unreadable
  | emptyPath (variableName : String)
deriving DecidableEq, Repr

/-- The wording of a fault; paths and the words of the system are left out. -/
def SecretFault.message : SecretFault → String
  | unreadable => "failed to read secret file at ..."
  | emptyPath variableName => s!"secret file path in {variableName} is empty"

/-- The most minutes that a session may be allowed to last: a leap year. -/
def ttlCeiling : Nat := 366 * 24 * 60

def minSecretBytes : Nat := 32

inductive Inconsistency where
  | noTimeout
  | noTtl
  | ttlAboveMaximum (standard maximum : Nat)
  | maximumAboveCeiling (maximum : Nat)
  | shortSecret
deriving DecidableEq, Repr

def Inconsistency.message : Inconsistency → String
  | noTimeout => "WARDEN_SERVER_VAULT_ENGINE_TIMEOUT_SECS must be greater than zero"
  | noTtl => "WARDEN_SERVER_TOKEN_TTL_MINUTES must be greater than zero"
  | ttlAboveMaximum standard maximum =>
    s!"default token TTL ({standard} min) exceeds the maximum ({maximum} min)"
  | maximumAboveCeiling maximum =>
    s!"maximum token TTL ({maximum} min) exceeds the ceiling ({ttlCeiling} min)"
  | shortSecret => s!"WARDEN_SERVER_TOKEN_SECRET must be at least {minSecretBytes} bytes"

end Settings

inductive SettingsError where
  | invalidValue (key reason : String)
  | malformedFile
  | unreadableFile
  | inconsistent (inconsistency : Settings.Inconsistency)
  | secret (fault : Settings.SecretFault)
deriving DecidableEq, Repr

/-- The wording of a fault; paths and the words of the system are left out. -/
def SettingsError.message : SettingsError → String
  | invalidValue key reason => s!"Invalid value for {key}: {reason}"
  | malformedFile => "Failed to parse TOML config at ..."
  | unreadableFile => "Failed to read config file ..."
  | inconsistent inconsistency => "Validation error: " ++ inconsistency.message
  | secret fault => "Secret loading error: " ++ fault.message

open RoleVault.Files RoleVault.Text

namespace Settings

inductive LogFormat where
  | pretty
  | json
deriving DecidableEq, Repr

/-! ## Layers -/

structure DatabaseLayer where
  url : Option String := none
deriving DecidableEq, Repr

structure VaultLayer where
  keyDirectory : Option Path := none
  scratchDirectory : Option Path := none
  timeoutSeconds : Option Nat := none
  setupTool : Option String := none
  encryptTool : Option String := none
  keygenTool : Option String := none
  decryptTool : Option String := none
deriving DecidableEq, Repr

structure TokenLayer where
  secret : Option Secret := none
  standardTtl : Option Nat := none
  maximumTtl : Option Nat := none
deriving DecidableEq, Repr

structure LoggingLayer where
  level : Option String := none
  format : Option LogFormat := none
deriving DecidableEq, Repr

/-- What one source says about the settings.  A section that it does not have says nothing. -/
structure Layer where
  database : Option DatabaseLayer := none
  vault : Option VaultLayer := none
  token : Option TokenLayer := none
  logging : Option LoggingLayer := none
deriving DecidableEq, Repr

/-! ## Layers over layers

Each setting comes from the upper section that has it. -/

def DatabaseLayer.onto (upper lower : DatabaseLayer) : DatabaseLayer where
  url := upper.url.or lower.url

def VaultLayer.onto (upper lower : VaultLayer) : VaultLayer where
  keyDirectory := upper.keyDirectory.or lower.keyDirectory
  scratchDirectory := upper.scratchDirectory.or lower.scratchDirectory
  timeoutSeconds := upper.timeoutSeconds.or lower.timeoutSeconds
  setupTool := upper.setupTool.or lower.setupTool
  encryptTool := upper.encryptTool.or lower.encryptTool
  keygenTool := upper.keygenTool.or lower.keygenTool
  decryptTool := upper.decryptTool.or lower.decryptTool

def TokenLayer.onto (upper lower : TokenLayer) : TokenLayer where
  secret := upper.secret.or lower.secret
  standardTtl := upper.standardTtl.or lower.standardTtl
  maximumTtl := upper.maximumTtl.or lower.maximumTtl

def LoggingLayer.onto (upper lower : LoggingLayer) : LoggingLayer where
  level := upper.level.or lower.level
  format := upper.format.or lower.format

/-- One layer laid over another, section by section.  A section that only one of them has stays as it
is. -/
def Layer.onto (upper lower : Layer) : Layer where
  database := upper.database.merge DatabaseLayer.onto lower.database
  vault := upper.vault.merge VaultLayer.onto lower.vault
  token := upper.token.merge TokenLayer.onto lower.token
  logging := upper.logging.merge LoggingLayer.onto lower.logging

/-- Some layers in one, each laid over those before it. -/
def Layer.stack (layers : List Layer) : Layer :=
  layers.foldl (fun lower upper => upper.onto lower) {}

/-- The kinds of sources, with the place of each in the order: a higher one is laid over a lower. -/
inductive Source where
  | builtin
  | file
  | environment
deriving DecidableEq, Repr

/-- All kinds of sources, lowest first. -/
def Source.all : List Source := [.builtin, .file, .environment]

def Source.name : Source → String
  | builtin => "defaults"
  | file => "toml-config"
  | environment => "environment"

/-- The place of a kind of source in the order. -/
def Source.precedence : Source → Nat
  | builtin => 10
  | file => 20
  | environment => 50

/-! ## Finished settings -/

structure VaultSettings where
  keyDirectory : Path
  scratchDirectory : Path
  timeoutSeconds : Nat
  setupTool : String
  encryptTool : String
  keygenTool : String
  decryptTool : String
deriving DecidableEq, Repr

/-- The secret may be missing, since not every use of the service signs tokens. -/
structure TokenSettings where
  secret : Option Secret
  standardTtl : Nat
  maximumTtl : Nat
deriving DecidableEq, Repr

end Settings

structure Settings where
  databaseUrl : String
  vault : Settings.VaultSettings
  token : Settings.TokenSettings
  logLevel : String
  logFormat : Settings.LogFormat
deriving DecidableEq, Repr

namespace Settings

/-- The settings of a section, with the built-in value of each that it leaves open.  Scratch
directories go below the keys where nothing else is said. -/
def VaultLayer.fill (layer : VaultLayer) : VaultSettings :=
  let keyDirectory := layer.keyDirectory.getD ⟨"/var/lib/warden/abe", []⟩
  { keyDirectory := keyDirectory
    scratchDirectory := layer.scratchDirectory.getD (keyDirectory.child "scratch")
    timeoutSeconds := layer.timeoutSeconds.getD 30
    setupTool := layer.setupTool.getD "cpabe-setup"
    encryptTool := layer.encryptTool.getD "cpabe-enc"
    keygenTool := layer.keygenTool.getD "cpabe-keygen"
    decryptTool := layer.decryptTool.getD "cpabe-dec" }

def TokenLayer.fill (layer : TokenLayer) : TokenSettings where
  secret := layer.secret
  standardTtl := layer.standardTtl.getD 30
  maximumTtl := layer.maximumTtl.getD (24 * 60)

/-- The settings of a layer, with those of an empty section for each that it does not have. -/
def Layer.fill (layer : Layer) : Settings where
  databaseUrl := (layer.database.getD {}).url.getD "sqlite:./warden.db"
  vault := (layer.vault.getD {}).fill
  token := (layer.token.getD {}).fill
  logLevel := (layer.logging.getD {}).level.getD "info,sqlx=warn"
  logFormat := (layer.logging.getD {}).format.getD .pretty

/-- The first rule that the settings break, if they break one. -/
def inconsistency? (settings : Settings) : Option Inconsistency :=
  let token := settings.token
  if settings.vault.timeoutSeconds = 0 then some .noTimeout
  else if token.standardTtl = 0 then some .noTtl
  else if token.standardTtl > token.maximumTtl then
    some (.ttlAboveMaximum token.standardTtl token.maximumTtl)
  else if token.maximumTtl > ttlCeiling then some (.maximumAboveCeiling token.maximumTtl)
  else
    match token.secret with
    | some secret =>
      if (Utf8.encode secret.expose).length < minSecretBytes then some .shortSecret else none
    | none => none

/-- The finished settings of a layer, if they meet the rules. -/
def Layer.settle (layer : Layer) : Except SettingsError Settings :=
  let settings := layer.fill
  match settings.inconsistency? with
  | some inconsistency => .error (.inconsistent inconsistency)
  | none => .ok settings

def timeoutMilliseconds (settings : Settings) : Nat :=
  settings.vault.timeoutSeconds * 1000

end Settings

end RoleVault
