import RoleVault.Settings.Layer
import RoleVault.Toml.Reader

/-!
Contract: the settings that a TOML document gives.

Owns: the reading of each setting from a value, and `Layer.ofToml?`.

Does not own: the file (`RoleVault.Settings.Load`).

A section is a table of its settings, of which unknown ones are passed over, or an array of them in
their order.  A date in the place of a section says nothing.
-/

namespace RoleVault.Settings

open RoleVault.Toml

inductive SectionContent where
  | named (members : List (String × Value))
  | placed (items : List Value)

namespace SectionContent

/-- What a value in the place of a section holds; most kinds of value cannot stand there. -/
def ofValue? : Value → Option SectionContent
  | .table _ members => some (named members)
  | .array items => some (placed items)
  | .rows tables => some (placed tables)
  | .moment => some (named [])
  | _ => none

def find? (place : Nat) (name : String) : SectionContent → Option Value
  | named members => members.lookup name
  | placed items => items[place]?

/-- Reads an optional setting; a value of a wrong kind spoils the whole document. -/
def setting {α : Type} (content : SectionContent) (place : Nat) (name : String)
    (read : Value → Option α) : Option (Option α) :=
  match content.find? place name with
  | none => some none
  | some value => (read value).map some

end SectionContent

def textValue : Value → Option String
  | .text content => some content
  | _ => none

def pathValue (value : Value) : Option Files.Path :=
  (textValue value).map fun text => ⟨text, []⟩

/-- A number that is not negative. -/
def countValue : Value → Option Nat
  | .integer value => if 0 ≤ value then some value.toNat else none
  | _ => none

def isEmptyValue : Value → Bool
  | .array items => items.isEmpty
  | .table _ members => members.isEmpty
  | _ => false

/-- The look of log lines that a name stands for in a file. -/
def formatNamed : String → Option LogFormat
  | "pretty" => some .pretty
  | "json" => some .json
  | _ => none

/-- The look of log lines, by its name or as a table with nothing under that name. -/
def formatValue : Value → Option LogFormat
  | .text content => formatNamed content
  | .table _ [(name, value)] => if isEmptyValue value then formatNamed name else none
  | _ => none

def DatabaseLayer.ofContent? (content : SectionContent) : Option DatabaseLayer := do
  return { url := ← content.setting 0 "url" textValue }

def VaultLayer.ofContent? (content : SectionContent) : Option VaultLayer := do
  return {
    keyDirectory := ← content.setting 0 "key_dir" pathValue
    scratchDirectory := ← content.setting 1 "scratch_dir" pathValue
    timeoutSeconds := ← content.setting 2 "engine_timeout_secs" countValue
    setupTool := ← content.setting 3 "setup_bin" textValue
    encryptTool := ← content.setting 4 "encrypt_bin" textValue
    keygenTool := ← content.setting 5 "keygen_bin" textValue
    decryptTool := ← content.setting 6 "decrypt_bin" textValue }

def TokenLayer.ofContent? (content : SectionContent) : Option TokenLayer := do
  return {
    secret := (← content.setting 0 "signing_secret" textValue).map Secret.mk
    standardTtl := ← content.setting 1 "default_ttl_minutes" countValue
    maximumTtl := ← content.setting 2 "max_ttl_minutes" countValue }

def LoggingLayer.ofContent? (content : SectionContent) : Option LoggingLayer := do
  return {
    level := ← content.setting 0 "level" textValue
    format := ← content.setting 1 "format" formatValue }

def section? {α : Type} (document : Document) (name : String) (read : SectionContent → Option α) :
    Option (Option α) :=
  match document.root.member? name with
  | none => some none
  | some value => do return some (← read (← SectionContent.ofValue? value))

def Layer.ofDocument? (document : Document) : Option Layer := do
  return {
    database := ← section? document "database" DatabaseLayer.ofContent?
    vault := ← section? document "vault" VaultLayer.ofContent?
    token := ← section? document "token" TokenLayer.ofContent?
    logging := ← section? document "logging" LoggingLayer.ofContent? }

/-- The layer that the text of a file gives, if it is well formed. -/
def Layer.ofToml? (text : String) : Option Layer := do
  Layer.ofDocument? (← Document.parse? text)

end RoleVault.Settings
