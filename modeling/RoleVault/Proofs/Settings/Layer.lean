import Mathlib.Data.List.Induction
import RoleVault.Settings.Layer

/-!
Contract: layers of settings, setting by setting.

Owns:
- `Setting`, one setting other than the secret by the type of its values, with its place in a layer
  and in the finished settings;
- `IsField`, the parts of a layer that layering treats as settings;
- that layers make a monoid, and that each setting of many layers is the one of the last that has it.

Does not own: where layers come from (`RoleVault.Proofs.Settings.Precedence`).
-/

namespace RoleVault.Settings

open RoleVault.Files

/-- A setting other than the secret. -/
inductive Setting : Type → Type where
  | databaseUrl : Setting String
  | keyDirectory : Setting Path
  | scratchDirectory : Setting Path
  | timeoutSeconds : Setting Nat
  | setupTool : Setting String
  | encryptTool : Setting String
  | keygenTool : Setting String
  | decryptTool : Setting String
  | standardTtl : Setting Nat
  | maximumTtl : Setting Nat
  | logLevel : Setting String
  | logFormat : Setting LogFormat

variable {α : Type}

namespace Setting

/-- What a layer says of a setting. -/
def inLayer : Setting α → Layer → Option α
  | databaseUrl, layer => layer.database.bind DatabaseLayer.url
  | keyDirectory, layer => layer.vault.bind VaultLayer.keyDirectory
  | scratchDirectory, layer => layer.vault.bind VaultLayer.scratchDirectory
  | timeoutSeconds, layer => layer.vault.bind VaultLayer.timeoutSeconds
  | setupTool, layer => layer.vault.bind VaultLayer.setupTool
  | encryptTool, layer => layer.vault.bind VaultLayer.encryptTool
  | keygenTool, layer => layer.vault.bind VaultLayer.keygenTool
  | decryptTool, layer => layer.vault.bind VaultLayer.decryptTool
  | standardTtl, layer => layer.token.bind TokenLayer.standardTtl
  | maximumTtl, layer => layer.token.bind TokenLayer.maximumTtl
  | logLevel, layer => layer.logging.bind LoggingLayer.level
  | logFormat, layer => layer.logging.bind LoggingLayer.format

/-- The value that the service runs with. -/
def inSettings : Setting α → Settings → α
  | databaseUrl, settings => settings.databaseUrl
  | keyDirectory, settings => settings.vault.keyDirectory
  | scratchDirectory, settings => settings.vault.scratchDirectory
  | timeoutSeconds, settings => settings.vault.timeoutSeconds
  | setupTool, settings => settings.vault.setupTool
  | encryptTool, settings => settings.vault.encryptTool
  | keygenTool, settings => settings.vault.keygenTool
  | decryptTool, settings => settings.vault.decryptTool
  | standardTtl, settings => settings.token.standardTtl
  | maximumTtl, settings => settings.token.maximumTtl
  | logLevel, settings => settings.logLevel
  | logFormat, settings => settings.logFormat

/-- The value where nothing is said: a fixed one, but for scratch directories, which go below the
keys wherever those are. -/
def builtin : Setting α → Settings → α
  | databaseUrl, _ => "sqlite:./warden.db"
  | keyDirectory, _ => ⟨"/var/lib/warden/abe", []⟩
  | scratchDirectory, settings => settings.vault.keyDirectory.child "scratch"
  | timeoutSeconds, _ => 30
  | setupTool, _ => "cpabe-setup"
  | encryptTool, _ => "cpabe-enc"
  | keygenTool, _ => "cpabe-keygen"
  | decryptTool, _ => "cpabe-dec"
  | standardTtl, _ => 30
  | maximumTtl, _ => 1440
  | logLevel, _ => "info,sqlx=warn"
  | logFormat, _ => .pretty

end Setting

/-- What a layer says of the secret. -/
def Layer.secret? (layer : Layer) : Option Secret :=
  layer.token.bind TokenLayer.secret

/-! ## Parts of a layer -/

structure IsField (get : Layer → Option α) : Prop where
  empty : get {} = none
  onto : ∀ upper lower, get (upper.onto lower) = (get upper).or (get lower)

/-- A part of a section, where sections go by their parts. -/
theorem bind_merge {β : Type} {merge : β → β → β} {get : β → Option α}
    (parts : ∀ upper lower, get (merge upper lower) = (get upper).or (get lower))
    (upper lower : Option β) :
    (upper.merge merge lower).bind get = (upper.bind get).or (lower.bind get) := by
  cases upper with
  | none => cases lower <;> rfl
  | some upper =>
    cases lower with
    | none => simp [Option.merge]
    | some lower => exact parts upper lower

theorem Setting.isField (setting : Setting α) : IsField setting.inLayer where
  empty := by cases setting <;> rfl
  onto upper lower := by cases setting <;> exact bind_merge (fun _ _ => rfl) _ _

theorem isField_secret : IsField Layer.secret? where
  empty := rfl
  onto _ _ := bind_merge (fun _ _ => rfl) _ _

/-- Of many layers, the last that has a part gives it. -/
theorem IsField.stack {get : Layer → Option α} (field : IsField get) (layers : List Layer) :
    get (Layer.stack layers) = layers.reverse.findSome? get := by
  -- From the last layer on, for that is the one that all others are below.
  induction layers using List.reverseRecOn with
  | nil => exact field.empty
  | append_singleton layers last inductionHypothesis =>
    have peeled : Layer.stack (layers ++ [last]) = last.onto (Layer.stack layers) :=
      List.foldl_append
    rw [peeled, field.onto, inductionHypothesis, List.reverse_append, List.reverse_singleton,
      List.singleton_append, List.findSome?_cons]
    cases get last <;> rfl

/-! ## The monoid of layers -/

/-- Three layers may be put together from either end. -/
theorem DatabaseLayer.onto_assoc (one two three : DatabaseLayer) :
    (one.onto two).onto three = one.onto (two.onto three) := by
  simp only [onto, Option.or_assoc]

theorem VaultLayer.onto_assoc (one two three : VaultLayer) :
    (one.onto two).onto three = one.onto (two.onto three) := by
  simp only [onto, Option.or_assoc]

theorem TokenLayer.onto_assoc (one two three : TokenLayer) :
    (one.onto two).onto three = one.onto (two.onto three) := by
  simp only [onto, Option.or_assoc]

theorem LoggingLayer.onto_assoc (one two three : LoggingLayer) :
    (one.onto two).onto three = one.onto (two.onto three) := by
  simp only [onto, Option.or_assoc]

private theorem merge_assoc {β : Type} {merge : β → β → β}
    (assoc : ∀ one two three, merge (merge one two) three = merge one (merge two three))
    (one two three : Option β) :
    (one.merge merge two).merge merge three = one.merge merge (two.merge merge three) := by
  cases one <;> cases two <;> cases three <;> simp [Option.merge, assoc]

/-- The same holds of layers as a whole. -/
theorem Layer.onto_assoc (one two three : Layer) :
    (one.onto two).onto three = one.onto (two.onto three) := by
  simp only [onto, merge_assoc DatabaseLayer.onto_assoc, merge_assoc VaultLayer.onto_assoc,
    merge_assoc TokenLayer.onto_assoc, merge_assoc LoggingLayer.onto_assoc]

/-- An empty layer below changes nothing. -/
theorem Layer.onto_empty (layer : Layer) : layer.onto {} = layer := by
  simp [onto]

/-- An empty layer on top changes nothing. -/
theorem Layer.empty_onto (layer : Layer) : Layer.onto {} layer = layer := by
  simp [onto]

/-! ## Finished settings -/

/-- A section that is not there leaves all its settings open. -/
theorem get_getD {β : Type} {get : β → Option α} {empty : β} (opens : get empty = none)
    (part : Option β) : get (part.getD empty) = part.bind get := by
  cases part with
  | none => exact opens
  | some part => rfl

/-- A setting is what the layer says of it, and otherwise the builtin value. -/
theorem Setting.inSettings_fill (setting : Setting α) (layer : Layer) :
    setting.inSettings layer.fill = (setting.inLayer layer).getD (setting.builtin layer.fill) := by
  cases setting <;> exact congrArg (Option.getD · _) (get_getD rfl _)

theorem secret_fill (layer : Layer) : layer.fill.token.secret = layer.secret? := by
  show (layer.token.getD {}).secret = layer.token.bind TokenLayer.secret
  exact get_getD rfl _

end RoleVault.Settings
