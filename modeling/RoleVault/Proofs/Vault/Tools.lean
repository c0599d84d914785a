import RoleVault.Proofs.Files.Path
import RoleVault.Proofs.Vault.Scheme
import RoleVault.Vault.Tools

/-!
Contract: tools that do what the trial scheme does, and what their ends mean.

Owns:
- `Documented`, the commands of the four tools with their arguments in order, and the effect of the
  scheme that each asks for;
- `Emulates`, a toolbox whose tools have these effects, and that `Toolbox.scheme` is one;
- `Told`, outcomes that are told apart by some failures at most, and `Complains`, how the failure of
  a file becomes the complaint of a tool;
- what a call of the engine behind such tools ends with.

Does not own: how the vault uses an engine (`RoleVault.Proofs.Vault.Refinement`).
-/

namespace RoleVault.Vault

open RoleVault.Files RoleVault.Files.Disk RoleVault.Text

variable {tools : ToolNames} {toolbox : Toolbox} {command : Command} {effect : Scheme.Effect}

/-- What the tools are asked for by their commands, in which files are named by the texts of their
paths. -/
inductive Documented (tools : ToolNames) : Command → Scheme.Effect → Prop where
  | setup (publicKey masterKey : String) :
    Documented tools ⟨tools.setup, ["-p", publicKey, "-m", masterKey]⟩
      (Scheme.setup ⟨⟨publicKey, []⟩, ⟨masterKey, []⟩⟩)
  | encrypt (output publicKey input policy : String) :
    Documented tools ⟨tools.encrypt, ["-o", output, publicKey, input, policy]⟩
      (Scheme.encrypt ⟨publicKey, []⟩ ⟨input, []⟩ ⟨policy⟩ ⟨output, []⟩)
  | keygen (output publicKey masterKey : String) (attributes : List String) :
    Documented tools ⟨tools.keygen, "-o" :: output :: publicKey :: masterKey :: attributes⟩
      (Scheme.keygen ⟨⟨publicKey, []⟩, ⟨masterKey, []⟩⟩ ⟨attributes⟩ ⟨output, []⟩)
  | decrypt (output publicKey privateKey input : String) :
    Documented tools ⟨tools.decrypt, ["-o", output, publicKey, privateKey, input]⟩
      (Scheme.decrypt ⟨privateKey, []⟩ ⟨input, []⟩ ⟨output, []⟩)

/-- Whether a text can be given to a tool. -/
def IsArgument (word : String) : Prop :=
  '\x00' ∉ word.toList ∧ word.utf8ByteSize ≤ maxArgumentSize

instance (word : String) : Decidable (IsArgument word) := by
  unfold IsArgument
  infer_instance

def exitStatus : Except VaultError Unit → Nat
  | .ok () => 0
  | .error _ => 1

/-- Whether the tools can be started and do to the files what the scheme does, exiting with one where
it fails. -/
def Emulates (tools : ToolNames) (toolbox : Toolbox) : Prop :=
  ∀ (command : Command) (effect : Scheme.Effect) (disk : Disk), Documented tools command effect →
    (∀ word ∈ command.arguments, IsArgument word) →
    ∃ complaint, toolbox.start command disk =
      (.exited (exitStatus (effect disk).1) complaint, (effect disk).2)

/-! ## The tools of the scheme -/

private theorem schemeEffect?_documented (documented : Documented .usual command effect) :
    schemeEffect? command = some effect := by
  cases documented with
  | setup publicKey masterKey => rfl
  | encrypt output publicKey input policy => rfl
  | keygen output publicKey masterKey attributes => rfl
  | decrypt output publicKey privateKey input => rfl

/-- A documented command names a usual tool. -/
theorem Documented.isUsual (documented : Documented .usual command effect) :
    ToolNames.isUsual command.tool = true ∧ '\x00' ∉ command.tool.toList := by
  have known : ∀ tool ∈ [ToolNames.usual.setup, ToolNames.usual.encrypt, ToolNames.usual.keygen,
      ToolNames.usual.decrypt], ToolNames.isUsual tool = true ∧ '\x00' ∉ tool.toList := by
    decide
  cases documented <;> exact known _ (by simp)

private theorem endOf_eq (result : Except VaultError Unit) :
    ∃ complaint, endOf result = .exited (exitStatus result) complaint := by
  cases result with
  | ok _ => exact ⟨_, rfl⟩
  | error failure => exact ⟨_, rfl⟩

/-- A tool of the scheme does to the files what is documented, and prints why where it fails. -/
theorem scheme_start (documented : Documented .usual command effect)
    (fits : ∀ word ∈ command.arguments, IsArgument word) (disk : Disk) :
    Toolbox.scheme.start command disk = (endOf (effect disk).1, (effect disk).2) := by
  obtain ⟨usual, clean⟩ := documented.isUsual
  have startable : (command.tool :: command.arguments).any (·.contains '\x00') = false := by
    simp only [List.any_eq_false, List.mem_cons, String.contains_char_eq,
      decide_eq_true_eq]
    rintro word (rfl | member)
    · exact clean
    · exact (fits word member).1
  have short : (command.arguments.any fun word => maxArgumentSize < word.utf8ByteSize) = false := by
    simp only [List.any_eq_false, decide_eq_true_eq, Nat.not_lt]
    exact fun word member => (fits word member).2
  rw [Toolbox.start, startable, Toolbox.scheme, installed]
  simp [usual, short, schemeEffect?_documented documented]

/-- The tools of the scheme do what is documented of the usual ones. -/
theorem scheme_emulates : Emulates .usual .scheme := by
  intro command effect disk documented fits
  obtain ⟨complaint, ends⟩ := endOf_eq (effect disk).1
  exact ⟨complaint, by rw [scheme_start documented fits, ends]⟩

/-! ## Paths as texts -/

section Written

variable {publicKey masterKey privateKey input output : Path}

theorem setup_written (publicPlain : publicKey.IsPlain) (masterPlain : masterKey.IsPlain) :
    Scheme.setup ⟨publicKey.written, masterKey.written⟩ = Scheme.setup ⟨publicKey, masterKey⟩ := by
  funext disk
  simp only [Scheme.setup, Scheme.writing, write_written publicPlain, write_written masterPlain]

private theorem encrypt_written (policy : Policy) (publicPlain : publicKey.IsPlain)
    (inputPlain : input.IsPlain) (outputPlain : output.IsPlain) :
    Scheme.encrypt publicKey.written input.written policy output.written =
      Scheme.encrypt publicKey input policy output := by
  funext disk
  simp only [Scheme.encrypt, Scheme.writing, exists?_written publicPlain, read_written inputPlain,
    write_written outputPlain]

private theorem keygen_written (attributes : KeyAttributes) (masterPlain : masterKey.IsPlain)
    (outputPlain : output.IsPlain) :
    Scheme.keygen ⟨publicKey.written, masterKey.written⟩ attributes output.written =
      Scheme.keygen ⟨publicKey, masterKey⟩ attributes output := by
  funext disk
  simp only [Scheme.keygen, Scheme.writing, exists?_written masterPlain,
    write_written outputPlain]

private theorem decrypt_written (privatePlain : privateKey.IsPlain) (inputPlain : input.IsPlain)
    (outputPlain : output.IsPlain) :
    Scheme.decrypt privateKey.written input.written output.written =
      Scheme.decrypt privateKey input output := by
  funext disk
  simp only [Scheme.decrypt, Scheme.keyRole, Scheme.writing, read_written privatePlain,
    read_written inputPlain, write_written outputPlain]

end Written

/-! ## Outcomes told apart -/

/-- Outcomes that are the same, or failures that are told apart. -/
inductive Told (apart : VaultError → VaultError → Prop) {α : Type} :
    Except VaultError α → Except VaultError α → Prop where
  | same (outcome : Except VaultError α) : Told apart outcome outcome
  | failed {failure twin : VaultError} (differ : apart failure twin) :
    Told apart (.error failure) (.error twin)

/-- The scheme fails at a file and says why; a tool only complains and exits. -/
def Complains (tool : String) (failure twin : VaultError) : Prop :=
  ∃ reason complaint, failure = .disk reason ∧ twin = .commandFailed tool complaint

/-- Whether a result of the scheme is a success, or a failure at a file that may be told apart from
the complaint of a tool. -/
def MayComplain (apart : VaultError → VaultError → Prop) (tool : String)
    (result : Except VaultError Unit) : Prop :=
  result = .ok () ∨ ∃ reason, result = .error (.disk reason) ∧
    ∀ complaint, apart (.disk reason) (.commandFailed tool complaint)

variable {apart : VaultError → VaultError → Prop}

/-- Outcomes are equal where a failure is told as itself alone. -/
theorem Told.eq {α : Type} {outcome twin : Except VaultError α} (told : Told apart outcome twin)
    (exact : ∀ failure twin, apart failure twin → failure = twin) : outcome = twin := by
  cases told with
  | same => rfl
  | failed differ => rw [exact _ _ differ]

/-! ## Calls -/

/-- A call that does to the files what an effect of the scheme does to them, and ends as it does, up
to failures that are told apart. -/
structure Call.Tells (apart : VaultError → VaultError → Prop) (effect : Scheme.Effect)
    (call : Call) (workspace : Workspace) : Prop where
  ends : ∃ result, (call workspace).1 = .ended result ∧ Told apart (effect workspace.disk).1 result
  disk : (call workspace).2.disk = (effect workspace.disk).2
  nextScratch : (call workspace).2.nextScratch = workspace.nextScratch

/-- A call that does to the files what an effect of the scheme does to them, and ends as it does. -/
structure Call.Follows (effect : Scheme.Effect) (call : Call) (workspace : Workspace) : Prop where
  ends : (call workspace).1 = .ended (effect workspace.disk).1
  disk : (call workspace).2.disk = (effect workspace.disk).2
  nextScratch : (call workspace).2.nextScratch = workspace.nextScratch

theorem Call.Follows.toCall (effect : Scheme.Effect) (workspace : Workspace) :
    Call.Follows effect effect.toCall workspace :=
  ⟨rfl, rfl, rfl⟩

theorem Call.Follows.recordingKey {call : Call} {workspace : Workspace} (output : Path)
    (follows : Call.Follows effect call workspace) :
    Call.Follows effect (recordingKey output call) workspace := by
  obtain ⟨outcome, disk, number⟩ := recordingKey_same output call workspace
  exact ⟨outcome.trans follows.ends, disk.trans follows.disk, number.trans follows.nextScratch⟩

theorem inProcess_setup_follows (keys : KeyPaths) (workspace : Workspace) :
    Call.Follows (Scheme.setup keys) ((Engine.inProcess false).setup keys) workspace :=
  .toCall _ _

theorem inProcess_encrypt_follows (publicKey input : Path) (policy : Policy) (output : Path)
    (workspace : Workspace) :
    Call.Follows (Scheme.encrypt publicKey input policy output)
      ((Engine.inProcess false).encrypt publicKey input policy output) workspace :=
  .toCall _ _

theorem inProcess_keygen_follows (keys : KeyPaths) (attributes : KeyAttributes) (output : Path)
    (workspace : Workspace) :
    Call.Follows (Scheme.keygen keys attributes output)
      ((Engine.inProcess false).keygen keys attributes output) workspace :=
  .recordingKey output (.toCall _ _)

theorem inProcess_decrypt_follows (publicKey privateKey input output : Path)
    (workspace : Workspace) :
    Call.Follows (Scheme.decrypt privateKey input output)
      ((Engine.inProcess false).decrypt publicKey privateKey input output) workspace :=
  .toCall _ _

/-- The tools do what the scheme does, and how one ends is told as its end is read. -/
theorem call_tells {meaning : String → ToolResult → Except VaultError Unit}
    {workspace : Workspace} (emulates : Emulates tools toolbox)
    (documented : Documented tools command effect)
    (fits : ∀ word ∈ command.arguments, IsArgument word)
    (reads : ∀ complaint, Told apart (effect workspace.disk).1
      (meaning command.tool (.exited (exitStatus (effect workspace.disk).1) complaint))) :
    Call.Tells apart effect (toolbox.call meaning command) workspace := by
  obtain ⟨complaint, starts⟩ := emulates command effect workspace.disk documented fits
  have calls : toolbox.call meaning command workspace =
      (.ended (meaning command.tool (.exited (exitStatus (effect workspace.disk).1) complaint)),
        { workspace with disk := (effect workspace.disk).2 }) := by
    rw [Toolbox.call, starts]
  constructor <;> rw [calls]
  exact ⟨_, rfl, reads complaint⟩

private theorem checked_told {result : Except VaultError Unit} {tool : String}
    (ends : MayComplain apart tool result) (complaint : List UInt8) :
    Told apart result (ToolResult.checked tool (.exited (exitStatus result) complaint)) := by
  rcases ends with rfl | ⟨reason, rfl, differ⟩
  · exact .same (.ok ())
  · exact .failed (differ _)

private theorem opened_told {result : Except VaultError Unit}
    (ends : result = .ok () ∨ result = .error .noPermission) (tool : String)
    (complaint : List UInt8) :
    Told apart result (ToolResult.opened tool (.exited (exitStatus result) complaint)) := by
  rcases ends with rfl | rfl
  · exact .same (.ok ())
  · exact .same (.error .noPermission)

/-- A path that can be given to a tool. -/
structure IsGiven (path : Path) : Prop where
  plain : path.IsPlain
  argument : IsArgument path.text

theorem isArgument_text {text : String} (fits : IsPathText text) : IsArgument text := by
  obtain ⟨clean, _, short⟩ := fits
  refine ⟨?_, Nat.le_trans short (by decide)⟩
  simpa [String.contains_char_eq] using clean

theorem isArgument_policy (role : Role) : IsArgument (Policy.forRole role).expression := by
  cases role <;> decide

theorem isArgument_attribute (role : Role) :
    ∀ name ∈ (KeyAttributes.forRole role).names, IsArgument name := by
  cases role <;> decide

section CommandLine

variable {keys : KeyPaths} {publicKey privateKey input output : Path} {role : Role}
variable {workspace : Workspace} (emulates : Emulates tools toolbox)

include emulates

/-- The setup tool tells of what the scheme does. -/
theorem setup_tells (publicGiven : IsGiven keys.publicKey) (masterGiven : IsGiven keys.masterKey)
    (ends : MayComplain apart tools.setup (Scheme.setup keys workspace.disk).1) :
    Call.Tells apart (Scheme.setup keys) ((Engine.commandLine tools toolbox).setup keys)
      workspace := by
  have documented : Documented tools (tools.setupCommand keys) (Scheme.setup keys) := by
    rw [← setup_written publicGiven.plain masterGiven.plain]
    exact .setup _ _
  refine call_tells emulates documented ?_ (checked_told ends)
  have flags : IsArgument "-p" ∧ IsArgument "-m" := by decide
  simp [ToolNames.setupCommand, flags, publicGiven.argument, masterGiven.argument]

/-- The encrypting tool tells of what the scheme does. -/
theorem encrypt_tells (publicGiven : IsGiven publicKey) (inputGiven : IsGiven input)
    (outputGiven : IsGiven output)
    (ends : MayComplain apart tools.encrypt
      (Scheme.encrypt publicKey input (Policy.forRole role) output workspace.disk).1) :
    Call.Tells apart (Scheme.encrypt publicKey input (Policy.forRole role) output)
      ((Engine.commandLine tools toolbox).encrypt publicKey input (Policy.forRole role) output)
      workspace := by
  have documented : Documented tools
      (tools.encryptCommand publicKey input (Policy.forRole role) output)
      (Scheme.encrypt publicKey input (Policy.forRole role) output) := by
    rw [← encrypt_written _ publicGiven.plain inputGiven.plain outputGiven.plain]
    exact .encrypt _ _ _ _
  refine call_tells emulates documented ?_ (checked_told ends)
  have flag : IsArgument "-o" := by decide
  simp [ToolNames.encryptCommand, flag, publicGiven.argument, inputGiven.argument,
    outputGiven.argument, isArgument_policy]

/-- The key tool tells of what the scheme does. -/
theorem keygen_tells (publicGiven : IsGiven keys.publicKey) (masterGiven : IsGiven keys.masterKey)
    (outputGiven : IsGiven output)
    (ends : MayComplain apart tools.keygen
      (Scheme.keygen keys (KeyAttributes.forRole role) output workspace.disk).1) :
    Call.Tells apart (Scheme.keygen keys (KeyAttributes.forRole role) output)
      ((Engine.commandLine tools toolbox).keygen keys (KeyAttributes.forRole role) output)
      workspace := by
  have documented : Documented tools
      (tools.keygenCommand keys (KeyAttributes.forRole role) output)
      (Scheme.keygen keys (KeyAttributes.forRole role) output) := by
    change Documented tools _ (Scheme.keygen ⟨keys.publicKey, keys.masterKey⟩ _ output)
    rw [← keygen_written _ masterGiven.plain outputGiven.plain]
    exact .keygen _ _ _ _
  refine call_tells emulates documented ?_ (checked_told ends)
  have flag : IsArgument "-o" := by decide
  simpa [ToolNames.keygenCommand, flag, publicGiven.argument, masterGiven.argument,
    outputGiven.argument] using isArgument_attribute role

/-- The decrypting tool tells of what the scheme does. -/
theorem decrypt_tells (publicGiven : IsGiven publicKey) (privateGiven : IsGiven privateKey)
    (inputGiven : IsGiven input) (outputGiven : IsGiven output)
    (ends : (Scheme.decrypt privateKey input output workspace.disk).1 = .ok () ∨
      (Scheme.decrypt privateKey input output workspace.disk).1 = .error .noPermission) :
    Call.Tells apart (Scheme.decrypt privateKey input output)
      ((Engine.commandLine tools toolbox).decrypt publicKey privateKey input output)
      workspace := by
  have documented : Documented tools
      (tools.decryptCommand publicKey privateKey input output)
      (Scheme.decrypt privateKey input output) := by
    rw [← decrypt_written privateGiven.plain inputGiven.plain outputGiven.plain]
    exact .decrypt _ _ _ _
  refine call_tells emulates documented ?_ (opened_told ends _)
  have flag : IsArgument "-o" := by decide
  simp [ToolNames.decryptCommand, flag, publicGiven.argument, privateGiven.argument,
    inputGiven.argument, outputGiven.argument]

end CommandLine

end RoleVault.Vault
