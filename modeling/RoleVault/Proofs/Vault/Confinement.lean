import RoleVault.Proofs.Files.Tree
import RoleVault.Proofs.Vault.Scheme
import RoleVault.Proofs.Vault.Scratch
import RoleVault.Vault.Tools

/-!
Contract: calls of an engine change nothing but the file that they are told to write.

Owns:
- `Written`, the trees that come from one by writing files;
- `Engine.Confined`, the engines of which every call but setup writes its output alone, and
  `Toolbox.IsConfined`, the same of tools;
- that the engine inside the program is confined, and so are those behind confined tools, the tools
  of the scheme and scripted ones among them.

Does not own: what the vault does with an engine (`RoleVault.Proofs.Vault.Residue`).
-/

namespace RoleVault.Vault

open RoleVault.Files RoleVault.Files.Disk

/-! ## Writing some files -/

/-- The trees that come from one by writing files under some paths. -/
inductive Written (allowed : Path → Prop) (start : Disk) : Disk → Prop where
  | same : Written allowed start start
  | write {between after : Disk} {path : Path} {content : List UInt8}
    (earlier : Written allowed start between) (among : allowed path)
    (written : between.write path content = .ok after) : Written allowed start after

namespace Written

variable {allowed more : Path → Prop} {start after : Disk}

theorem mono (written : Written allowed start after) (among : ∀ path, allowed path → more path) :
    Written more start after := by
  induction written with
  | same => exact .same
  | write _ holds last inductionHypothesis => exact .write inductionHypothesis (among _ holds) last

/-- Writing files leaves a tree a tree. -/
theorem isTree (written : Written allowed start after) (tree : IsTree start) : IsTree after := by
  induction written with
  | same => exact tree
  | write _ _ last inductionHypothesis => exact write_isTree inductionHypothesis last

/-- Writing under the text of a path is writing under the path. -/
theorem of_text {path : Path} (plain : path.IsPlain)
    (written : Written (· = path.written) start after) : Written (· = path) start after := by
  induction written with
  | same => exact .same
  | write _ among last inductionHypothesis =>
    subst among
    rw [write_written plain] at last
    exact .write inductionHypothesis rfl last

/-- Writing a file in a scratch directory, however often, keeps the directory in use. -/
theorem scratch {before : Disk} {scratch : Path} {place : Location} {name : String}
    (written : Written (· = scratch.child name) start after) (descends : GoesDown name)
    (working : Scratch before scratch place start) : Scratch before scratch place after := by
  induction written with
  | same => exact working
  | write _ among last inductionHypothesis =>
    subst among
    exact inductionHypothesis.write descends last

end Written

/-! ## Calls and engines -/

/-- Whether a call only writes files under some paths, and looks at nothing but files. -/
structure Call.KeepsTo (allowed : Path → Prop) (call : Call) : Prop where
  writes : ∀ workspace : Workspace, Written allowed workspace.disk (call workspace).2.disk
  nextScratch : ∀ workspace : Workspace, (call workspace).2.nextScratch = workspace.nextScratch
  outcome : ∀ {workspace twin : Workspace}, workspace.disk = twin.disk →
    (call workspace).1 = (call twin).1
  disk : ∀ {workspace twin : Workspace}, workspace.disk = twin.disk →
    (call workspace).2.disk = (call twin).2.disk

theorem Call.KeepsTo.mono {allowed more : Path → Prop} {call : Call}
    (keeps : Call.KeepsTo allowed call) (among : ∀ path, allowed path → more path) :
    Call.KeepsTo more call :=
  { keeps with writes := fun workspace => (keeps.writes workspace).mono among }

/-- Whether making keys only writes files, and every other call only its output. -/
structure Engine.Confined (engine : Engine) : Prop where
  setup : ∀ keys, Call.KeepsTo (fun _ => True) (engine.setup keys)
  encrypt : ∀ publicKey input policy {output : Path}, output.IsPlain →
    Call.KeepsTo (· = output) (engine.encrypt publicKey input policy output)
  keygen : ∀ keys attributes {output : Path}, output.IsPlain →
    Call.KeepsTo (· = output) (engine.keygen keys attributes output)
  decrypt : ∀ publicKey privateKey input {output : Path}, output.IsPlain →
    Call.KeepsTo (· = output) (engine.decrypt publicKey privateKey input output)

/-- The paths that a tool may write: any, unless its command begins with an output. -/
def Command.MayWrite (command : Command) (path : Path) : Prop :=
  ∀ output rest, command.arguments = "-o" :: output :: rest → path = ⟨output, []⟩

/-- Whether tools only write files, and only the output where a command names one. -/
def Toolbox.IsConfined (toolbox : Toolbox) : Prop :=
  ∀ command disk, Written command.MayWrite disk (toolbox command disk).2

/-! ## The effects of the scheme -/

namespace Scheme

/-- Whether an effect only writes files under some paths. -/
def Effect.KeepsTo (allowed : Path → Prop) (effect : Effect) : Prop :=
  ∀ disk, Written allowed disk (effect disk).2

theorem Effect.KeepsTo.mono {allowed more : Path → Prop} {effect : Effect}
    (keeps : effect.KeepsTo allowed) (among : ∀ path, allowed path → more path) :
    effect.KeepsTo more :=
  fun disk => (keeps disk).mono among

private theorem writing_keepsTo (output : Path) (content : List UInt8) :
    Effect.KeepsTo (· = output) (writing output content finish) := by
  intro disk
  unfold writing
  split
  · exact .same
  · rename_i after written
    exact .write .same rfl written

/-- Setup writes files and does nothing else. -/
theorem setup_keepsTo (keys : KeyPaths) : Effect.KeepsTo (fun _ => True) (setup keys) := by
  intro disk
  unfold setup writing
  split
  · exact .same
  · rename_i between publicWritten
    split
    · exact .write .same trivial publicWritten
    · rename_i after masterWritten
      exact .write (.write .same trivial publicWritten) trivial masterWritten

private theorem encrypt_keepsTo (publicKey input : Path) (policy : Policy) (output : Path) :
    Effect.KeepsTo (· = output) (encrypt publicKey input policy output) := by
  intro disk
  unfold encrypt
  split
  · exact .same
  · split
    · exact .same
    · exact writing_keepsTo output _ disk

private theorem keygen_keepsTo (keys : KeyPaths) (attributes : KeyAttributes) (output : Path) :
    Effect.KeepsTo (· = output) (keygen keys attributes output) := by
  intro disk
  unfold keygen
  split
  · exact .same
  · split
    · exact .same
    · exact writing_keepsTo output _ disk

private theorem decrypt_keepsTo (privateKey input output : Path) :
    Effect.KeepsTo (· = output) (decrypt privateKey input output) := by
  intro disk
  unfold decrypt
  split
  · exact .same
  · split
    · exact .same
    · split
      · exact .same
      · exact writing_keepsTo output _ disk

/-- A call keeps to what its effect keeps to. -/
theorem Effect.KeepsTo.toCall {allowed : Path → Prop} {effect : Effect}
    (keeps : effect.KeepsTo allowed) : Call.KeepsTo allowed effect.toCall where
  writes workspace := keeps workspace.disk
  nextScratch _ := rfl
  outcome same := congrArg (fun disk => Outcome.ended (effect disk).1) same
  disk same := congrArg (fun disk => (effect disk).2) same

end Scheme

/-! ## The engine inside the program -/

section InProcess

variable {allowed : Path → Prop} {call : Call}

theorem Call.KeepsTo.unlessHanging (keeps : Call.KeepsTo allowed call) (hanging : Bool) :
    Call.KeepsTo allowed (unlessHanging hanging call) := by
  cases hanging with
  | true => exact ⟨fun _ => .same, fun _ => rfl, fun _ => rfl, id⟩
  | false => exact keeps

theorem Call.KeepsTo.recordingKey (keeps : Call.KeepsTo allowed call) (output : Path) :
    Call.KeepsTo allowed (recordingKey output call) where
  writes workspace := by
    rw [(recordingKey_same output call workspace).2.1]
    exact keeps.writes workspace
  nextScratch workspace :=
    (recordingKey_same output call workspace).2.2.trans (keeps.nextScratch workspace)
  outcome same := by
    rw [(recordingKey_same output call _).1, (recordingKey_same output call _).1]
    exact keeps.outcome same
  disk same := by
    rw [(recordingKey_same output call _).2.1, (recordingKey_same output call _).2.1]
    exact keeps.disk same

/-- The engine inside the program writes nothing but what it is asked for. -/
theorem inProcess_confined (hanging : Bool) : (Engine.inProcess hanging).Confined where
  setup keys := (Scheme.setup_keepsTo keys).toCall
  encrypt _ _ _ _ _ := (Scheme.encrypt_keepsTo _ _ _ _).toCall.unlessHanging hanging
  keygen _ _ _ _ := ((Scheme.keygen_keepsTo _ _ _).toCall.recordingKey _).unlessHanging hanging
  decrypt _ _ _ _ _ := (Scheme.decrypt_keepsTo _ _ _).toCall.unlessHanging hanging

end InProcess

/-! ## Tools -/

section Tools

variable {toolbox : Toolbox} {command : Command}

theorem Toolbox.IsConfined.call (confined : toolbox.IsConfined)
    (meaning : String → ToolResult → Except VaultError Unit) (command : Command) :
    Call.KeepsTo command.MayWrite (toolbox.call meaning command) where
  writes workspace := by
    change Written command.MayWrite workspace.disk (toolbox.start command workspace.disk).2
    unfold Toolbox.start
    split
    · exact .same
    · exact confined command workspace.disk
  nextScratch _ := rfl
  outcome same :=
    congrArg (fun disk => Outcome.ended (meaning command.tool (toolbox.start command disk).1)) same
  disk same := congrArg (fun disk => (toolbox.start command disk).2) same

/-- A command with an output writes under the text of its path. -/
theorem Toolbox.IsConfined.call_output (confined : toolbox.IsConfined)
    (meaning : String → ToolResult → Except VaultError Unit) {output : Path}
    (plain : output.IsPlain) {rest : List String}
    (names : command.arguments = "-o" :: output.text :: rest) :
    Call.KeepsTo (· = output) (toolbox.call meaning command) := by
  have keeps := confined.call meaning command
  exact { keeps with
    writes := fun workspace =>
      .of_text plain ((keeps.writes workspace).mono fun path may => may _ _ names) }

/-- Tools that are confined make a confined engine. -/
theorem commandLine_confined (confined : toolbox.IsConfined) (tools : ToolNames) :
    (Engine.commandLine tools toolbox).Confined where
  setup _ := (confined.call _ _).mono fun _ _ => trivial
  encrypt _ _ _ _ plain := confined.call_output _ plain rfl
  keygen _ _ _ plain := confined.call_output _ plain rfl
  decrypt _ _ _ _ plain := confined.call_output _ plain rfl

private theorem installed_confined {act : Command → Disk → ToolResult × Disk}
    (confined : Toolbox.IsConfined act) : (installed act).IsConfined := by
  intro command disk
  unfold installed
  split
  · exact .same
  · split
    · exact .same
    · exact confined command disk

/-- What a command asks of the scheme writes nothing but what the command may write. -/
theorem schemeEffect?_keepsTo {effect : Scheme.Effect} (asks : schemeEffect? command = some effect) :
    effect.KeepsTo command.MayWrite := by
  obtain ⟨tool, arguments⟩ := command
  unfold schemeEffect? at asks
  simp only at asks
  split at asks
  · -- a command that begins otherwise may write anything
    split at asks
    · cases asks
      exact fun disk => (Scheme.setup_keepsTo _ disk).mono fun _ _ output rest same =>
        absurd (List.cons.inj same).1 (by decide)
    · cases asks
  · rename_i output publicKey third rest
    have told : ∀ path : Path, path = ⟨output, []⟩ →
        (Command.mk tool ("-o" :: output :: publicKey :: third :: rest)).MayWrite path := by
      rintro _ rfl _ _ ⟨⟩
      rfl
    split at asks
    · cases asks
      exact (Scheme.keygen_keepsTo _ _ _).mono told
    · split at asks
      · split at asks
        · cases asks
          exact (Scheme.encrypt_keepsTo _ _ _ _).mono told
        · split at asks <;> cases asks
          exact (Scheme.decrypt_keepsTo _ _ _).mono told
      · cases asks
  · cases asks

/-- The tools that do what the scheme does are confined. -/
theorem scheme_confined : Toolbox.scheme.IsConfined := by
  refine installed_confined fun command disk => ?_
  cases asks : schemeEffect? command with
  | none => exact .same
  | some effect => exact schemeEffect?_keepsTo asks disk

/-- A scripted tool writes nothing or an empty output. -/
theorem perform_confined (script : Script) : Toolbox.IsConfined script.perform := by
  intro command disk
  unfold Script.perform
  simp only
  split
  · rename_i output emptied named
    cases written : disk.write ⟨output, []⟩ [] with
    | error failure => exact .same
    | ok after =>
      refine .write .same (fun other rest same => ?_) written
      rw [same, outputArgument?] at named
      cases named
      rfl
  · exact .same

theorem scripted_confined (script : Script) : (Toolbox.scripted script).IsConfined := by
  refine installed_confined fun command disk => ?_
  split
  · exact perform_confined script command disk
  · exact scheme_confined command disk

end Tools

end RoleVault.Vault
