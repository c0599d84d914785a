import Mathlib
import RoleVault.Proofs.Vault.Dominance
import RoleVault.Proofs.Vault.Exactness
import RoleVault.Proofs.Vault.KeyFiles
import RoleVault.Proofs.Vault.Tools

/-!
Contract: what sealing and opening make of tools that may do anything with their output.

Owns:
- `Conduct`, all that a tool can do, and `Toolbox.Behaves`, a toolbox whose tools do no more;
- `Conduct.sealed` and `Conduct.opened`, sealing and opening as functions of what the tools did;
- `tool_outcomes`: only a key that does not fit is reported as one, and every other failure under the
  name of the tool or of what the system said.

Does not own: tools that do what the scheme does (`RoleVault.Proofs.Vault.Refinement`).
-/

namespace RoleVault.Vault

open RoleVault.Files RoleVault.Files.Disk RoleVault.Text

/-! ## Tools -/

/-- What a tool does when it is to be started: it is not there, or the system refuses to start it, or
it exits, after writing some bytes to its output or nothing. -/
inductive Conduct where
  | missing
  | refused (error : DiskError)
  | exits (status : Nat) (complaint : List UInt8) (output : Option (List UInt8))
deriving DecidableEq, Repr

namespace Conduct

def result : Conduct → ToolResult
  | missing => .notInstalled
  | refused error => .notStarted error
  | exits status complaint _ => .exited status complaint

/-- What a tool writes to its output. -/
def output? : Conduct → Option (List UInt8)
  | exits _ _ output => output
  | _ => none

/-- The files as a tool leaves them. -/
def leave (conduct : Conduct) (command : Command) (disk : Disk) : Disk :=
  match conduct.output?, outputArgument? command.arguments with
  | some content, some output => (disk.write ⟨output, []⟩ content).toOption.getD disk
  | _, _ => disk

def Succeeds (conduct : Conduct) : Prop :=
  ∃ complaint output, conduct = .exits 0 complaint output

end Conduct

/-- Whether the tools do what they do and nothing else: what each of them does may depend on its
arguments and on all files. -/
def Toolbox.Behaves (toolbox : Toolbox) (conduct : Command → Disk → Conduct) : Prop :=
  ∀ command disk, toolbox.start command disk =
    ((conduct command disk).result, (conduct command disk).leave command disk)

def Command.isTellable (command : Command) : Bool :=
  !(command.tool :: command.arguments).any fun word => word.contains '\x00'

private theorem Command.isTellable_iff {command : Command} : command.isTellable = true ↔
    ∀ word ∈ command.tool :: command.arguments, '\x00' ∉ word.toList := by
  simp [Command.isTellable, String.contains_char_eq]

/-- Tools that do as they are told. -/
def Toolbox.doing (plan : Command → Disk → Conduct) : Toolbox := fun command disk =>
  ((plan command disk).result, (plan command disk).leave command disk)

/-- A toolbox can be made to do anything, except that some commands can not be started. -/
theorem Toolbox.behaves_doing (plan : Command → Disk → Conduct) :
    (Toolbox.doing plan).Behaves fun command disk =>
      if command.isTellable then plan command disk else .refused .nulInArgument := by
  intro command disk
  unfold Toolbox.start Command.isTellable
  cases told : (command.tool :: command.arguments).any fun word => word.contains '\x00' <;>
    simp only [told] <;> rfl

variable {vault : Vault} {tools : ToolNames} {toolbox : Toolbox}
variable {conduct : Command → Disk → Conduct} {command : Command}
variable {before disk : Disk} {scratch : Path} {place : Location} {name : String}
variable {workspace made : Workspace}

/-- Running a tool. -/
theorem exec_tool (behaves : toolbox.Behaves conduct) (operation : Operation)
    (meaning : String → ToolResult → Except VaultError Unit) (command : Command)
    (workspace : Workspace) :
    Attempt.exec (vault.bounded operation (toolbox.call meaning command)) workspace =
      (meaning command.tool (conduct command workspace.disk).result,
        { workspace with disk := (conduct command workspace.disk).leave command workspace.disk })
    := by
  rw [Attempt.exec_bounded, Toolbox.call, behaves command workspace.disk]

/-- A tool whose output is a new name in a scratch directory writes what it writes there, and nothing
beside it. -/
theorem Conduct.leave_child (ran : Conduct) (plain : scratch.IsPlain)
    (names : outputArgument? command.arguments = some (scratch.child name).text)
    (working : Scratch before scratch place disk) (piece : IsPiece name) (descends : GoesDown name)
    (text : IsPathText (scratch.child name).text) (free : disk.get? (place ++ [name]) = none) :
    Scratch before scratch place (ran.leave command disk) ∧
      (∀ sibling, sibling ≠ name →
        (ran.leave command disk).get? (place ++ [sibling]) = disk.get? (place ++ [sibling])) ∧
      (ran.leave command disk).read (scratch.child name) =
        match ran.output? with
        | some content => .ok content
        | none => .error .notFound := by
  unfold Conduct.leave
  rw [names]
  cases ran.output? with
  | none =>
    refine ⟨working, fun _ _ => rfl, ?_⟩
    rw [Disk.read, resolve_child working.leads descends text, free]
    rfl
  | some content =>
    obtain ⟨other, written, working, _, beside⟩ := working.write_new content descends text free
    have named : disk.write ⟨(scratch.child name).text, []⟩ content = .ok other :=
      (write_written (plain.child piece) content).trans written
    simp only [named, Except.toOption, Option.getD_some]
    exact ⟨working, beside, read_write written⟩

/-! ## Sealing -/

/-- What sealing makes of what the encrypting tool did. -/
def Conduct.sealed (tool : String) : Conduct → Except VaultError String
  | missing => .error (.engineNotInstalled tool)
  | refused error => .error (.disk error)
  | exits 0 _ none => .error (.disk .notFound)
  | exits 0 _ (some []) => .error (.commandFailed "cpabe-cli" "encrypt produced no ciphertext")
  | exits 0 _ (some content) => .ok (Base64.encode Base64.standard content)
  | exits _ complaint _ => .error (.commandFailed tool (complaintText complaint))

section Sealing

variable (commandLine : vault.engine = .commandLine tools toolbox)
variable (behaves : toolbox.Behaves conduct) (tree : IsTree workspace.disk)
variable (publicKey : workspace.disk.isFile vault.keys.publicKey = true)

include commandLine behaves tree publicKey

/-- Sealing starts the encrypting tool in a new scratch directory, beside the password that is to be
sealed, and goes by what that tool does. -/
theorem exec_sealFor_tools (plain : vault.scratchRoot.IsPlain)
    (usable : IsUsable vault "seal" workspace) (role : Role) (password : Secret) :
    ∃ scratch made files,
      Attempt.exec (vault.createScratch "seal") workspace = (.ok scratch, made) ∧
      made.disk.write (scratch.child "plain") (Utf8.encode password.expose) = .ok files ∧
      (Attempt.exec (vault.sealFor role password) workspace).1 =
        (conduct (tools.encryptCommand vault.keys.publicKey (scratch.child "plain")
          (Policy.forRole role) (scratch.child "plain.cpabe")) files).sealed tools.encrypt := by
  obtain ⟨scratch, made, place, before, creates, _, working, free, text⟩ := usable.new tree
  obtain ⟨files, written, filledWorking, _, beside⟩ :=
    working.write_new (Utf8.encode password.expose) (by decide)
      (text "plain" (by decide) (by decide)) (free _)
  refine ⟨scratch, made, files, creates, written, ?_⟩
  have fills : Attempt.exec (Attempt.change fun disk => disk.write (scratch.child "plain")
      (Utf8.encode password.expose)) made = (.ok (), { made with disk := files }) := by
    rw [Attempt.exec_change, written]
  rw [Vault.sealFor, Attempt.exec_bind_ok (by rw [Vault.requirePublicKey, Attempt.exec_observe,
    if_pos publicKey]), Attempt.exec_inScratch creates]
  simp only
  rw [Attempt.exec_bind_ok fills, commandLine, Attempt.exec_bind]
  generalize asked : tools.encryptCommand vault.keys.publicKey (scratch.child "plain")
    (Policy.forRole role) (scratch.child "plain.cpabe") = command
  have names : outputArgument? command.arguments = some (scratch.child "plain.cpabe").text := by
    rw [← asked]
    rfl
  have tool : command.tool = tools.encrypt := by rw [← asked]; rfl
  obtain ⟨_, _, reads⟩ := (conduct command files).leave_child
    (scratch_plain plain (by decide) creates) names filledWorking (by decide) (by decide)
    (text "plain.cpabe" (by decide) (by decide)) ((beside _ (by decide)).trans (free _))
  simp only [Engine.commandLine, asked]
  rw [exec_tool behaves, tool]
  simp only
  generalize conduct command files = ran at reads ⊢
  cases ran with
  | missing => rfl
  | refused error => rfl
  | exits status complaint output =>
    cases status with
    | succ status => rfl
    | zero =>
      simp only [Conduct.result, ToolResult.checked, Attempt.exec_observe, reads, Conduct.output?]
      rcases output with _ | _ | ⟨byte, content⟩
      · rfl
      · rfl
      · rfl

end Sealing

/-! ## Opening -/

/-- What opening makes of what the tools did that make the key and decrypt with it. -/
def Conduct.opened (tools : ToolNames) (keygen decrypt : Conduct) : Except VaultError Secret :=
  match keygen with
  | missing => .error (.engineNotInstalled tools.keygen)
  | refused error => .error (.disk error)
  | exits 0 _ _ =>
    match decrypt with
    | missing => .error (.engineNotInstalled tools.decrypt)
    | refused error => .error (.disk error)
    | exits 0 _ (some content) => plaintextOf content
    | exits _ _ _ => .error .noPermission
  | exits _ complaint _ => .error (.commandFailed tools.keygen (complaintText complaint))

/-- Decrypting goes by what its tool does once there is a key. -/
theorem exec_decrypt_tool {output : Path} (behaves : toolbox.Behaves conduct)
    (tool : command.tool = tools.decrypt) (present : workspace.disk = disk)
    (reads : ((conduct command disk).leave command disk).read output =
      match (conduct command disk).output? with
      | some content => .ok content
      | none => .error .notFound) {complaint : List UInt8} {key : Option (List UInt8)} :
    (Attempt.exec (do
        vault.bounded .decrypt (toolbox.call ToolResult.opened command)
        Attempt.observe fun disk => Vault.readPlaintext disk output) workspace).1 =
      Conduct.opened tools (.exits 0 complaint key) (conduct command disk) := by
  subst present
  rw [Attempt.exec_bind, exec_tool behaves, tool]
  generalize conduct command workspace.disk = ran at reads ⊢
  rcases ran with _ | error | ⟨_ | status, complaint, _ | content⟩
  · rfl
  · rfl
  · simp only [Conduct.result, ToolResult.opened, Attempt.exec_observe, Vault.readPlaintext, reads,
      Conduct.output?]
    rfl
  · simp only [Conduct.result, ToolResult.opened, Attempt.exec_observe]
    exact readPlaintext_of_read reads
  · rfl
  · rfl

section Opening

variable (commandLine : vault.engine = .commandLine tools toolbox)
variable (behaves : toolbox.Behaves conduct) (tree : IsTree workspace.disk)
variable (publicKey : workspace.disk.isFile vault.keys.publicKey = true)
variable (masterKey : workspace.disk.isFile vault.keys.masterKey = true)

include commandLine behaves tree publicKey masterKey

/-- Opening starts the tool that makes a key and then, beside the ciphertext that is to be opened, the
one that decrypts with it, and goes by what these do. -/
theorem exec_openWith_tools (plain : vault.scratchRoot.IsPlain)
    (usable : IsUsable vault "unseal" workspace) (role : Role) {stored : String}
    {ciphertext : List UInt8} (decoded : Vault.ciphertextOf stored = .ok ciphertext) :
    ∃ scratch made files generate decrypt,
      Attempt.exec (vault.createScratch "unseal") workspace = (.ok scratch, made) ∧
      generate = tools.keygenCommand vault.keys (KeyAttributes.forRole role)
        (scratch.child "priv_key") ∧
      decrypt = tools.decryptCommand vault.keys.publicKey (scratch.child "priv_key")
        (scratch.child "sealed.cpabe") (scratch.child "plain") ∧
      ((conduct generate made.disk).leave generate made.disk).write
        (scratch.child "sealed.cpabe") ciphertext = .ok files ∧
      (Attempt.exec (vault.openWith role stored) workspace).1 =
        Conduct.opened tools (conduct generate made.disk) (conduct decrypt files) := by
  obtain ⟨scratch, made, place, before, creates, _, working, free, text⟩ := usable.new tree
  have scratchPlain := scratch_plain plain (by decide) creates
  obtain ⟨generate, asksKey⟩ : ∃ command, command = tools.keygenCommand vault.keys
    (KeyAttributes.forRole role) (scratch.child "priv_key") := ⟨_, rfl⟩
  obtain ⟨decrypt, asksPlain⟩ : ∃ command, command = tools.decryptCommand vault.keys.publicKey
    (scratch.child "priv_key") (scratch.child "sealed.cpabe") (scratch.child "plain") := ⟨_, rfl⟩
  have keyNames : outputArgument? generate.arguments = some (scratch.child "priv_key").text := by
    rw [asksKey]
    rfl
  have plainNames : outputArgument? decrypt.arguments = some (scratch.child "plain").text := by
    rw [asksPlain]
    rfl
  obtain ⟨keyedWorking, keyBeside, _⟩ := (conduct generate made.disk).leave_child scratchPlain
    keyNames working (by decide) (by decide) (text _ (by decide) (by decide)) (free _)
  obtain ⟨files, written, filledWorking, _, beside⟩ :=
    keyedWorking.write_new ciphertext (by decide) (text "sealed.cpabe" (by decide) (by decide))
      ((keyBeside _ (by decide)).trans (free _))
  obtain ⟨_, _, reads⟩ := (conduct decrypt files).leave_child scratchPlain plainNames
    filledWorking (by decide) (by decide) (text _ (by decide) (by decide))
    ((beside _ (by decide)).trans ((keyBeside _ (by decide)).trans (free _)))
  refine ⟨scratch, made, files, generate, decrypt, creates, asksKey, asksPlain, written, ?_⟩
  rw [Vault.openWith, decoded, Attempt.exec_bind_ok (Attempt.exec_done _ _),
    Attempt.exec_bind_ok (by rw [Vault.requirePublicKey, Attempt.exec_observe, if_pos publicKey]),
    Attempt.exec_bind_ok (by rw [Vault.requireMasterKey, Attempt.exec_observe, if_pos masterKey]),
    Attempt.exec_inScratch creates]
  simp only
  have keyTool : generate.tool = tools.keygen := by rw [asksKey]; rfl
  have plainTool : decrypt.tool = tools.decrypt := by rw [asksPlain]; rfl
  rw [commandLine, Attempt.exec_bind]
  simp only [Engine.commandLine, ← asksKey, ← asksPlain]
  rw [exec_tool behaves, keyTool]
  generalize (conduct generate made.disk).leave generate made.disk = keyed at written ⊢
  have fills (workspace : Workspace) (same : workspace.disk = keyed) :
      Attempt.exec (Attempt.change fun disk => disk.write (scratch.child "sealed.cpabe")
        ciphertext) workspace = (.ok (), { workspace with disk := files }) := by
    rw [Attempt.exec_change, same, written]
  -- the tool that decrypts is started only once the other has made the key
  rcases conduct generate made.disk with _ | error | ⟨_ | status, complaint, output⟩
  · rfl
  · rfl
  · simp only [Conduct.result, ToolResult.checked]
    rw [Attempt.exec_bind_ok (fills _ rfl)]
    exact exec_decrypt_tool behaves plainTool rfl reads
  · rfl

end Opening

/-! ## Kinds of failures -/

structure ReportsStart {α : Type} (tool : String) (ran : Conduct) (result : Except VaultError α) :
    Prop where
  missing : ran = .missing → result = .error (.engineNotInstalled tool)
  refused : ∀ error, ran = .refused error → result = .error (.disk error)

structure ReportsFailure {α : Type} (tool : String) (ran : Conduct)
    (result : Except VaultError α) : Prop extends ReportsStart tool ran result where
  failed : ∀ status complaint output, ran = .exits status complaint output → status ≠ 0 →
    result = .error (.commandFailed tool (complaintText complaint))

/-- How sealing has to end after what the encrypting tool did. -/
structure ClassifiesSealing (tools : ToolNames) (encrypt : Conduct)
    (result : Except VaultError String) : Prop
    extends ReportsFailure tools.encrypt encrypt result where
  ok_iff : ∀ stored, result = .ok stored ↔
    ∃ complaint content, encrypt = .exits 0 complaint (some content) ∧ content ≠ [] ∧
      stored = Base64.encode Base64.standard content
  permitted : result ≠ .error .noPermission

/-- How opening has to end after what the tools did that make the key and decrypt with it. -/
structure ClassifiesOpening (tools : ToolNames) (keygen decrypt : Conduct)
    (result : Except VaultError Secret) : Prop where
  ok_iff : ∀ text, result = .ok ⟨text⟩ ↔ keygen.Succeeds ∧
    ∃ complaint content, decrypt = .exits 0 complaint (some content) ∧ content ≠ [] ∧
      Utf8.decode? content = some text
  denied_iff : result = .error .noPermission ↔ keygen.Succeeds ∧
    ∃ status complaint output, decrypt = .exits status complaint output ∧
      (status ≠ 0 ∨ output = none ∨ output = some [])
  keygenFailure : ReportsFailure tools.keygen keygen result
  decryptStart : keygen.Succeeds → ReportsStart tools.decrypt decrypt result
  illegible : keygen.Succeeds → ∀ complaint content, decrypt = .exits 0 complaint (some content) →
    content ≠ [] → Utf8.decode? content = none →
      result = .error (.malformedCiphertext "plaintext is not utf-8")

private theorem Conduct.sealed_reports (tool : String) (encrypt : Conduct) :
    ReportsFailure tool encrypt (encrypt.sealed tool) where
  missing := by
    rintro rfl
    rfl
  refused := by
    rintro error rfl
    rfl
  failed := by
    rintro status complaint output rfl failed
    obtain ⟨status, rfl⟩ := Nat.exists_eq_succ_of_ne_zero failed
    rfl

private theorem Conduct.sealed_classifies (tools : ToolNames) (encrypt : Conduct) :
    ClassifiesSealing tools encrypt (encrypt.sealed tools.encrypt) := by
  refine ⟨encrypt.sealed_reports tools.encrypt, fun stored => ?_, ?_⟩
  · match encrypt with
    | .missing | .refused error | .exits (status + 1) complaint output | .exits 0 complaint none
    | .exits 0 complaint (some []) => simp [Conduct.sealed]
    | .exits 0 complaint (some (byte :: content)) => simp [Conduct.sealed, eq_comm]
  · match encrypt with
    | .missing | .refused error | .exits (status + 1) complaint output | .exits 0 complaint none
    | .exits 0 complaint (some []) | .exits 0 complaint (some (byte :: content)) =>
      simp [Conduct.sealed]

/-- What a content is as a password depends on whether it is a text, and not an empty one. -/
theorem plaintextOf_of_filled {content : List UInt8} (filled : content ≠ []) :
    plaintextOf content =
      match Utf8.decode? content with
      | some text => .ok ⟨text⟩
      | none => .error (.malformedCiphertext "plaintext is not utf-8") := by
  cases content with
  | nil => exact absurd rfl filled
  | cons byte rest => rfl

section Opened

variable {tools : ToolNames} {keygen decrypt : Conduct}

private theorem Conduct.opened_keygen_reports :
    ReportsFailure tools.keygen keygen (Conduct.opened tools keygen decrypt) where
  missing := by
    rintro rfl
    rfl
  refused := by
    rintro error rfl
    rfl
  failed := by
    rintro status complaint output rfl failed
    obtain ⟨status, rfl⟩ := Nat.exists_eq_succ_of_ne_zero failed
    rfl

private theorem Conduct.opened_decrypt_reports (succeeds : keygen.Succeeds) :
    ReportsStart tools.decrypt decrypt (Conduct.opened tools keygen decrypt) := by
  obtain ⟨complaint, output, rfl⟩ := succeeds
  refine ⟨?_, ?_⟩
  · rintro rfl
    rfl
  · rintro error rfl
    rfl

private theorem Conduct.opened_ok_iff (text : String) :
    Conduct.opened tools keygen decrypt = .ok ⟨text⟩ ↔ keygen.Succeeds ∧
      ∃ complaint content, decrypt = .exits 0 complaint (some content) ∧ content ≠ [] ∧
        Utf8.decode? content = some text := by
  match keygen, decrypt with
  | .missing, _ | .refused error, _ | .exits (status + 1) complaint output, _ =>
    simp [Conduct.opened, Conduct.Succeeds]
  | .exits 0 _ _, .missing | .exits 0 _ _, .refused error
  | .exits 0 _ _, .exits (status + 1) _ output | .exits 0 _ _, .exits 0 _ none
  | .exits 0 _ _, .exits 0 _ (some []) =>
    simp [Conduct.opened, plaintextOf]
  | .exits 0 _ _, .exits 0 _ (some (byte :: content)) =>
    rw [Conduct.opened, plaintextOf_of_filled (List.cons_ne_nil byte content)]
    cases decoded : Utf8.decode? (byte :: content) <;> simp [Conduct.Succeeds, decoded]

/-- A key is said not to fit only where it was made and where decrypting with it came to nothing. -/
theorem Conduct.opened_denied_iff :
    Conduct.opened tools keygen decrypt = .error .noPermission ↔ keygen.Succeeds ∧
      ∃ status complaint output, decrypt = .exits status complaint output ∧
        (status ≠ 0 ∨ output = none ∨ output = some []) := by
  match keygen, decrypt with
  | .missing, _ | .refused error, _ | .exits (status + 1) complaint output, _ =>
    simp [Conduct.opened, Conduct.Succeeds]
  | .exits 0 _ _, .missing | .exits 0 _ _, .refused error
  | .exits 0 _ _, .exits (status + 1) _ output | .exits 0 _ _, .exits 0 _ none
  | .exits 0 _ _, .exits 0 _ (some []) =>
    simp [Conduct.opened, Conduct.Succeeds, plaintextOf]
  | .exits 0 _ _, .exits 0 _ (some (byte :: content)) =>
    rw [Conduct.opened, plaintextOf_of_filled (List.cons_ne_nil byte content)]
    cases Utf8.decode? (byte :: content) <;> simp

private theorem Conduct.opened_classifies :
    ClassifiesOpening tools keygen decrypt (Conduct.opened tools keygen decrypt) where
  ok_iff := opened_ok_iff
  denied_iff := opened_denied_iff
  keygenFailure := opened_keygen_reports
  decryptStart := opened_decrypt_reports
  illegible := by
    rintro ⟨_, _, rfl⟩ complaint content rfl filled illegible
    rw [Conduct.opened, plaintextOf_of_filled filled, illegible]

end Opened

namespace Sample

/-- Encrypting and making a key leave a byte, and decrypting never succeeds. -/
def denying : Command → Disk → Conduct := fun command _ =>
  if command.tool = ToolNames.usual.decrypt then .exits 1 [] none else .exits 0 [] (some [1])

def denyingVault : Vault :=
  { Sample.vault with engine := .commandLine .usual (.doing denying) }

end Sample

namespace Sample

/-- The commands of the vault can be told to the system. -/
theorem denyingVault_tellable {command : Command} {number : String}
    (clean : '\x00' ∉ number.toList)
    (known : command = ToolNames.usual.encryptCommand denyingVault.keys.publicKey
          (Path.child ⟨"", ["scratch", number]⟩ "plain") (Policy.forRole .user)
          (Path.child ⟨"", ["scratch", number]⟩ "plain.cpabe") ∨
      command = ToolNames.usual.keygenCommand denyingVault.keys (KeyAttributes.forRole .admin)
          (Path.child ⟨"", ["scratch", number]⟩ "priv_key") ∨
      command = ToolNames.usual.decryptCommand denyingVault.keys.publicKey
          (Path.child ⟨"", ["scratch", number]⟩ "priv_key")
          (Path.child ⟨"", ["scratch", number]⟩ "sealed.cpabe")
          (Path.child ⟨"", ["scratch", number]⟩ "plain")) : command.isTellable = true := by
  have inScratch (name : String) (cleanName : '\x00' ∉ name.toList) :
      '\x00' ∉ (Path.child ⟨"", ["scratch", number]⟩ name).text.toList :=
    Path.not_mem_text (by decide) (by simp [Path.child]) (by simp [Path.child, clean, cleanName])
  have publicKey : '\x00' ∉ denyingVault.keys.publicKey.text.toList :=
    Path.not_mem_text (by decide) (by decide) (by decide)
  have masterKey : '\x00' ∉ denyingVault.keys.masterKey.text.toList :=
    Path.not_mem_text (by decide) (by decide) (by decide)
  have flag : '\x00' ∉ "-o".toList := by decide
  refine Command.isTellable_iff.mpr ?_
  rcases known with rfl | rfl | rfl
  · simp only [ToolNames.encryptCommand, List.forall_mem_cons]
    exact ⟨by decide, flag, inScratch _ (by decide), publicKey, inScratch _ (by decide),
      (isArgument_policy _).1, List.forall_mem_nil _⟩
  · simp only [ToolNames.keygenCommand, List.forall_mem_cons, List.cons_append, List.nil_append]
    exact ⟨by decide, flag, inScratch _ (by decide), publicKey, masterKey,
      fun word member => (isArgument_attribute _ word member).1⟩
  · simp only [ToolNames.decryptCommand, List.forall_mem_cons]
    exact ⟨by decide, flag, inScratch _ (by decide), publicKey, inScratch _ (by decide),
      inScratch _ (by decide), List.forall_mem_nil _⟩

end Sample

end RoleVault.Vault
