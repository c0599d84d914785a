import RoleVault.Proofs.Vault.Confinement
import RoleVault.Proofs.Vault.Dominance
import RoleVault.Proofs.Vault.KeyFiles
import RoleVault.Proofs.Vault.KeySetup
import RoleVault.Proofs.Vault.Matching

/-!
Contract: a vault behind tools answers like one with the engine inside the program, but that a tool
only complains where the engine says at which file it fails.

Owns:
- `Prepared`, the trees in which the engine does not fail at a file, or may be told from a tool by it;
- that making keys, sealing and opening match, whichever of the two engines does them;
- `Step` and `run`, any sequence of requests to a vault, and `tools_refine_inProcess`;
- the paths with which the two are told apart (`awkward_paths_tell_engines_apart`).

Does not own: what the tools do (`RoleVault.Proofs.Vault.Tools`), or why the engine inside the program
does not fail in a tidy tree (`RoleVault.Proofs.Vault.KeyFiles`).
-/

namespace RoleVault.Vault

open RoleVault.Files RoleVault.Files.Disk RoleVault.Text

/-- The same vault with the engine behind some tools. -/
def behindTools (vault : Vault) (tools : ToolNames) (toolbox : Toolbox) : Vault :=
  { vault with engine := .commandLine tools toolbox }

variable {vault : Vault} {workspace twin after : Workspace} {path : Path}

section Shared

variable {α : Type} (vault : Vault) (tools : ToolNames) (toolbox : Toolbox)

@[simp] theorem keys_behindTools : (vault.behindTools tools toolbox).keys = vault.keys := rfl

@[simp] theorem engine_behindTools :
    (vault.behindTools tools toolbox).engine = .commandLine tools toolbox := rfl

@[simp] theorem keyStatus_behindTools :
    (vault.behindTools tools toolbox).keyStatus = vault.keyStatus := rfl

@[simp] theorem bounded_behindTools :
    (vault.behindTools tools toolbox).bounded = vault.bounded := rfl

@[simp] theorem requirePublicKey_behindTools :
    (vault.behindTools tools toolbox).requirePublicKey = vault.requirePublicKey := rfl

@[simp] theorem requireMasterKey_behindTools :
    (vault.behindTools tools toolbox).requireMasterKey = vault.requireMasterKey := rfl

@[simp] theorem inScratch_behindTools (label : String) (work : Path → Attempt α) :
    (vault.behindTools tools toolbox).inScratch label work = vault.inScratch label work := rfl

end Shared

/-- Once the directories above them are made, both keys are housed. -/
theorem housed_of_created {first second : Workspace}
    (files : ∀ key ∈ vault.keys.both, IsFilePath key)
    (publicCreated : Attempt.exec (Attempt.directories vault.keys.publicKey.parent?) workspace =
      (.ok (), first))
    (masterCreated : Attempt.exec (Attempt.directories vault.keys.masterKey.parent?) first =
      (.ok (), second)) :
    ∀ key ∈ vault.keys.both, Houses second.disk key := by
  obtain ⟨publicParent, publicAbove, publicHoused⟩ :=
    (files vault.keys.publicKey (by simp [KeyPaths.both])).houses
  obtain ⟨masterParent, masterAbove, masterHoused⟩ :=
    (files vault.keys.masterKey (by simp [KeyPaths.both])).houses
  rw [publicAbove] at publicCreated
  rw [masterAbove] at masterCreated
  obtain ⟨publicDone, firstDisk⟩ := Attempt.directories_ok publicCreated
  obtain ⟨masterDone, secondDisk⟩ := Attempt.directories_ok masterCreated
  have grows := createDirectories_extends first.disk masterParent
  have publicHouses : Houses second.disk vault.keys.publicKey := by
    rw [secondDisk]
    refine Houses.keep_directories ?_ grows.home grows.get?
    rw [firstDisk]
    exact publicHoused _ publicDone
  have masterHouses : Houses second.disk vault.keys.masterKey := by
    rw [secondDisk]
    exact masterHoused _ masterDone
  simp [KeyPaths.both, publicHouses, masterHouses]

/-- A file of a short name in a directory that is there can be named to a tool. -/
theorem isGiven_child {scratch : Path} {name : String} (plain : scratch.IsPlain)
    (text : IsPathText scratch.text) (piece : IsPiece name) (clean : '\x00' ∉ name.toList)
    (short : name.utf8ByteSize ≤ maxNameSize) : IsGiven (scratch.child name) := by
  obtain ⟨noNul, _, size⟩ := text
  have joined := size_join_le scratch.text name
  refine ⟨plain.child piece, ?_, ?_⟩ <;> rw [Path.text_child]
  · rw [Path.mem_join (by decide)]
    exact not_or.mpr ⟨by simpa [String.contains_char_eq] using noNul, clean⟩
  · have limits : maxPathSize + (maxNameSize + 1) ≤ maxArgumentSize := by decide
    omega

/-! ## What may be told apart -/

variable {apart : String → VaultError → VaultError → Prop}

/-- A tree of files in which the engine does not fail at a file, unless the complaint of a tool about
it may be told apart. -/
structure Prepared (apart : String → VaultError → VaultError → Prop) (vault : Vault)
    (disk : Disk) : Prop where
  tree : IsTree disk
  smooth : Tidy vault disk ∨
    ∀ tool failure twin, Complains tool failure twin → apart tool failure twin

private theorem Prepared.mayComplain {disk : Disk} {tool : String} {result : Except VaultError Unit}
    (prepared : Prepared apart vault disk) (ends : Scheme.EndsAtFiles result)
    (succeeds : Tidy vault disk → result = .ok ()) : MayComplain (apart tool) tool result := by
  rcases prepared.smooth with tidy | complains
  · exact .inl (succeeds tidy)
  · rcases ends with done | ⟨reason, fails⟩
    · exact .inl done
    · exact .inr ⟨reason, fails, fun complaint => complains tool _ _ ⟨reason, complaint, rfl, rfl⟩⟩

/-- Creating one of its directories leaves a vault prepared. -/
theorem Prepared.directories {path? : Option Path}
    (prepared : Prepared apart vault workspace.disk) (among : ∀ root ∈ path?, root ∈ vault.roots) :
    Prepared apart vault (Attempt.exec (Attempt.directories path?) workspace).2.disk := by
  cases path? with
  | none => exact prepared
  | some root =>
    exact ⟨createDirectories_isTree prepared.tree root,
      prepared.smooth.imp_left fun tidy => tidy.directories (among root rfl)⟩

/-- So does work in a scratch directory of its own. -/
theorem Prepared.inScratch {α : Type} {label : String} {work : Path → Attempt α}
    (prepared : Prepared apart vault workspace.disk)
    (keeps : ∀ scratch, KeepsTo scratch (work scratch)) :
    Prepared apart vault (Attempt.exec (vault.inScratch label work) workspace).2.disk :=
  ⟨(inScratch_same prepared.tree fun _ => keeps _).isTree (createDirectories_isTree prepared.tree _),
    prepared.smooth.imp_left fun tidy => tidy.inScratch keeps⟩

/-- So does the removal of a key. -/
theorem Prepared.removeKey {key : Path} (prepared : Prepared apart vault workspace.disk)
    (member : key ∈ vault.keys.both) : Prepared apart vault (workspace.disk.removeTree key) :=
  ⟨removeTree_isTree prepared.tree key, prepared.smooth.imp_left fun tidy => tidy.removeKey member⟩

section Requests

variable {tools : ToolNames} {toolbox : Toolbox} (inProcess : vault.engine = .inProcess false)
variable (emulates : Emulates tools toolbox) (given : ∀ key ∈ vault.keys.both, IsGiven key)
variable (prepared : Prepared apart vault workspace.disk) (alike : Alike workspace twin)

include inProcess emulates given prepared alike

/-- In a tidy tree making keys does not fail in the engine: the directories that they go to are there
by then, and nothing stands in their way. -/
theorem setup_matches (force : Bool) :
    Matches (apart tools.setup) (Prepared apart vault) (vault.setup force)
      ((vault.behindTools tools toolbox).setup force) workspace twin := by
  have publicGiven := given vault.keys.publicKey (by simp [KeyPaths.both])
  have masterGiven := given vault.keys.masterKey (by simp [KeyPaths.both])
  rw [Vault.setup, Vault.setup, inProcess]
  simp only [keys_behindTools, engine_behindTools, keyStatus_behindTools, bounded_behindTools,
    requirePublicKey_behindTools, requireMasterKey_behindTools]
  refine Matches.bind (.observe alike rfl prepared) fun _ start _ checked _ alike => ?_
  obtain rfl : workspace = start := congrArg Prod.snd checked
  refine Matches.bind ((isBlind_directories _).matches alike
      (prepared.directories fun root above => by simp_all [roots]))
    fun _ first _ publicCreated firstPrepared alike => ?_
  refine Matches.bind ((isBlind_directories _).matches alike
      (firstPrepared.directories fun root above => by simp_all [roots]))
    fun _ second twinSecond masterCreated secondPrepared alike => ?_
  have makes (tidy : Tidy vault second.disk) :
      ∃ made, Scheme.setup vault.keys second.disk = (.ok (), made) ∧ Tidy vault made :=
    tidy.setup (housed_of_created tidy.laidOut.keyPaths publicCreated masterCreated)
  have ends : MayComplain (apart tools.setup) tools.setup
      (Scheme.setup vault.keys second.disk).1 := by
    refine secondPrepared.mayComplain (Scheme.setup_ends _ _) fun tidy => ?_
    obtain ⟨made, done, _⟩ := makes tidy
    rw [done]
  have made : Prepared apart vault (Scheme.setup vault.keys second.disk).2 := by
    refine ⟨(Scheme.setup_keepsTo vault.keys second.disk).isTree secondPrepared.tree,
      secondPrepared.smooth.imp_left fun tidy => ?_⟩
    obtain ⟨made, done, madeTidy⟩ := makes tidy
    rw [done]
    exact madeTidy
  refine Matches.bind (.bounded alike (inProcess_setup_follows _ _)
      (setup_tells emulates publicGiven masterGiven (by rwa [← alike.disk])) made)
    fun _ third _ _ thirdPrepared alike => ?_
  refine Matches.bind (.observe alike rfl thirdPrepared) fun _ fourth _ _ fourthPrepared alike => ?_
  exact .observe alike rfl fourthPrepared

variable (scratchPlain : vault.scratchRoot.IsPlain)

include scratchPlain

/-- In a tidy tree encrypting does not fail in the engine: the public key is there, and the paths in
the new scratch directory are not too long. -/
theorem sealFor_matches (role : Role) (password : Secret) :
    Matches (apart tools.encrypt) (Prepared apart vault) (vault.sealFor role password)
      ((vault.behindTools tools toolbox).sealFor role password) workspace twin := by
  have publicGiven := given vault.keys.publicKey (by simp [KeyPaths.both])
  rw [Vault.sealFor, Vault.sealFor, inProcess]
  simp only [keys_behindTools, engine_behindTools, bounded_behindTools,
    requirePublicKey_behindTools, inScratch_behindTools]
  refine Matches.bind (.observe alike rfl prepared) fun _ start _ checked _ alike => ?_
  obtain ⟨rfl, present⟩ := Attempt.require_ok checked
  refine Matches.inScratch alike (fun scratch made _ creates alike => ?_) (prepared.inScratch ?_)
  · obtain ⟨place, before, grows, working, empty⟩ := createScratch_empty prepared.tree creates
    have plain := scratch_plain scratchPlain (by decide) creates
    have inputGiven : IsGiven (scratch.child "plain") :=
      isGiven_child plain working.text (by decide) (by decide) (by decide)
    have outputGiven : IsGiven (scratch.child "plain.cpabe") :=
      isGiven_child plain working.text (by decide) (by decide) (by decide)
    refine Matches.bind ((isBlind_change _).matches alike trivial)
      fun _ filled _ changed _ alike => ?_
    have inputWritten := Attempt.change_ok changed
    obtain ⟨_, filledWorking, _, beside⟩ := working.written (by decide) inputWritten
    have publicExists : filled.disk.exists? vault.keys.publicKey = true :=
      exists?_of_isFile (filledWorking.isFile (isFile_extend grows present))
    have ends : MayComplain (apart tools.encrypt) tools.encrypt
        (Scheme.encrypt vault.keys.publicKey (scratch.child "plain") (Policy.forRole role)
          (scratch.child "plain.cpabe") filled.disk).1 := by
      refine prepared.mayComplain ?_ fun tidy => ?_
      · rw [Scheme.encrypt_writing _ publicExists (read_write inputWritten)]
        exact Scheme.writing_ends _ _ Scheme.finish_ends _
      · obtain ⟨_, fits⟩ := scratch_fits tidy.laidOut (by decide) creates
        have outputText : IsPathText (scratch.child "plain.cpabe").text :=
          isPathText_child working.text (by decide) (by decide) fits
        obtain ⟨encrypted, outputWritten, _⟩ := filledWorking.write_new _ (by decide) outputText
          ((beside _ (by decide)).trans (empty _))
        rw [Scheme.encrypt_succeeds _ publicExists (read_write inputWritten) outputWritten]
    refine Matches.bind (.bounded alike (inProcess_encrypt_follows _ _ _ _ _)
        (encrypt_tells emulates publicGiven inputGiven outputGiven (by rwa [← alike.disk])) trivial)
      fun _ last _ called _ alike => .observe alike ?_ trivial
    -- the names of the engines differ, but would be told only if there were no ciphertext
    obtain ⟨bytes, ⟨content, _, rfl⟩, outputWritten⟩ :=
      bounded_ok (encrypt_writes false _ _ _ _) called
    rw [read_write outputWritten]
    cases framed : Scheme.frame (Policy.forRole role) content with
    | nil => exact absurd framed (frame_ne_nil role _)
    | cons first rest => rfl
  · intro scratch
    refine .bind (.write (by decide) _) fun _ => .bind ?_ fun _ => .observe _
    exact .boundedCall (by decide) (encrypt_writes false _ _ _ _)

/-- In a tidy tree the only failure of the engine in opening is that the key does not fit.  Decrypting
never fails at a file: its output has a shorter name than its input, which has been written. -/
theorem openWith_matches (role : Role) (stored : String) :
    Matches (apart tools.keygen) (Prepared apart vault) (vault.openWith role stored)
      ((vault.behindTools tools toolbox).openWith role stored) workspace twin := by
  have publicGiven := given vault.keys.publicKey (by simp [KeyPaths.both])
  have masterGiven := given vault.keys.masterKey (by simp [KeyPaths.both])
  rw [Vault.openWith, Vault.openWith, inProcess]
  simp only [keys_behindTools, engine_behindTools, bounded_behindTools,
    requirePublicKey_behindTools, requireMasterKey_behindTools, inScratch_behindTools]
  refine Matches.bind ((isBlind_done _).matches alike prepared)
    fun ciphertext start _ decoded _ alike => ?_
  obtain rfl : workspace = start := congrArg Prod.snd decoded
  refine Matches.bind (.observe alike rfl prepared) fun _ start _ checked _ alike => ?_
  obtain ⟨rfl, _⟩ := Attempt.require_ok checked
  refine Matches.bind (.observe alike rfl prepared) fun _ start _ checked _ alike => ?_
  obtain ⟨rfl, present⟩ := Attempt.require_ok checked
  refine Matches.inScratch alike (fun scratch made _ creates alike => ?_) (prepared.inScratch ?_)
  · obtain ⟨place, before, grows, working, empty⟩ := createScratch_empty prepared.tree creates
    have plain := scratch_plain scratchPlain (by decide) creates
    have keyGiven : IsGiven (scratch.child "priv_key") :=
      isGiven_child plain working.text (by decide) (by decide) (by decide)
    have inputGiven : IsGiven (scratch.child "sealed.cpabe") :=
      isGiven_child plain working.text (by decide) (by decide) (by decide)
    have outputGiven : IsGiven (scratch.child "plain") :=
      isGiven_child plain working.text (by decide) (by decide) (by decide)
    have masterExists : made.disk.exists? vault.keys.masterKey = true :=
      exists?_of_isFile (working.isFile (isFile_extend grows present))
    have ends : MayComplain (apart tools.keygen) tools.keygen
        (Scheme.keygen vault.keys (KeyAttributes.forRole role) (scratch.child "priv_key")
          made.disk).1 := by
      refine prepared.mayComplain ?_ fun tidy => ?_
      · rw [Scheme.keygen_writing masterExists]
        exact Scheme.writing_ends _ _ Scheme.finish_ends _
      · obtain ⟨_, fits⟩ := scratch_fits tidy.laidOut (by decide) creates
        have keyText : IsPathText (scratch.child "priv_key").text :=
          isPathText_child working.text (by decide) (by decide) fits
        obtain ⟨keyed, keyWritten, _⟩ := working.write_new _ (by decide) keyText (empty _)
        rw [Scheme.keygen_succeeds masterExists keyWritten]
    refine Matches.bind (.bounded alike (inProcess_keygen_follows _ _ _ _)
        (keygen_tells emulates publicGiven masterGiven keyGiven (by rwa [← alike.disk])) trivial)
      fun _ keyed _ called _ alike => ?_
    obtain ⟨_, rfl, keyWritten⟩ := bounded_ok (keygen_writes false _ _ _) called
    obtain ⟨keyText, keyedWorking, keyStands, keyBeside⟩ := working.written (by decide) keyWritten
    refine Matches.bind ((isBlind_change _).matches alike trivial)
      fun _ filled _ changed _ alike => ?_
    have inputWritten := Attempt.change_ok changed
    obtain ⟨inputText, filledWorking, _, inputBeside⟩ :=
      keyedWorking.written (by decide) inputWritten
    have holds : Scheme.keyRole filled.disk (scratch.child "priv_key") = .ok role :=
      keyRole_written filledWorking.leads keyText ((inputBeside _ (by decide)).trans keyStands)
    have outputText : IsPathText (scratch.child "plain").text :=
      isPathText_child working.text (by decide) (by decide) inputText.2.2
    have outputFree : filled.disk.get? (place ++ ["plain"]) = none := by
      rw [inputBeside _ (by decide), keyBeside _ (by decide), empty]
    have ends := Scheme.decrypt_ends holds (read_write inputWritten) fun opened =>
      (filledWorking.write_new opened (by decide) outputText outputFree).imp fun _ => And.left
    exact Matches.bind (.bounded alike (inProcess_decrypt_follows _ _ _ _ _)
        (decrypt_tells emulates publicGiven keyGiven inputGiven outputGiven
          (by rwa [← alike.disk])) trivial)
      fun _ last _ _ _ alike => .observe alike rfl trivial
  · intro scratch
    refine .bind ?_ fun _ => .bind (.write (by decide) _) fun _ => .bind ?_ fun _ => .observe _
    · exact .boundedCall (by decide) (keygen_writes false _ _ _)
    · exact .boundedCall (by decide) (decrypt_writes false _ _ _ _)

end Requests

/-! ## Sequences of requests -/

/-- What a vault can be asked for, and what can happen to its keys. -/
inductive Step where
  | setup (force : Bool)
  | keyStatus
  | sealFor (role : Role) (password : String)
  | openWith (role : Role) (stored : String)
  | removePublicKey
  | removeMasterKey
deriving DecidableEq, Repr

/-- What a step is answered with. -/
inductive Answer where
  | done (outcome : Except VaultError Unit)
  | status (status : KeyStatus)
  | sealed (outcome : Except VaultError String)
  | opened (outcome : Except VaultError Secret)

def perform (vault : Vault) (workspace : Workspace) : Step → Answer × Workspace
  | .setup force => (Attempt.exec (vault.setup force) workspace).map .done id
  | .keyStatus => (.status (vault.keyStatus workspace.disk), workspace)
  | .sealFor role password =>
    (Attempt.exec (vault.sealFor role ⟨password⟩) workspace).map .sealed id
  | .openWith role stored => (Attempt.exec (vault.openWith role stored) workspace).map .opened id
  | .removePublicKey =>
    (.done (.ok ()), { workspace with disk := workspace.disk.removeTree vault.keys.publicKey })
  | .removeMasterKey =>
    (.done (.ok ()), { workspace with disk := workspace.disk.removeTree vault.keys.masterKey })

/-- The answers to some steps, one after the other, and what they leave. -/
def run (vault : Vault) (workspace : Workspace) : List Step → List Answer × Workspace
  | [] => ([], workspace)
  | step :: rest =>
    let (answer, between) := vault.perform workspace step
    let (answers, after) := vault.run between rest
    (answer :: answers, after)

/-- Answers that are the same, up to failures of the tool in use that are told apart: setup makes keys,
sealing encrypts, and opening makes a private key. -/
inductive Answer.Agree (apart : String → VaultError → VaultError → Prop) (tools : ToolNames) :
    Answer → Answer → Prop where
  | done {outcome twin : Except VaultError Unit} (told : Told (apart tools.setup) outcome twin) :
    Agree apart tools (.done outcome) (.done twin)
  | status (status : KeyStatus) : Agree apart tools (.status status) (.status status)
  | sealed {outcome twin : Except VaultError String}
    (told : Told (apart tools.encrypt) outcome twin) :
    Agree apart tools (.sealed outcome) (.sealed twin)
  | opened {outcome twin : Except VaultError Secret}
    (told : Told (apart tools.keygen) outcome twin) :
    Agree apart tools (.opened outcome) (.opened twin)

/-- Answers that agree with equal failures are the same. -/
theorem Answer.Agree.eq {tools : ToolNames} {answer twin : Answer}
    (agree : Answer.Agree (fun _ => Eq) tools answer twin) : answer = twin := by
  cases agree with
  | done told => rw [told.eq fun _ _ => id]
  | status => rfl
  | sealed told => rw [told.eq fun _ _ => id]
  | opened told => rw [told.eq fun _ _ => id]

section Steps

variable {tools : ToolNames} {toolbox : Toolbox} (inProcess : vault.engine = .inProcess false)
variable (emulates : Emulates tools toolbox) (given : ∀ key ∈ vault.keys.both, IsGiven key)
variable (scratchPlain : vault.scratchRoot.IsPlain)

include inProcess emulates given scratchPlain

private theorem perform_matches (prepared : Prepared apart vault workspace.disk)
    (alike : Alike workspace twin) (step : Step) :
    Answer.Agree apart tools (vault.perform workspace step).1
        ((vault.behindTools tools toolbox).perform twin step).1 ∧
      Alike (vault.perform workspace step).2
        ((vault.behindTools tools toolbox).perform twin step).2 ∧
      Prepared apart vault (vault.perform workspace step).2.disk := by
  cases step with
  | setup force =>
    obtain ⟨outcome, still, kept⟩ := setup_matches inProcess emulates given prepared alike force
    exact ⟨.done outcome, still, kept⟩
  | keyStatus =>
    refine ⟨?_, alike, prepared⟩
    rw [perform, perform, alike.disk]
    exact .status _
  | sealFor role password =>
    obtain ⟨outcome, still, kept⟩ :=
      sealFor_matches inProcess emulates given prepared alike scratchPlain role ⟨password⟩
    exact ⟨.sealed outcome, still, kept⟩
  | openWith role stored =>
    obtain ⟨outcome, still, kept⟩ :=
      openWith_matches inProcess emulates given prepared alike scratchPlain role stored
    exact ⟨.opened outcome, still, kept⟩
  | removePublicKey =>
    refine ⟨.done (.same _), ⟨?_, alike.nextScratch⟩, prepared.removeKey (by simp [KeyPaths.both])⟩
    exact congrArg (·.removeTree vault.keys.publicKey) alike.disk
  | removeMasterKey =>
    refine ⟨.done (.same _), ⟨?_, alike.nextScratch⟩, prepared.removeKey (by simp [KeyPaths.both])⟩
    exact congrArg (·.removeTree vault.keys.masterKey) alike.disk

private theorem run_matches (prepared : Prepared apart vault workspace.disk)
    (alike : Alike workspace twin) (steps : List Step) :
    List.Forall₂ (Answer.Agree apart tools) (vault.run workspace steps).1
        ((vault.behindTools tools toolbox).run twin steps).1 ∧
      Alike (vault.run workspace steps).2
        ((vault.behindTools tools toolbox).run twin steps).2 := by
  induction steps generalizing workspace twin with
  | nil => exact ⟨.nil, alike⟩
  | cons step rest inductionHypothesis =>
    obtain ⟨answered, still, kept⟩ :=
      perform_matches inProcess emulates given scratchPlain prepared alike step
    obtain ⟨answers, after⟩ := inductionHypothesis kept still
    exact ⟨.cons answered answers, after⟩

end Steps

/-- Whatever it is asked for, and whatever happens to its keys, a vault behind tools that do what the
scheme does answers like one that runs the scheme itself and leaves the same files.  Only where the
scheme itself fails at a file are the two told apart, for of that a tool does no more than complain; in
a tidy tree this never happens. -/
theorem tools_refine_inProcess {vault : Vault} {tools : ToolNames} {toolbox : Toolbox}
    (inProcess : vault.engine = .inProcess false) (emulates : Emulates tools toolbox)
    (given : ∀ key ∈ vault.keys.both, IsGiven key) (scratchPlain : vault.scratchRoot.IsPlain)
    {start : Workspace} (tree : IsTree start.disk) (steps : List Step) :
    List.Forall₂ (Answer.Agree Complains tools) (vault.run start steps).1
        ((vault.behindTools tools toolbox).run start steps).1 ∧
      ((vault.behindTools tools toolbox).run start steps).2.disk =
        (vault.run start steps).2.disk ∧
      (Tidy vault start.disk →
        ((vault.behindTools tools toolbox).run start steps).1 = (vault.run start steps).1) := by
  have told : Prepared Complains vault start.disk := ⟨tree, .inr fun _ _ _ => id⟩
  obtain ⟨answers, after⟩ :=
    run_matches inProcess emulates given scratchPlain told ⟨rfl, rfl⟩ steps
  refine ⟨answers, after.disk.symm, fun tidy => ?_⟩
  have exact : Prepared (fun _ => Eq) vault start.disk := ⟨tree, .inl tidy⟩
  obtain ⟨answers, _⟩ :=
    run_matches inProcess emulates given scratchPlain exact ⟨rfl, rfl⟩ steps
  exact (List.forall₂_eq_eq_eq ▸ answers.imp fun _ _ => Answer.Agree.eq).symm

namespace Sample

theorem places :
    Sample.vault.keys.publicKey.place [] = ["keys", "pub_key"] ∧
      Sample.vault.keys.masterKey.place [] = ["keys", "master_key"] ∧
      Sample.vault.scratchRoot.places [] = [[], ["scratch"]] := by
  refine ⟨?_, ?_, ?_⟩ <;> cbv

theorem laidOut : IsLaidOut Sample.vault [] := by
  obtain ⟨publicKey, masterKey, scratch⟩ := places
  have steps : Path.steps ⟨"", ["keys"]⟩ = ["", "keys"] := by cbv
  refine isLaidOut_inDirectory rfl (by decide) ?_ ?_ (by decide) (by cbv) ?_
  · rw [steps]
    decide
  · have publicText : IsPathText Sample.vault.keys.publicKey.text := ⟨by cbv, by cbv, by cbv⟩
    have masterText : IsPathText Sample.vault.keys.masterKey.text := ⟨by cbv, by cbv, by cbv⟩
    simp [KeyPaths.both, publicText, masterText]
  · simp [KeyPaths.both, publicKey, masterKey, scratch]

/-- No files at all. -/
theorem tidy : Tidy Sample.vault {} where
  laidOut := laidOut
  tree := isTree_of_entries (by decide)
  clear := by
    obtain ⟨publicKey, masterKey, _⟩ := places
    have absent : ({} : Disk).get? ["keys", "pub_key"] = none ∧
        ({} : Disk).get? ["keys", "master_key"] = none := by decide
    change ∀ key ∈ Sample.vault.keys.both, ({} : Disk).get? (key.place []) ≠ some .directory
    simp [KeyPaths.both, publicKey, masterKey, absent]

theorem given : ∀ key ∈ Sample.vault.keys.both, IsGiven key := by
  have file : ∀ key ∈ Sample.vault.keys.both, IsFilePath key := laidOut.keyPaths
  exact fun key member => ⟨(file key member).plain, isArgument_text (file key member).text⟩

/-- Keys are made, used and lost. -/
def steps : List Step :=
  [.sealFor .admin "p@ssw0rd", .setup false, .keyStatus, .sealFor .admin "p@ssw0rd",
    .openWith .operator (sealedText .admin "p@ssw0rd"),
    .openWith .user (sealedText .admin "p@ssw0rd"), .openWith .user "p@ssw0rd", .removeMasterKey,
    .openWith .operator (sealedText .admin "p@ssw0rd"), .setup false, .setup true, .keyStatus]

end Sample

/-- A vault with usual paths gets the same answers from both engines, failures and wrong roles among
them. -/
theorem usual_tools_refine_inProcess :
    Emulates .usual .scheme ∧ Tidy Sample.vault ({} : Workspace).disk ∧
      ((Sample.vault.behindTools .usual .scheme).run {} Sample.steps).1 =
        (Sample.vault.run {} Sample.steps).1 ∧
      ((Sample.vault.behindTools .usual .scheme).run {} Sample.steps).2.disk =
        (Sample.vault.run {} Sample.steps).2.disk := by
  have tree : IsTree ({} : Workspace).disk := Sample.tidy.tree
  obtain ⟨_, disk, answers⟩ := tools_refine_inProcess rfl scheme_emulates Sample.given
    (by decide : Sample.vault.scratchRoot.IsPlain) tree Sample.steps
  exact ⟨scheme_emulates, Sample.tidy, answers Sample.tidy, disk⟩

/-! ## A scratch root in the place of a key -/

/-- Where a directory stands in the place of the master key, the scheme makes the public key and then
fails. -/
theorem scheme_setup_blocked {directory : Path} {disk : Disk} {place : Location}
    {content : List UInt8}
    (leads : Leads disk (disk.origin directory) directory.steps place .directory)
    (there : disk.find? (directory.child "pub_key") = some (.file content))
    (blocked : disk.find? (directory.child "master_key") = some .directory) :
    (Scheme.setup (.inDirectory directory) disk).1 = .error (.disk .isADirectory) := by
  obtain ⟨publicName, masterName⟩ := keyNames
  obtain ⟨publicPlace, resolved⟩ := find?_eq_some_iff.mp there
  have publicWritten : disk.write (directory.child "pub_key")
      (Utf8.encode "fake public parameters") =
        .ok (disk.put publicPlace (.file (Utf8.encode "fake public parameters"))) := by
    rw [Disk.write, resolved]
    rfl
  have still := find?_write_child leads publicName masterName (by decide) publicWritten
  rw [blocked] at still
  simp [Scheme.setup, Scheme.writing, KeyPaths.inDirectory, publicWritten, write_directory still]

/-- A setup ends in the failure of the engine where the directory of the keys is there. -/
theorem setup_fails {directory : Path} {failure : VaultError}
    (keys : vault.keys = .inDirectory directory)
    (stands : workspace.disk.isDirectory directory.direct = true)
    (fails : (vault.engine.setup (.inDirectory directory) workspace).1 =
      .ended (.error failure)) :
    (Attempt.exec (vault.setup true) workspace).1 = .error failure := by
  rw [exec_setup keys (by simp), createDirectories_present stands]
  simp only
  rw [Attempt.exec_bind, exec_ended .setup fails]

/-- Sealing with a public key leaves nothing but the scratch root. -/
theorem sealFor_same (inProcess : vault.engine = .inProcess false) (tree : IsTree workspace.disk)
    (present : workspace.disk.isFile vault.keys.publicKey = true) (role : Role)
    (password : Secret) :
    Same (workspace.disk.createDirectories vault.scratchRoot).2
      (Attempt.exec (vault.sealFor role password) workspace).2.disk := by
  have passes : Attempt.exec vault.requirePublicKey workspace = (.ok (), workspace) := by
    rw [Vault.requirePublicKey, Attempt.exec_observe, if_pos present]
  rw [Vault.sealFor, Attempt.exec_bind_ok passes, inProcess]
  refine inScratch_same tree fun _ => .bind (.write (by decide) _) fun _ => .bind ?_ fun _ =>
    .observe _
  exact .boundedCall (by decide) (encrypt_writes false _ _ _ _)

/-- The last answer is that to the last step. -/
theorem getLast?_run (vault : Vault) (workspace : Workspace) (steps : List Step) (last : Step) :
    (vault.run workspace (steps ++ [last])).1.getLast? =
      some (vault.perform (vault.run workspace steps).2 last).1 := by
  induction steps generalizing workspace with
  | nil => rfl
  | cons step rest inductionHypothesis =>
    have further := inductionHypothesis (vault.perform workspace step).2
    simp only [List.cons_append, run, List.getLast?_cons, further]
    rfl

namespace Sample

def crossedVault : Vault :=
  { Sample.vault with scratchRoot := ⟨"", ["keys", "master_key"]⟩ }

def crossing : List Step :=
  [.setup false, .removeMasterKey, .sealFor .user "rootpass1"]

def paired : Workspace where
  disk := { entries := [(["keys", "master_key"], .file (Utf8.encode "fake master secret")),
    (["keys", "pub_key"], .file (Utf8.encode "fake public parameters")), (["keys"], .directory)] }

def bereft : Workspace where
  disk := { entries := [(["keys", "pub_key"], .file (Utf8.encode "fake public parameters")),
    (["keys"], .directory)] }

/-- The public key, and a directory in the place of the master key. -/
def crossed : Disk where
  entries := [(["keys", "master_key"], .directory),
    (["keys", "pub_key"], .file (Utf8.encode "fake public parameters")), (["keys"], .directory)]

private theorem paired_made :
    Attempt.exec (crossedVault.setup false) {} = (.ok (), paired) := by cbv

private theorem bereft_left :
    crossedVault.perform paired .removeMasterKey = (.done (.ok ()), bereft) := by
  cbv

private theorem crossed_created :
    (bereft.disk.createDirectories crossedVault.scratchRoot).2 = crossed := by
  cbv

private theorem crossed_found :
    crossed.find? (Files.Path.child ⟨"", ["keys"]⟩ "pub_key") =
        some (.file (Utf8.encode "fake public parameters")) ∧
      crossed.find? (Files.Path.child ⟨"", ["keys"]⟩ "master_key") = some .directory ∧
      crossed.find? (Files.Path.direct ⟨"", ["keys"]⟩) = some .directory ∧
      crossed.find? ⟨"", ["keys"]⟩ = some .directory := by
  refine ⟨?_, ?_, ?_, ?_⟩ <;> cbv

/-- After the crossing, the scheme cannot make the keys. -/
theorem crossed_blocked :
    let disk := (crossedVault.run {} crossing).2.disk
    disk.isDirectory (Files.Path.direct ⟨"", ["keys"]⟩) = true ∧
      (Scheme.setup (.inDirectory ⟨"", ["keys"]⟩) disk).1 = .error (.disk .isADirectory) := by
  have ends : (crossedVault.run {} crossing).2 =
      (Attempt.exec (crossedVault.sealFor .user ⟨"rootpass1"⟩) bereft).2 := by
    have made : crossedVault.perform {} (.setup false) = (.done (.ok ()), paired) := by
      rw [perform, paired_made]
      rfl
    rw [crossing, run, made]
    simp only
    rw [run, bereft_left]
    rfl
  have tree : IsTree bereft.disk := isTree_of_entries (by decide)
  have present : bereft.disk.isFile crossedVault.keys.publicKey = true := by cbv
  have same : Same (bereft.disk.createDirectories crossedVault.scratchRoot).2
      (Attempt.exec (crossedVault.sealFor .user ⟨"rootpass1"⟩) bereft).2.disk :=
    sealFor_same rfl tree present .user ⟨"rootpass1"⟩
  rw [crossed_created] at same
  obtain ⟨publicKey, masterKey, direct, directory⟩ := crossed_found
  have found {path : Files.Path} {entry : Entry} (before : crossed.find? path = some entry) :=
    find?_extend same.extends before
  obtain ⟨place, resolved⟩ := find?_eq_some_iff.mp (found directory)
  intro disk
  have leads := (resolve_eq_entry_iff.mp resolved).2
  rw [← ends] at found leads
  refine ⟨?_, scheme_setup_blocked leads (found publicKey) (found masterKey)⟩
  rw [isDirectory, found direct]
  rfl

/-- Of what stops the scheme, its setup tool complains. -/
theorem crossed_complains {workspace : Workspace}
    (blocked : (Scheme.setup (.inDirectory ⟨"", ["keys"]⟩) workspace.disk).1 =
      .error (.disk .isADirectory)) :
    ((Engine.commandLine .usual .scheme).setup (.inDirectory ⟨"", ["keys"]⟩) workspace).1 =
      .ended (.error
        (.commandFailed "cpabe-setup" "io error: Is a directory (os error 21)")) := by
  have publicGiven := given Sample.vault.keys.publicKey (by simp [KeyPaths.both])
  have masterGiven := given Sample.vault.keys.masterKey (by simp [KeyPaths.both])
  have documented : Documented .usual
      (ToolNames.usual.setupCommand (.inDirectory ⟨"", ["keys"]⟩))
      (Scheme.setup (.inDirectory ⟨"", ["keys"]⟩)) := by
    have written : Scheme.setup (.inDirectory ⟨"", ["keys"]⟩) = _ :=
      (setup_written publicGiven.plain masterGiven.plain).symm
    rw [written]
    exact .setup _ _
  have fits : ∀ word ∈ (ToolNames.usual.setupCommand (.inDirectory ⟨"", ["keys"]⟩)).arguments,
      IsArgument word := by
    have flags : IsArgument "-p" ∧ IsArgument "-m" := by decide
    simpa [ToolNames.setupCommand, flags] using ⟨publicGiven.argument, masterGiven.argument⟩
  have complaint : complaintText (Utf8.encode (VaultError.disk .isADirectory).message) =
      "io error: Is a directory (os error 21)" := by decide
  change Outcome.ended (ToolResult.checked _ (Toolbox.start _ _ workspace.disk).1) = _
  rw [scheme_start documented fits, blocked, ← complaint]
  rfl

def unspeakableVault : Vault :=
  { Sample.vault with keys := ⟨⟨"", ["pub_key"]⟩, ⟨"", ["master\x00key"]⟩⟩ }

end Sample

/-- Where the scratch root is the path of a key, the engine inside the program can fail at a file,
and then the tool that does the same complains.  Where the path of a key cannot be given to a tool, the
engine still writes the other key, which the tool never comes to. -/
theorem awkward_paths_tell_engines_apart :
    Emulates .usual .scheme ∧ Vault.keyStatus Sample.crossedVault {} = ⟨false, false⟩ ∧
      (Sample.crossedVault.run {} (Sample.crossing ++ [.setup true])).1.getLast? =
        some (.done (.error (.disk .isADirectory))) ∧
      ((Sample.crossedVault.behindTools .usual .scheme).run {}
          (Sample.crossing ++ [.setup true])).1.getLast? =
        some (.done (.error
          (.commandFailed "cpabe-setup" "io error: Is a directory (os error 21)"))) ∧
      (Sample.unspeakableVault.run {} [.setup false]).2.disk.isFile ⟨"", ["pub_key"]⟩ = true ∧
      ((Sample.unspeakableVault.behindTools .usual .scheme).run {} [.setup false]).2.disk.isFile
        ⟨"", ["pub_key"]⟩ = false := by
  have given : ∀ key ∈ Sample.crossedVault.keys.both, IsGiven key := Sample.given
  have prepared : Prepared Complains Sample.crossedVault ({} : Workspace).disk :=
    ⟨isTree_of_entries (by decide), .inr fun _ _ _ => id⟩
  have alike : Alike (Sample.crossedVault.run {} Sample.crossing).2
      ((Sample.crossedVault.behindTools .usual .scheme).run {} Sample.crossing).2 :=
    (run_matches rfl scheme_emulates given (by decide) prepared ⟨rfl, rfl⟩ Sample.crossing).2
  obtain ⟨stands, blocked⟩ := Sample.crossed_blocked
  have fails : (Attempt.exec (Sample.crossedVault.setup true)
      (Sample.crossedVault.run {} Sample.crossing).2).1 = .error (.disk .isADirectory) :=
    setup_fails rfl stands (congrArg Outcome.ended blocked)
  rw [alike.disk] at stands blocked
  have complains : (Attempt.exec ((Sample.crossedVault.behindTools .usual .scheme).setup true)
      ((Sample.crossedVault.behindTools .usual .scheme).run {} Sample.crossing).2).1 = _ :=
    setup_fails rfl stands (Sample.crossed_complains blocked)
  refine ⟨scheme_emulates, by cbv, ?_, ?_, by cbv, by cbv⟩ <;> rw [getLast?_run]
  · exact congrArg (fun outcome => some (Answer.done outcome)) fails
  · exact congrArg (fun outcome => some (Answer.done outcome)) complains

end RoleVault.Vault
