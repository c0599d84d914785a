import RoleVault.Proofs.Vault.Residue

/-!
Contract: watching which private keys an engine is asked for.

Owns:
- `Engine.noting`, an engine that also notes the path of each private key that it is asked for,
  whether or not it goes on to make the key;
- that a vault with such an engine matches the one with the engine itself, so that what is noted of
  the one holds of the other;
- `NotesInOrder`: the keys that a request asks for are those in scratch directories of its own, of
  which no two have the same number.

Does not own: what is left in those directories (`RoleVault.Proofs.Vault.Residue`).
-/

namespace RoleVault.Vault

open RoleVault.Files RoleVault.Files.Disk

/-- A call that also notes some paths, in the place of what it would note itself. -/
def noting (handed : List Path) (call : Call) : Call := fun workspace =>
  let (outcome, after) := call workspace
  (outcome, { after with issuedKeys := workspace.issuedKeys ++ handed })

def Engine.noting (engine : Engine) : Engine where
  name := engine.name
  setup keys := Vault.noting [] (engine.setup keys)
  encrypt publicKey input policy output :=
    Vault.noting [] (engine.encrypt publicKey input policy output)
  keygen keys attributes output := Vault.noting [output] (engine.keygen keys attributes output)
  decrypt publicKey privateKey input output :=
    Vault.noting [] (engine.decrypt publicKey privateKey input output)

/-- The same vault with an engine that is watched. -/
def watched (vault : Vault) : Vault :=
  { vault with engine := vault.engine.noting }

/-! ## Watching changes nothing -/

variable {α β : Type} {vault : Vault} {workspace twin : Workspace} {label : String}

@[simp] theorem keys_watched (vault : Vault) : vault.watched.keys = vault.keys := rfl

@[simp] theorem scratchRoot_watched (vault : Vault) :
    vault.watched.scratchRoot = vault.scratchRoot := rfl

private theorem Matches.noting {allowed : Path → Prop} {call : Call} {handed : List Path}
    {operation : Operation} (keeps : Call.KeepsTo allowed call) (alike : Alike workspace twin) :
    Matches Eq (fun _ => True) (vault.bounded operation call)
      (vault.bounded operation (Vault.noting handed call)) workspace twin := by
  refine .calls (keeps.outcome alike.disk) ⟨keeps.disk alike.disk, ?_⟩ trivial
  exact (keeps.nextScratch workspace).trans
    (alike.nextScratch.trans (keeps.nextScratch twin).symm)

section Requests

variable (confined : vault.engine.Confined) (alike : Alike workspace twin)

include confined alike

theorem setup_watched (force : Bool) :
    Matches Eq (fun _ => True) (vault.setup force) (vault.watched.setup force) workspace twin := by
  refine .bind (.observe alike rfl trivial) fun _ _ _ _ _ alike => ?_
  refine .bind ((isBlind_directories _).matches alike trivial) fun _ _ _ _ _ alike => ?_
  refine .bind ((isBlind_directories _).matches alike trivial) fun _ _ _ _ _ alike => ?_
  refine .bind (.noting (confined.setup _) alike) fun _ _ _ _ _ alike => ?_
  exact .bind (.observe alike rfl trivial) fun _ _ _ _ _ alike => .observe alike rfl trivial

variable (plain : vault.scratchRoot.IsPlain)

include plain

private theorem sealFor_watched (role : Role) (password : Secret) :
    Matches Eq (fun _ => True) (vault.sealFor role password) (vault.watched.sealFor role password)
      workspace twin := by
  refine .bind (.observe alike rfl trivial) fun _ _ _ _ _ alike => ?_
  refine .inScratch alike (fun scratch _ _ creates alike => ?_) trivial
  have output : (scratch.child "plain.cpabe").IsPlain :=
    (scratch_plain plain (by decide) creates).child (by decide)
  refine .bind ((isBlind_change _).matches alike trivial) fun _ _ _ _ _ alike => ?_
  refine .bind (.noting (confined.encrypt _ _ _ output) alike) fun _ _ _ _ _ alike => ?_
  exact .observe alike rfl trivial

private theorem openWith_watched (role : Role) (stored : String) :
    Matches Eq (fun _ => True) (vault.openWith role stored) (vault.watched.openWith role stored)
      workspace twin := by
  refine .bind ((isBlind_done _).matches alike trivial) fun _ _ _ _ _ alike => ?_
  refine .bind (.observe alike rfl trivial) fun _ _ _ _ _ alike => ?_
  refine .bind (.observe alike rfl trivial) fun _ _ _ _ _ alike => ?_
  refine .inScratch alike (fun scratch _ _ creates alike => ?_) trivial
  have files := scratch_plain plain (by decide) creates
  refine .bind (.noting (confined.keygen _ _ (files.child (by decide))) alike)
    fun _ _ _ _ _ alike => ?_
  refine .bind ((isBlind_change _).matches alike trivial) fun _ _ _ _ _ alike => ?_
  refine .bind (.noting (confined.decrypt _ _ _ (files.child (by decide))) alike)
    fun _ _ _ _ _ alike => ?_
  exact .observe alike rfl trivial

end Requests

/-! ## The keys that an engine is asked for -/

/-- Whether some keys have been noted since, and no scratch directory has been made. -/
structure Notes (keys : List Path) (before after : Workspace) : Prop where
  issuedKeys : after.issuedKeys = before.issuedKeys ++ keys
  nextScratch : after.nextScratch = before.nextScratch

theorem Notes.nothing (workspace : Workspace) : Notes [] workspace workspace :=
  ⟨(List.append_nil _).symm, rfl⟩

/-- Notes stay as they are behind steps that note nothing. -/
theorem Notes.trans {keys : List Path} {before between after : Workspace}
    (first : Notes keys before between) (further : Notes [] between after) :
    Notes keys before after := by
  refine ⟨?_, further.nextScratch.trans first.nextScratch⟩
  rw [further.issuedKeys, first.issuedKeys, List.append_nil]

theorem Notes.calls {allowed : Path → Prop} {call : Call} (keeps : Call.KeepsTo allowed call)
    (handed : List Path) (operation : Operation) :
    Moves (Notes handed) (vault.bounded operation (noting handed call)) := by
  intro workspace
  rw [Attempt.snd_exec_bounded]
  exact ⟨rfl, keeps.nextScratch workspace⟩

theorem Notes.directories (path? : Option Path) : Moves (Notes []) (Attempt.directories path?) := by
  intro workspace
  cases path? <;> exact ⟨(List.append_nil _).symm, rfl⟩

theorem Notes.change (operation : Disk → Except DiskError Disk) :
    Moves (Notes []) (Attempt.change operation) := by
  intro workspace
  rw [Attempt.exec_change]
  split <;> exact ⟨(List.append_nil _).symm, rfl⟩

def keyPath (root : Path) (number : Nat) : Path :=
  let label := "unseal"
  (root.child s!"{label}-{number}").child "priv_key"

private theorem keyPath_text_injective (root : Path) :
    Function.Injective fun number => (keyPath root number).text := by
  intro number other same
  simp only [keyPath, Path.text_child] at same
  rw [Path.join_join _ _ (scratchName_goes (by decide) number).1,
    Path.join_join _ _ (scratchName_goes (by decide) other).1] at same
  have names := (String.append_left_inj _).mp (Path.join_injective _ same)
  exact scratchName_injective "unseal" ((String.append_left_inj _).mp names)

/-- Whether the keys noted since are those of scratch directories made since, at most one in each. -/
structure NotesInOrder (root : Path) (before after : Workspace) : Prop where
  grows : before.nextScratch ≤ after.nextScratch
  numbers : ∃ numbers : List Nat,
    after.issuedKeys = before.issuedKeys ++ numbers.map (keyPath root) ∧
    numbers.Pairwise (· < ·) ∧
    ∀ number ∈ numbers, before.nextScratch ≤ number ∧ number < after.nextScratch

namespace NotesInOrder

variable {root : Path} {before between after : Workspace}

theorem of_notes (notes : Notes [] before after) : NotesInOrder root before after :=
  ⟨notes.nextScratch.ge, [], notes.issuedKeys, .nil, nofun⟩

theorem trans (first : NotesInOrder root before between)
    (further : NotesInOrder root between after) : NotesInOrder root before after := by
  obtain ⟨grows, early, noted, ordered, among⟩ := first
  obtain ⟨growsAgain, late, notedAgain, orderedAgain, amongAgain⟩ := further
  refine ⟨grows.trans growsAgain, early ++ late, ?_, ?_, ?_⟩
  · rw [notedAgain, noted, List.map_append, List.append_assoc]
  · refine List.pairwise_append.mpr
      ⟨ordered, orderedAgain, fun number member other laterMember => ?_⟩
    exact (among number member).2.trans_le (amongAgain other laterMember).1
  · intro number member
    rcases List.mem_append.mp member with member | member
    · exact ⟨(among number member).1, (among number member).2.trans_le growsAgain⟩
    · exact ⟨grows.trans (amongAgain number member).1, (amongAgain number member).2⟩

/-- Keys that are noted in order have different paths. -/
theorem nodup (ordered : NotesInOrder root before after) :
    ∃ handed, after.issuedKeys = before.issuedKeys ++ handed ∧ (handed.map Path.text).Nodup := by
  obtain ⟨_, numbers, noted, ordered, _⟩ := ordered
  refine ⟨numbers.map (keyPath root), noted, ?_⟩
  rw [List.map_map]
  exact (ordered.imp Nat.ne_of_lt).map _ fun _ _ different =>
    (keyPath_text_injective root).ne different

end NotesInOrder

private theorem freshNumber_ge (vault : Vault) (label : String) (start : Nat) (disk : Disk) :
    start ≤ vault.freshNumber label start disk := by
  unfold Vault.freshNumber
  simp only
  cases found : List.find? _ _ with
  | none => exact Nat.le_refl _
  | some number =>
    obtain ⟨offset, _, rfl⟩ := List.mem_map.mp (List.mem_of_find?_eq_some found)
    exact Nat.le_add_right start offset

section Numbering

variable {scratch : Path} {after : Workspace}

private theorem createScratch_counts
    (creates : Attempt.exec (vault.createScratch label) workspace = (.ok scratch, after)) :
    ∃ number, scratch = vault.scratchPath label number ∧ workspace.nextScratch ≤ number ∧
      after.nextScratch = number + 1 ∧ after.issuedKeys = workspace.issuedKeys := by
  obtain ⟨_, between, above, created⟩ := Attempt.bind_ok creates
  have noted := Notes.directories (some vault.scratchRoot) workspace
  rw [above] at noted
  rw [Attempt.exec_act] at created
  simp only at created
  split at created
  · cases created
  · cases created
    refine ⟨_, rfl, ?_, rfl, by simpa using noted.issuedKeys⟩
    rw [← noted.nextScratch]
    exact freshNumber_ge ..

private theorem createScratch_error_notes {failure : VaultError}
    (fails : Attempt.exec (vault.createScratch label) workspace = (.error failure, after)) :
    Notes [] workspace after := by
  have noted := Notes.directories (some vault.scratchRoot) workspace
  rcases Attempt.bind_error fails with above | ⟨_, between, above, created⟩
  · rw [above] at noted
    exact noted
  · rw [above] at noted
    rw [Attempt.exec_act] at created
    simp only at created
    split at created <;> cases created
    exact noted

/-- Work in a scratch directory that notes no key but the one in it notes keys in order. -/
theorem inScratch_notes {work : Path → Attempt α}
    (notes : ∀ number, ∃ numbers : List Nat, numbers.Sublist [number] ∧
      Moves (Notes (numbers.map (keyPath vault.scratchRoot)))
        (work (vault.scratchPath label number))) :
    Moves (NotesInOrder vault.scratchRoot) (vault.inScratch label work) := by
  intro workspace
  match made : Attempt.exec (vault.createScratch label) workspace with
  | (.error failure, after) =>
    rw [Attempt.exec_inScratch_error made]
    exact .of_notes (createScratch_error_notes made)
  | (.ok scratch, between) =>
    obtain ⟨number, rfl, later, next, same⟩ := createScratch_counts made
    obtain ⟨numbers, among, worked⟩ := notes number
    obtain ⟨issued, still⟩ := worked between
    rw [Attempt.exec_inScratch made]
    rw [next] at still
    refine ⟨?_, numbers, issued.trans (by rw [same]), ?_, fun other member => ?_⟩
    · exact (Nat.le_succ_of_le later).trans still.ge
    · exact .sublist among (List.pairwise_singleton _ number)
    · obtain rfl : other = number := List.mem_singleton.mp (among.subset member)
      exact ⟨later, still.ge⟩

end Numbering

section Requests

variable (confined : vault.engine.Confined) (plain : vault.scratchRoot.IsPlain)

/-- What a check lets through notes what comes after the check. -/
theorem NotesInOrder.after_check {root : Path} {check : Attempt α} {next : α → Attempt β}
    (checks : Moves (Notes []) check) (further : ∀ value, Moves (NotesInOrder root) (next value)) :
    Moves (NotesInOrder root) (check >>= next) :=
  .bind checks further .of_notes fun first further => (of_notes first).trans further

include confined

/-- A setup notes nothing. -/
theorem setup_notes (force : Bool) : Moves (Notes []) (vault.watched.setup force) :=
  setup_moves Notes.nothing Notes.trans Notes.directories
    (Notes.calls (confined.setup _) [] .setup) force

include plain

private theorem sealFor_notes (role : Role) (password : Secret) :
    Moves (NotesInOrder vault.scratchRoot) (vault.watched.sealFor role password) := by
  refine .after_check Notes.nothing fun _ => inScratch_notes fun number => ⟨[], by simp, ?_⟩
  have files : (vault.scratchPath "seal" number).IsPlain :=
    plain.child (scratchName_goes (by decide) number).1
  refine .bind (Notes.change _) (fun _ => ?_) id Notes.trans
  refine .bind (Notes.calls (confined.encrypt _ _ _ (files.child (by decide))) [] _) (fun _ => ?_)
    id Notes.trans
  exact Notes.nothing

private theorem openWith_notes (role : Role) (stored : String) :
    Moves (NotesInOrder vault.scratchRoot) (vault.watched.openWith role stored) := by
  refine .after_check Notes.nothing fun _ => ?_
  refine .after_check Notes.nothing fun _ => ?_
  refine .after_check Notes.nothing fun _ => inScratch_notes fun number => ⟨[number], .refl _, ?_⟩
  have files : (vault.scratchPath "unseal" number).IsPlain :=
    plain.child (scratchName_goes (by decide) number).1
  refine .bind (Notes.calls (confined.keygen _ _ (files.child (by decide))) [_] _) (fun _ => ?_)
    id Notes.trans
  refine .bind (Notes.change _) (fun _ => ?_) id Notes.trans
  refine .bind (Notes.calls (confined.decrypt _ _ _ (files.child (by decide))) [] _) (fun _ => ?_)
    id Notes.trans
  exact Notes.nothing

theorem request_notes (request : Request) (workspace : Workspace) :
    NotesInOrder vault.scratchRoot workspace
      ((request.procedure vault.watched).run workspace).2 := by
  cases request with
  | sealFor role password =>
    rw [run_sealFor]
    exact sealFor_notes confined plain role ⟨password⟩ workspace
  | openWith role stored =>
    rw [run_openWith]
    exact openWith_notes confined plain role stored workspace

/-- Watched or not, a request does the same. -/
theorem request_watched (request : Request) (alike : Alike workspace twin) :
    Alike ((request.procedure vault).run workspace).2
      ((request.procedure vault.watched).run twin).2 := by
  cases request with
  | sealFor role password =>
    rw [run_sealFor, run_sealFor]
    exact (sealFor_watched confined alike plain role ⟨password⟩).alike
  | openWith role stored =>
    rw [run_openWith, run_openWith]
    exact (openWith_watched confined alike plain role stored).alike

end Requests

end RoleVault.Vault
