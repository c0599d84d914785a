import RoleVault.Proofs.Vault.Confinement
import RoleVault.Proofs.Vault.Refinement

/-!
Contract: what sealing and opening leave of the files.

Owns:
- `Request`, what a vault is asked to seal or open;
- `Settled`, that nothing has changed but that the scratch root may have come into being, and that
  every request leaves the files so;
- `LeavesNothing`, what that means for the files and for what is in the scratch root;
- `Moves`, attempts that end in a workspace related to the one they began in, and that making keys
  leaves everything in a directory.

Does not own: requests one after the other (`RoleVault.Proofs.Vault.Site`), or requests of which the
steps are mixed (`RoleVault.Proofs.Vault.Interleaving`).
-/

namespace RoleVault.Vault

open RoleVault.Files RoleVault.Files.Disk RoleVault.Text

variable {α β : Type} {vault : Vault} {workspace : Workspace} {label : String}

/-! ## Requests -/

/-- What a vault is asked to seal or open. -/
inductive Request where
  | sealFor (role : Role) (password : String)
  | openWith (role : Role) (stored : String)
deriving DecidableEq, Repr

/-- The steps of a request, up to its answer. -/
def Request.procedure (vault : Vault) : Request → Procedure Answer
  | .sealFor role password =>
    (vault.sealFor role ⟨password⟩).run.andThen fun outcome => .done (.sealed outcome)
  | .openWith role stored =>
    (vault.openWith role stored).run.andThen fun outcome => .done (.opened outcome)

theorem run_sealFor (role : Role) (password : String) :
    ((Request.sealFor role password).procedure vault).run workspace =
      (Attempt.exec (vault.sealFor role ⟨password⟩) workspace).map .sealed id :=
  Procedure.run_andThen ..

theorem run_openWith (role : Role) (stored : String) :
    ((Request.openWith role stored).procedure vault).run workspace =
      (Attempt.exec (vault.openWith role stored) workspace).map .opened id :=
  Procedure.run_andThen ..

/-! ## What a request leaves -/

/-- Whether nothing has changed, but that the scratch root may have come into being. -/
def Settled (root : Path) (before after : Disk) : Prop :=
  Same before after ∨ Same (before.createDirectories root).2 after

/-- What settles stays a tree. -/
theorem Settled.isTree {root : Path} {before after : Disk} (settled : Settled root before after)
    (tree : IsTree before) : IsTree after := by
  rcases settled with same | same
  · exact same.isTree tree
  · exact same.isTree (createDirectories_isTree tree root)

/-- What a check lets through starts from the files that the check has found. -/
theorem Settled.after_check {root : Path} {check : Attempt α} {next : α → Attempt β}
    (still : (Attempt.exec check workspace).2 = workspace)
    (goes : ∀ value, Settled root workspace.disk (Attempt.exec (next value) workspace).2.disk) :
    Settled root workspace.disk (Attempt.exec (check >>= next) workspace).2.disk := by
  rw [Attempt.exec_bind]
  cases ended : Attempt.exec check workspace with
  | mk outcome after =>
    rw [ended] at still
    obtain rfl : after = workspace := still
    cases outcome with
    | error failure => exact .inl (.refl _)
    | ok value => exact goes value

theorem KeepsTo.confined {scratch : Path} {name : String} {operation : Operation} {call : Call}
    (descends : GoesDown name) (keeps : Call.KeepsTo (· = scratch.child name) call) :
    KeepsTo scratch (vault.bounded operation call) := by
  intro before place workspace working
  rw [Attempt.snd_exec_bounded]
  exact (keeps.writes workspace).scratch descends working

section Requests

variable (confined : vault.engine.Confined) (plain : vault.scratchRoot.IsPlain)
variable (tree : IsTree workspace.disk)

include confined plain tree

private theorem sealFor_settles (role : Role) (password : Secret) :
    Settled vault.scratchRoot workspace.disk
      (Attempt.exec (vault.sealFor role password) workspace).2.disk := by
  refine .after_check rfl fun _ => .inr (inScratch_same tree fun number => ?_)
  have files : (vault.scratchPath "seal" number).IsPlain :=
    plain.child (scratchName_goes (by decide) number).1
  refine .bind (.write (by decide) _) fun _ => .bind ?_ fun _ => .observe _
  exact .confined (by decide) (confined.encrypt _ _ _ (files.child (by decide)))

private theorem openWith_settles (role : Role) (stored : String) :
    Settled vault.scratchRoot workspace.disk
      (Attempt.exec (vault.openWith role stored) workspace).2.disk := by
  refine .after_check rfl fun _ => ?_
  refine .after_check rfl fun _ => ?_
  refine .after_check rfl fun _ => .inr (inScratch_same tree fun number => ?_)
  have files : (vault.scratchPath "unseal" number).IsPlain :=
    plain.child (scratchName_goes (by decide) number).1
  refine .bind ?_ fun _ => .bind (.write (by decide) _) fun _ => .bind ?_ fun _ => .observe _
  · exact .confined (by decide) (confined.keygen _ _ (files.child (by decide)))
  · exact .confined (by decide) (confined.decrypt _ _ _ (files.child (by decide)))

/-- Whatever comes of a request, it settles its scratch root. -/
theorem request_settles (request : Request) :
    Settled vault.scratchRoot workspace.disk
      ((request.procedure vault).run workspace).2.disk := by
  cases request with
  | sealFor role password =>
    rw [run_sealFor]
    exact sealFor_settles confined plain tree role ⟨password⟩
  | openWith role stored =>
    rw [run_openWith]
    exact openWith_settles confined plain tree role stored

end Requests

/-- What is the same before and after a request: everything that is not on the way to the scratch root,
every file, and whatever a path leads to.  On the way there, directories may have come into being
(`created`), so that everything in the root is the same as well, unless the way leads through the root
itself: creating `b/a/..` for the first time creates the directory `a` in it. -/
structure LeavesNothing (root : Path) (before after : Disk) : Prop where
  home : after.home = before.home
  inside : ".." ∉ root.steps ∨ before.isDirectory root = true → ∀ below, below ≠ [] →
    after.get? (root.place before.home ++ below) = before.get? (root.place before.home ++ below)
  created : ∀ place, after.get? place = before.get? place ∨
    before.get? place = none ∧ after.get? place = some .directory ∧ place ∈ root.places before.home
  elsewhere : ∀ place, place ∉ root.places before.home → after.get? place = before.get? place
  files : ∀ place entry, entry ≠ .directory →
    (after.get? place = some entry ↔ before.get? place = some entry)
  paths : ∀ path entry, before.find? path = some entry → after.find? path = some entry

/-- Under a plain root, what settles leaves nothing behind. -/
theorem Settled.leavesNothing {root : Path} {before after : Disk}
    (settled : Settled root before after) (plain : root.IsPlain) :
    LeavesNothing root before after := by
  rcases settled with same | same
  · exact ⟨same.home, fun _ _ _ => same.get? _, fun _ => .inl (same.get? _), fun _ _ => same.get? _,
      fun _ _ _ => by rw [same.get?], fun _ _ found => find?_extend same.extends found⟩
  · have grows := createDirectories_extends before root
    exact {
      home := same.home.trans grows.home
      inside := fun clear _ filled =>
        (same.get? _).trans (createDirectories_inside plain clear filled)
      created := fun place => by rw [same.get?]; exact createDirectories_created plain place
      elsewhere := fun _ outside => (same.get? _).trans (createDirectories_outside plain outside)
      files := fun _ _ file => by rw [same.get?]; exact createDirectories_plain file
      paths := fun _ _ found => find?_extend (grows.trans same.extends) found }

/-! ## Attempts that move to related workspaces -/

/-- Whether an attempt ends, however it does, in a workspace related to the one it began in. -/
def Moves (related : Workspace → Workspace → Prop) (work : Attempt α) : Prop :=
  ∀ workspace, related workspace (Attempt.exec work workspace).2

/-- What a sequence moves is what its parts move, one after the other. -/
theorem Moves.bind {first following whole : Workspace → Workspace → Prop} {work : Attempt α}
    {next : α → Attempt β} (moves : Moves first work)
    (further : ∀ value, Moves following (next value))
    (stops : ∀ {before after}, first before after → whole before after)
    (goes : ∀ {before between after}, first before between → following between after →
      whole before after) : Moves whole (work >>= next) := by
  intro workspace
  have moved := moves workspace
  rw [Attempt.exec_bind]
  cases ended : Attempt.exec work workspace with
  | mk outcome between =>
    rw [ended] at moved
    cases outcome with
    | error failure => exact stops moved
    | ok value => exact goes moved (further value between)

/-- Making keys moves by creating directories and by the call of the engine. -/
theorem setup_moves {related : Workspace → Workspace → Prop}
    (same : ∀ workspace, related workspace workspace)
    (trans : ∀ {before between after}, related before between → related between after →
      related before after)
    (creates : ∀ path?, Moves related (Attempt.directories path?))
    (makes : Moves related (vault.bounded .setup (vault.engine.setup vault.keys))) (force : Bool) :
    Moves related (vault.setup force) := by
  refine .bind same (fun _ => ?_) id trans
  refine .bind (creates _) (fun _ => ?_) id trans
  refine .bind (creates _) (fun _ => ?_) id trans
  refine .bind makes (fun _ => ?_) id trans
  exact .bind same (fun _ => same) id trans

private theorem directories_isTree (path? : Option Path) :
    Moves (fun before after => IsTree before.disk → IsTree after.disk)
      (Attempt.directories path?) := by
  intro workspace tree
  cases path? with
  | none => exact tree
  | some path => exact createDirectories_isTree tree path

theorem setup_isTree (confined : vault.engine.Confined) (force : Bool) :
    Moves (fun before after => IsTree before.disk → IsTree after.disk) (vault.setup force) := by
  refine setup_moves (fun _ => id) (fun first further tree => further (first tree))
    directories_isTree (fun workspace tree => ?_) force
  rw [Attempt.snd_exec_bounded]
  exact ((confined.setup _).writes workspace).isTree tree

end RoleVault.Vault
