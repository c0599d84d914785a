import RoleVault.Vault.Basic

/-!
Contract: how the work of the vault ends.

Owns:
- `Attempt.exec`, a whole attempt as a function of the workspace;
- what a bind, a single step and work in a scratch directory end with;
- `FailsOnly`, the failures that an attempt can end with.

Does not own: the steps of sealing and opening (`RoleVault.Proofs.Vault.Sealing` and its neighbour).
-/

namespace RoleVault.Vault

open RoleVault.Files

namespace Attempt

variable {α β : Type} {workspace after : Workspace} {outcome : Except VaultError β}

/-- All steps of an attempt at one go. -/
def exec (work : Attempt α) (workspace : Workspace) : Except VaultError α × Workspace :=
  work.run.run workspace

@[simp] theorem exec_pure (result : α) (workspace : Workspace) :
    exec (pure result) workspace = (.ok result, workspace) := rfl

theorem exec_done (outcome : Except VaultError α) (workspace : Workspace) :
    exec (ExceptT.mk (Procedure.done outcome)) workspace = (outcome, workspace) := rfl

/-- An attempt goes on from where its first part ends, unless that part fails. -/
theorem exec_bind (first : Attempt α) (following : α → Attempt β) (workspace : Workspace) :
    exec (first >>= following) workspace =
      match exec first workspace with
      | (.ok result, between) => exec (following result) between
      | (.error failure, after) => (.error failure, after) := by
  have runs := Procedure.run_andThen first.run (ExceptT.bindCont following) workspace
  have sequence : (first >>= following).run = first.run.andThen (ExceptT.bindCont following) := rfl
  rw [exec, sequence, runs, exec]
  cases first.run.run workspace with
  | mk outcome between => cases outcome <;> rfl

theorem exec_bind_ok {first : Attempt α} {following : α → Attempt β} {value : α}
    (done : exec first workspace = (.ok value, after)) :
    exec (first >>= following) workspace = exec (following value) after := by
  rw [exec_bind, done]

/-- What follows another attempt is reached where that one succeeds. -/
theorem bind_ok {result : β} {first : Attempt α} {following : α → Attempt β}
    (ends : exec (first >>= following) workspace = (.ok result, after)) :
    ∃ value between, exec first workspace = (.ok value, between) ∧
      exec (following value) between = (.ok result, after) := by
  rw [exec_bind] at ends
  split at ends
  · rename_i value between done
    exact ⟨value, between, done, ends⟩
  · cases ends

/-- One attempt after another fails where the first does, or where the second does after it. -/
theorem bind_error {failure : VaultError} {first : Attempt α} {following : α → Attempt β}
    (ends : exec (first >>= following) workspace = (.error failure, after)) :
    exec first workspace = (.error failure, after) ∨
      ∃ value between, exec first workspace = (.ok value, between) ∧
        exec (following value) between = (.error failure, after) := by
  rw [exec_bind] at ends
  split at ends
  · rename_i value between done
    exact .inr ⟨value, between, done, ends⟩
  · rename_i cause between done
    cases ends
    exact .inl done

/-! ## Single steps -/

theorem exec_act (action : Workspace → Except VaultError α × Workspace) (workspace : Workspace) :
    exec (act action) workspace = action workspace := rfl

@[simp] theorem exec_observe (view : Disk → Except VaultError α) (workspace : Workspace) :
    exec (observe view) workspace = (view workspace.disk, workspace) := rfl

/-- A change of the files that fails leaves them alone. -/
theorem exec_change (operation : Disk → Except DiskError Disk) (workspace : Workspace) :
    exec (change operation) workspace =
      match operation workspace.disk with
      | .ok disk => (.ok (), { workspace with disk := disk })
      | .error error => (.error (.disk error), workspace) := rfl

theorem change_ok {operation : Disk → Except DiskError Disk}
    (ends : exec (change operation) workspace = (.ok (), after)) :
    operation workspace.disk = .ok after.disk := by
  rw [exec_change] at ends
  split at ends <;> cases ends
  assumption

/-- Creating directories goes as far as it can, and the workspace keeps what was created. -/
theorem exec_directories (path : Path) (workspace : Workspace) :
    exec (directories (some path)) workspace =
      ((workspace.disk.createDirectories path).1.mapError .disk,
        { workspace with disk := (workspace.disk.createDirectories path).2 }) := rfl

theorem directories_ok {path : Path}
    (ends : exec (directories (some path)) workspace = (.ok (), after)) :
    (workspace.disk.createDirectories path).1 = .ok () ∧
      after.disk = (workspace.disk.createDirectories path).2 := by
  rw [exec_directories] at ends
  cases created : (workspace.disk.createDirectories path).1 with
  | error failure =>
    rw [created] at ends
    cases ends
  | ok _ =>
    rw [created] at ends
    cases ends
    exact ⟨rfl, rfl⟩

/-- A check that has passed changed nothing. -/
theorem require_ok {check : Disk → Bool} {failure : VaultError}
    (ends : exec (observe fun disk => if check disk then .ok () else .error failure) workspace =
      (.ok (), after)) :
    workspace = after ∧ check workspace.disk = true := by
  rw [exec_observe] at ends
  by_cases passed : check workspace.disk = true
  · rw [if_pos passed] at ends
    cases ends
    exact ⟨rfl, passed⟩
  · rw [if_neg passed] at ends
    cases ends

/-- A call that ends gives its outcome, and one that hangs ends as a timeout. -/
theorem exec_bounded (vault : Vault) (operation : Operation) (call : Call)
    (workspace : Workspace) :
    exec (vault.bounded operation call) workspace =
      match call workspace with
      | (.ended result, after) => (result, after)
      | (.hangs, after) => (.error (.engineTimeout operation vault.timeout), after) := rfl

@[simp] theorem snd_exec_bounded (vault : Vault) (operation : Operation) (call : Call)
    (workspace : Workspace) :
    (exec (vault.bounded operation call) workspace).2 = (call workspace).2 := by
  rw [exec_bounded]
  split <;> rename_i ended <;> rw [ended]

/-- How a call ends depends on nothing but its own end. -/
theorem fst_exec_bounded_congr {vault : Vault} {operation : Operation} {call twinCall : Call}
    {twin : Workspace} (same : (call workspace).1 = (twinCall twin).1) :
    (exec (vault.bounded operation call) workspace).1 =
      (exec (vault.bounded operation twinCall) twin).1 := by
  rw [exec_bounded, exec_bounded]
  cases ended : call workspace with
  | mk result after =>
    cases twinEnded : twinCall twin with
    | mk twinResult twinAfter =>
      rw [ended, twinEnded] at same
      subst same
      cases result <;> rfl

/-! ## Kinds of failures -/

def FailsOnly (among : VaultError → Prop) (work : Attempt α) : Prop :=
  ∀ workspace failure after, exec work workspace = (.error failure, after) → among failure

variable {among : VaultError → Prop}

theorem FailsOnly.bind {first : Attempt α} {following : α → Attempt β}
    (firstFails : FailsOnly among first)
    (followingFails : ∀ value, FailsOnly among (following value)) :
    FailsOnly among (first >>= following) := by
  intro workspace failure after ends
  rcases bind_error ends with fails | ⟨value, between, _, fails⟩
  · exact firstFails _ _ _ fails
  · exact followingFails value _ _ _ fails

theorem FailsOnly.change (operation : Disk → Except DiskError Disk)
    (disks : ∀ error, among (.disk error)) : FailsOnly among (Attempt.change operation) := by
  intro workspace failure after ends
  rw [exec_change] at ends
  split at ends <;> cases ends
  exact disks _

theorem FailsOnly.directories (path? : Option Path) (disks : ∀ error, among (.disk error)) :
    FailsOnly among (Attempt.directories path?) := by
  intro workspace failure after ends
  rw [Attempt.directories, exec_act] at ends
  cases path? with
  | none => cases ends
  | some path =>
    simp only at ends
    cases created : (workspace.disk.createDirectories path).1 with
    | ok _ =>
      rw [created] at ends
      cases ends
    | error error =>
      rw [created] at ends
      cases ends
      exact disks error

theorem FailsOnly.observe {view : Disk → Except VaultError α}
    (views : ∀ disk failure, view disk = .error failure → among failure) :
    FailsOnly among (Attempt.observe view) := by
  intro workspace failure after ends
  rw [exec_observe] at ends
  exact views _ _ (congrArg Prod.fst ends)

/-! ## Scratch directories -/

/-- How work in a scratch directory ends, once there is one. -/
theorem exec_inScratch {vault : Vault} {label : String} {work : Path → Attempt α} {scratch : Path}
    {between : Workspace}
    (made : exec (vault.createScratch label) workspace = (.ok scratch, between)) :
    exec (vault.inScratch label work) workspace =
      ((exec (work scratch) between).1,
        { (exec (work scratch) between).2 with
          disk := (exec (work scratch) between).2.disk.removeTree scratch }) := by
  rw [Vault.inScratch, exec_bind, made]
  exact Procedure.run_andThen (work scratch).run _ between

/-- Without a scratch directory nothing is attempted in one. -/
theorem exec_inScratch_error {vault : Vault} {label : String} {work : Path → Attempt α}
    {failure : VaultError}
    (fails : exec (vault.createScratch label) workspace = (.error failure, after)) :
    exec (vault.inScratch label work) workspace = (.error failure, after) := by
  rw [Vault.inScratch, exec_bind, fails]

/-- Work in a scratch directory succeeds where there is one and the work in it succeeds. -/
theorem inScratch_ok {vault : Vault} {label : String} {work : Path → Attempt α} {result : α}
    (ends : exec (vault.inScratch label work) workspace = (.ok result, after)) :
    ∃ scratch between later, exec (vault.createScratch label) workspace = (.ok scratch, between) ∧
      exec (work scratch) between = (.ok result, later) := by
  match made : exec (vault.createScratch label) workspace with
  | (.error failure, between) =>
    rw [exec_inScratch_error made] at ends
    cases ends
  | (.ok scratch, between) =>
    rw [exec_inScratch made] at ends
    have succeeds : (exec (work scratch) between).1 = .ok result := congrArg Prod.fst ends
    exact ⟨scratch, between, (exec (work scratch) between).2, rfl, Prod.ext succeeds rfl⟩

/-- Work in a scratch directory fails as the work does, or at the directory. -/
theorem FailsOnly.inScratch (among : VaultError → Prop) {vault : Vault} {label : String}
    {work : Path → Attempt α} (disks : ∀ error, among (.disk error))
    (works : ∀ scratch, FailsOnly among (work scratch)) :
    FailsOnly among (vault.inScratch label work) := by
  have creates : FailsOnly among (vault.createScratch label) := by
    refine .bind (.directories _ disks) fun _ => ?_
    intro workspace failure after ends
    rw [exec_act] at ends
    simp only at ends
    split at ends <;> cases ends
    exact disks _
  intro workspace failure after ends
  match made : exec (vault.createScratch label) workspace with
  | (.error cause, between) =>
    rw [exec_inScratch_error made] at ends
    cases ends
    exact creates _ _ _ made
  | (.ok scratch, between) =>
    rw [exec_inScratch made] at ends
    have fails : (exec (work scratch) between).1 = .error failure := congrArg Prod.fst ends
    exact works scratch between failure (exec (work scratch) between).2 (Prod.ext fails rfl)

end Attempt

end RoleVault.Vault
