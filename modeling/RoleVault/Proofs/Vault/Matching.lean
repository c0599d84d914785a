import RoleVault.Proofs.Vault.Attempt
import RoleVault.Proofs.Vault.Tools

/-!
Contract: attempts of two vaults that end alike.

Owns:
- `Matches`, two attempts with the same outcome, up to failures that are told apart, that leave the
  same files;
- what sequences, work in scratch directories and calls of two engines need to match.

Does not own: which attempts of a vault match (`RoleVault.Proofs.Vault.Refinement`).
-/

namespace RoleVault.Vault

open RoleVault.Files

/-! ## Attempts that end alike -/

/-- Workspaces with the same files, in which the next scratch directory has the same number. -/
structure Alike (workspace twin : Workspace) : Prop where
  disk : workspace.disk = twin.disk
  nextScratch : workspace.nextScratch = twin.nextScratch

/-- Two attempts with the same outcome, up to failures that are told apart, and the same files
afterwards, of which something is known. -/
structure Matches {α : Type} (apart : VaultError → VaultError → Prop) (kept : Disk → Prop)
    (one other : Attempt α) (workspace twin : Workspace) : Prop where
  outcome : Told apart (Attempt.exec one workspace).1 (Attempt.exec other twin).1
  alike : Alike (Attempt.exec one workspace).2 (Attempt.exec other twin).2
  kept : kept (Attempt.exec one workspace).2.disk

/-- Whether an attempt looks at nothing but the files and the number of the next scratch directory. -/
def IsBlind {α : Type} (work : Attempt α) : Prop :=
  ∀ workspace twin, Alike workspace twin →
    (Attempt.exec work workspace).1 = (Attempt.exec work twin).1 ∧
      Alike (Attempt.exec work workspace).2 (Attempt.exec work twin).2

section Matching

variable {α β : Type} {apart : VaultError → VaultError → Prop} {kept : Disk → Prop}
variable {one other : Attempt α} {work : Attempt α}
variable {next following : α → Attempt β} {workspace twin : Workspace} {vault : Vault}

theorem IsBlind.matches (blind : IsBlind work) (alike : Alike workspace twin)
    (keeps : kept (Attempt.exec work workspace).2.disk) :
    Matches apart kept work work workspace twin := by
  obtain ⟨outcome, alike⟩ := blind _ _ alike
  refine ⟨?_, alike, keeps⟩
  rw [outcome]
  exact .same _

/-- One attempt after another matches where the first does, and the second where the first succeeds. -/
theorem Matches.bind (first : Matches apart kept one other workspace twin)
    (second : ∀ value between twinBetween,
      Attempt.exec one workspace = (.ok value, between) → kept between.disk →
        Alike between twinBetween → Matches apart kept (next value) (following value)
          between twinBetween) :
    Matches apart kept (one >>= next) (other >>= following) workspace twin := by
  obtain ⟨outcome, alike, keeps⟩ := first
  rcases ends : Attempt.exec one workspace with ⟨result, between⟩
  rcases twinEnds : Attempt.exec other twin with ⟨twinResult, twinBetween⟩
  rw [ends, twinEnds] at outcome alike
  rw [ends] at keeps
  -- where the first attempt fails, nothing follows on either side
  have stops {failure twinFailure : VaultError} (told : Told apart (α := β) (.error failure)
      (.error twinFailure)) (fails : result = .error failure)
      (twinFails : twinResult = .error twinFailure) :
      Matches apart kept (one >>= next) (other >>= following) workspace twin := by
    subst fails twinFails
    constructor <;> rw [Attempt.exec_bind, ends]
    · rw [Attempt.exec_bind, twinEnds]
      exact told
    · rw [Attempt.exec_bind, twinEnds]
      exact alike
    · exact keeps
  cases outcome with
  | failed differ => exact stops (.failed differ) rfl rfl
  | same =>
    cases result with
    | error failure => exact stops (.same _) rfl rfl
    | ok value =>
      obtain ⟨outcome, alike, keeps⟩ := second value between twinBetween ends keeps alike
      constructor <;> rw [Attempt.exec_bind_ok ends]
      · rw [Attempt.exec_bind_ok twinEnds]
        exact outcome
      · rw [Attempt.exec_bind_ok twinEnds]
        exact alike
      · exact keeps

/-- A sequence is blind where its parts are. -/
theorem IsBlind.bind (first : IsBlind work) (second : ∀ value, IsBlind (next value)) :
    IsBlind (work >>= next) := by
  intro workspace twin alike
  have matching : Matches Eq (fun _ => True) (work >>= next) (work >>= next) workspace twin :=
    (first.matches alike trivial).bind fun value _ _ _ _ still => (second value).matches still trivial
  exact ⟨matching.outcome.eq fun _ _ => id, matching.alike⟩

theorem Matches.observe {view twinView : Disk → Except VaultError α}
    (alike : Alike workspace twin) (same : view workspace.disk = twinView workspace.disk)
    (keeps : kept workspace.disk) :
    Matches apart kept (Attempt.observe view) (Attempt.observe twinView) workspace twin := by
  refine ⟨?_, alike, keeps⟩
  rw [Attempt.exec_observe, Attempt.exec_observe, ← alike.disk, same]
  exact .same _

theorem isBlind_done (outcome : Except VaultError α) :
    IsBlind (ExceptT.mk (Procedure.done outcome)) :=
  fun _ _ alike => ⟨rfl, alike⟩

theorem isBlind_change (operation : Disk → Except DiskError Disk) :
    IsBlind (Attempt.change operation) := by
  intro workspace twin alike
  have same := alike.disk
  cases changed : operation workspace.disk with
  | error failure =>
    constructor <;> simp [Attempt.exec_change, ← same, changed, alike]
  | ok disk =>
    constructor <;> simp [Attempt.exec_change, ← same, changed]
    exact ⟨rfl, alike.nextScratch⟩

theorem isBlind_directories (path? : Option Path) : IsBlind (Attempt.directories path?) := by
  intro workspace twin alike
  have same := alike.disk
  cases path? with
  | none => exact ⟨rfl, alike⟩
  | some path =>
    constructor <;> simp [Attempt.directories, Attempt.exec_act, ← same]
    exact ⟨rfl, alike.nextScratch⟩

private theorem isBlind_createScratch (vault : Vault) (label : String) :
    IsBlind (vault.createScratch label) := by
  refine (isBlind_directories _).bind fun _ => ?_
  intro workspace twin alike
  have same := alike.disk
  have number := alike.nextScratch
  cases created : workspace.disk.createDirectory (vault.scratchPath label
      (vault.freshNumber label workspace.nextScratch workspace.disk)) with
  | error failure =>
    constructor <;> simp [Attempt.exec_act, ← same, ← number, created, alike]
  | ok disk =>
    constructor <;> simp [Attempt.exec_act, ← same, ← number, created]
    exact ⟨rfl, rfl⟩

/-- Work in a scratch directory matches where the work in it does. -/
theorem Matches.inScratch {label : String} {twinWork work : Path → Attempt α}
    (alike : Alike workspace twin)
    (works : ∀ scratch made twinMade,
      Attempt.exec (vault.createScratch label) workspace = (.ok scratch, made) →
        Alike made twinMade →
          Matches apart (fun _ => True) (work scratch) (twinWork scratch) made twinMade)
    (keeps : kept (Attempt.exec (vault.inScratch label work) workspace).2.disk) :
    Matches apart kept (vault.inScratch label work) (vault.inScratch label twinWork)
      workspace twin := by
  obtain ⟨outcome, created⟩ := isBlind_createScratch vault label workspace twin alike
  cases made : Attempt.exec (vault.createScratch label) workspace with
  | mk result between =>
    cases twinMade : Attempt.exec (vault.createScratch label) twin with
    | mk twinResult twinBetween =>
      rw [made, twinMade] at outcome created
      obtain rfl : result = twinResult := outcome
      cases result with
      | error failure =>
        refine ⟨?_, ?_, keeps⟩ <;>
          rw [Attempt.exec_inScratch_error made, Attempt.exec_inScratch_error twinMade]
        · exact .same _
        · exact created
      | ok scratch =>
        obtain ⟨outcome, worked, _⟩ := works scratch between twinBetween made created
        refine ⟨?_, ?_, keeps⟩ <;> rw [Attempt.exec_inScratch made, Attempt.exec_inScratch twinMade]
        · exact outcome
        · exact ⟨by rw [worked.disk], worked.nextScratch⟩

/-- Calls that end alike match. -/
theorem Matches.calls {operation : Operation} {call twinCall : Call}
    (outcome : (call workspace).1 = (twinCall twin).1)
    (alike : Alike (call workspace).2 (twinCall twin).2) (keeps : kept (call workspace).2.disk) :
    Matches apart kept (vault.bounded operation call) (vault.bounded operation twinCall)
      workspace twin := by
  refine ⟨?_, ?_, ?_⟩
  · rw [Attempt.fst_exec_bounded_congr outcome]
    exact .same _
  · rw [Attempt.snd_exec_bounded, Attempt.snd_exec_bounded]
    exact alike
  · rw [Attempt.snd_exec_bounded]
    exact keeps

/-- A call that ends gives its outcome. -/
theorem exec_ended {result : Except VaultError Unit} {call : Call} (operation : Operation)
    (ends : (call workspace).1 = .ended result) :
    Attempt.exec (vault.bounded operation call) workspace = (result, (call workspace).2) := by
  rw [Attempt.exec_bounded]
  cases called : call workspace with
  | mk outcome after =>
    rw [called] at ends
    obtain rfl : outcome = _ := ends
    rfl

/-- Calls match where one follows an effect and the other tells how it ends. -/
theorem Matches.bounded {effect : Scheme.Effect} {operation : Operation} {call twinCall : Call}
    (alike : Alike workspace twin) (follows : Call.Follows effect call workspace)
    (tells : Call.Tells apart effect twinCall twin) (keeps : kept (effect workspace.disk).2) :
    Matches apart kept (vault.bounded operation call) (vault.bounded operation twinCall)
      workspace twin := by
  obtain ⟨result, twinEnds, told⟩ := tells.ends
  refine ⟨?_, ?_, ?_⟩ <;> rw [exec_ended operation follows.ends]
  · rw [exec_ended operation twinEnds, alike.disk]
    exact told
  · rw [exec_ended operation twinEnds]
    refine ⟨?_, ?_⟩
    · rw [follows.disk, tells.disk, alike.disk]
    · rw [follows.nextScratch, tells.nextScratch, alike.nextScratch]
  · rw [follows.disk]
    exact keeps

end Matching

end RoleVault.Vault
