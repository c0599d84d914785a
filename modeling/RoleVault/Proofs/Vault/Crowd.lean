import Mathlib.Logic.Function.Basic
import RoleVault.Proofs.Vault.Attempt

/-!
Contract: calls of which the steps are mixed.

Owns:
- `Crowd`, calls at work on the same files, and `Crowd.run`, in which each does a step when its turn
  comes;
- `Protocol`, what each call may hold and what the workspace is like then, and `Protocol.Ensures`,
  what a call comes to within some steps as long as all calls keep to the protocol;
- `Protocol.run_keeps`: calls that ensure something one by one ensure it all together;
- `Protocol.answers_alone`: where there is but one answer that a call can ensure, it is the answer
  that the call has when it is alone.

Does not own: the calls of a vault (`RoleVault.Proofs.Vault.Interleaving`).
-/

namespace RoleVault.Vault

open RoleVault.Files

variable {α β Holding : Type}

/-- Calls, each as far as it has come, and what they work on. -/
structure Crowd (α : Type) where
  calls : List (Procedure α)
  workspace : Workspace

namespace Crowd

/-- One of the calls does its next step, if it has any left. -/
def turn (crowd : Crowd α) (number : Nat) : Crowd α :=
  match crowd.calls[number]? with
  | none => crowd
  | some call =>
    let (rest, after) := call.advance crowd.workspace
    ⟨crowd.calls.set number rest, after⟩

/-- The calls take turns in the order of a schedule. -/
def run (crowd : Crowd α) (schedule : List Nat) : Crowd α :=
  schedule.foldl turn crowd

/-- Whether every call has come to its end. -/
def IsDone (crowd : Crowd α) : Prop :=
  ∀ call ∈ crowd.calls, ∃ answer, call = .done answer

private theorem length_turn (crowd : Crowd α) (number : Nat) :
    (crowd.turn number).calls.length = crowd.calls.length := by
  unfold turn
  split <;> simp

theorem run_cons (crowd : Crowd α) (number : Nat) (schedule : List Nat) :
    crowd.run (number :: schedule) = (crowd.turn number).run schedule := rfl

theorem length_run (crowd : Crowd α) (schedule : List Nat) :
    (crowd.run schedule).calls.length = crowd.calls.length := by
  induction schedule generalizing crowd with
  | nil => rfl
  | cons number rest inductionHypothesis =>
    rw [run_cons, inductionHypothesis, length_turn]

/-- Whether calls that take turns come to the answers that each has when it is alone: to no others,
and to these once they have had enough turns. -/
structure AnswersAlone (calls : List (Procedure α)) (start : Workspace) (enough : Nat)
    (schedule : List Nat) : Prop where
  only : ∀ (number : Nat) (call : Procedure α) (answer : α), calls[number]? = some call →
    ((Crowd.mk calls start).run schedule).calls[number]? = some (.done answer) →
      answer = (call.run start).1
  ends : ∀ (number : Nat) (call : Procedure α), calls[number]? = some call →
    enough ≤ schedule.count number →
      ((Crowd.mk calls start).run schedule).calls[number]? = some (.done (call.run start).1)

end Crowd

/-- What the first few calls may hold, and what the workspace is like while each holds what it
does. -/
structure Protocol (Holding : Type) where
  limit : Nat
  shared : (Nat → Holding) → Workspace → Prop

namespace Protocol

variable (protocol : Protocol Holding)

/-- Whether a call that holds something comes to a goal within some steps.  Each step is done when
the other calls hold whatever they may, and leaves them what they hold. -/
def Ensures (goal : α → Holding → Prop) : Nat → Procedure α → Holding → Prop
  | _, .done result, holding => goal result holding
  | 0, .step _ _, _ => False
  | budget + 1, .step effect next, holding =>
    ∀ holds number workspace, number < protocol.limit → holds number = holding →
      protocol.shared holds workspace → ∃ later,
        protocol.shared (Function.update holds number later) (effect workspace) ∧
        Ensures goal budget (next workspace) later

variable {protocol} {goal more middle : α → Holding → Prop} {budget further : Nat}
variable {procedure : Procedure α} {holding : Holding}

@[simp] theorem ensures_done {result : α} :
    protocol.Ensures goal budget (.done result) holding ↔ goal result holding := by
  unfold Ensures
  exact Iff.rfl

theorem Ensures.weaken (ensures : protocol.Ensures goal budget procedure holding)
    (within : budget ≤ further) (among : ∀ result later, goal result later → more result later) :
    protocol.Ensures more further procedure holding := by
  induction budget generalizing procedure holding further with
  | zero =>
    cases procedure with
    | done result => exact ensures_done.mpr (among _ _ (ensures_done.mp ensures))
    | step effect next => exact ensures.elim
  | succ budget inductionHypothesis =>
    cases procedure with
    | done result => exact ensures_done.mpr (among _ _ (ensures_done.mp ensures))
    | step effect next =>
      obtain ⟨further, rfl⟩ := Nat.exists_eq_add_of_le' within
      intro holds number workspace known held fits
      obtain ⟨later, still, rest⟩ := ensures holds number workspace known held fits
      exact ⟨later, still, inductionHypothesis rest (Nat.le_add_left budget further)⟩

/-! ## One call -/

/-- Budgets add up along a procedure. -/
theorem Ensures.andThen {following : α → Procedure β} {final : β → Holding → Prop}
    (first : protocol.Ensures middle budget procedure holding)
    (goes : ∀ result later, middle result later →
      protocol.Ensures final further (following result) later) :
    protocol.Ensures final (budget + further) (procedure.andThen following) holding := by
  induction budget generalizing procedure holding with
  | zero =>
    cases procedure with
    | done result =>
      exact (goes _ _ (ensures_done.mp first)).weaken (Nat.le_add_left _ _) fun _ _ => id
    | step effect next => exact first.elim
  | succ budget inductionHypothesis =>
    cases procedure with
    | done result =>
      exact (goes _ _ (ensures_done.mp first)).weaken (Nat.le_add_left _ _) fun _ _ => id
    | step effect next =>
      rw [Nat.succ_add]
      intro holds number workspace known held fits
      obtain ⟨later, still, rest⟩ := first holds number workspace known held fits
      exact ⟨later, still, inductionHypothesis rest⟩

theorem Ensures.act {action : Workspace → α × Workspace}
    (moves : ∀ holds number workspace, number < protocol.limit → holds number = holding →
      protocol.shared holds workspace → ∃ later,
        protocol.shared (Function.update holds number later) (action workspace).2 ∧
        goal (action workspace).1 later) :
    protocol.Ensures goal 1 (Procedure.act action) holding := by
  intro holds number workspace known held fits
  obtain ⟨later, still, reached⟩ := moves holds number workspace known held fits
  exact ⟨later, still, ensures_done.mpr reached⟩

/-- A sequence of attempts ensures what its parts ensure, one after the other. -/
theorem Ensures.bind {work : Attempt α} {next : α → Attempt β}
    {between : Except VaultError α → Holding → Prop} {final : Except VaultError β → Holding → Prop}
    (first : protocol.Ensures between budget work.run holding)
    (goes : ∀ value later, between (.ok value) later →
      protocol.Ensures final further (next value).run later)
    (stops : ∀ failure later, between (.error failure) later → final (.error failure) later) :
    protocol.Ensures final (budget + further) (work >>= next).run holding := by
  refine first.andThen fun outcome later reached => ?_
  cases outcome with
  | ok value => exact goes value later reached
  | error failure => exact ensures_done.mpr (stops failure later reached)

theorem Ensures.bind_ok {work : Attempt α} {next : α → Attempt β} {value : α} {later : Holding}
    {final : Except VaultError β → Holding → Prop}
    (first : protocol.Ensures (fun result held => result = .ok value ∧ held = later) budget
      work.run holding)
    (goes : protocol.Ensures final further (next value).run later) :
    protocol.Ensures final (budget + further) (work >>= next).run holding := by
  refine first.bind ?_ ?_
  · rintro _ _ ⟨⟨⟩, rfl⟩
    exact goes
  · rintro _ _ ⟨⟨⟩, _⟩

theorem Ensures.bind_error {work : Attempt α} {next : α → Attempt β} {failure : VaultError}
    {later : Holding} {final : Except VaultError β → Holding → Prop}
    (first : protocol.Ensures (fun result held => result = .error failure ∧ held = later) budget
      work.run holding)
    (stops : final (.error failure) later) :
    protocol.Ensures final (budget + further) (work >>= next).run holding := by
  refine first.bind ?_ ?_
  · rintro _ _ ⟨⟨⟩, _⟩
  · rintro _ _ ⟨⟨⟩, rfl⟩
    exact stops

/-- A check that the files always pass. -/
theorem Ensures.check {work : Attempt α} {check : Disk → Bool} {failure : VaultError}
    {final : Except VaultError α → Holding → Prop}
    (passes : ∀ holds workspace, protocol.shared holds workspace → check workspace.disk = true)
    (goes : protocol.Ensures final further work.run holding) :
    protocol.Ensures final (1 + further)
      ((Attempt.observe fun disk => if check disk then .ok () else .error failure) >>=
        fun _ => work).run holding := by
  have checked : protocol.Ensures (fun result held => result = .ok () ∧ held = holding) 1
      (Attempt.observe fun disk => if check disk then .ok () else .error failure).run holding := by
    refine .act fun holds number workspace _ held fits => ⟨holding, ?_, ?_, rfl⟩
    · rw [← held, Function.update_eq_self]
      exact fits
    · simp [passes holds workspace fits]
  exact .bind_ok checked goes

/-- A step of a call that ensures something leaves a call that ensures it. -/
theorem Ensures.advance {holds : Nat → Holding} {number : Nat} {workspace : Workspace}
    (ensures : protocol.Ensures goal budget procedure (holds number))
    (known : number < protocol.limit) (fits : protocol.shared holds workspace) :
    ∃ later, protocol.shared (Function.update holds number later)
        (procedure.advance workspace).2 ∧
      protocol.Ensures goal (budget - 1) (procedure.advance workspace).1 later := by
  cases procedure with
  | done result =>
    refine ⟨holds number, ?_, ensures_done.mpr (ensures_done.mp ensures)⟩
    rw [Function.update_eq_self]
    exact fits
  | step effect next =>
    cases budget with
    | zero => exact ensures.elim
    | succ budget => exact ensures holds number workspace known rfl fits

/-- A call that is done at one go comes to what it ensures. -/
theorem Ensures.run {holds : Nat → Holding} {number : Nat} {workspace : Workspace}
    (ensures : protocol.Ensures goal budget procedure (holds number))
    (known : number < protocol.limit) (fits : protocol.shared holds workspace) :
    ∃ later, goal (procedure.run workspace).1 later := by
  induction budget generalizing procedure holds workspace with
  | zero =>
    cases procedure with
    | done result => exact ⟨_, ensures_done.mp ensures⟩
    | step effect next => exact ensures.elim
  | succ budget inductionHypothesis =>
    obtain ⟨later, still, rest⟩ := ensures.advance known fits
    have mine : protocol.Ensures goal budget (procedure.advance workspace).1
        (Function.update holds number later number) := by
      rwa [Function.update_self]
    rw [← Procedure.run_advance]
    exact inductionHypothesis mine still

/-! ## All calls -/

def Keeps (protocol : Protocol Holding) (goals : Nat → α → Holding → Prop) (left : Nat → Nat)
    (crowd : Crowd α) : Prop :=
  ∃ holds, protocol.shared holds crowd.workspace ∧
    ∀ number call, crowd.calls[number]? = some call → number < protocol.limit ∧
      protocol.Ensures (goals number) (left number) call (holds number)

variable {goals : Nat → α → Holding → Prop} {left : Nat → Nat} {crowd : Crowd α}

/-- A step of one call leaves every other what it holds. -/
theorem turn_keeps (keeps : protocol.Keeps goals left crowd) (number : Nat) :
    protocol.Keeps goals (fun other => left other - if number = other then 1 else 0)
      (crowd.turn number) := by
  obtain ⟨holds, fits, ensures⟩ := keeps
  unfold Crowd.turn
  cases found : crowd.calls[number]? with
  | none =>
    refine ⟨holds, fits, fun other call among => ?_⟩
    have different : number ≠ other := by
      rintro rfl
      simp [found] at among
    simpa [different] using ensures other call among
  | some call =>
    obtain ⟨known, mine⟩ := ensures number call found
    obtain ⟨later, still, rest⟩ := mine.advance known fits
    refine ⟨_, still, fun other call among => ?_⟩
    by_cases same : number = other
    · subst same
      have present : number < crowd.calls.length := (List.getElem?_eq_some_iff.mp found).1
      simp only [List.getElem?_set_self present, Option.some.injEq] at among
      subst among
      simpa using ⟨known, rest⟩
    · rw [List.getElem?_set_ne same] at among
      rw [Function.update_of_ne (Ne.symm same)]
      simpa [same] using ensures other call among

/-- Calls that ensure their goals one by one ensure them all, in whichever order they do their
steps. -/
theorem run_keeps (keeps : protocol.Keeps goals left crowd) (schedule : List Nat) :
    protocol.Keeps goals (fun number => left number - schedule.count number)
      (crowd.run schedule) := by
  induction schedule generalizing crowd left with
  | nil => exact keeps
  | cons number rest inductionHypothesis =>
    have further := inductionHypothesis (turn_keeps keeps number)
    simpa [Crowd.run_cons, Nat.sub_sub, List.count_cons, Nat.add_comm] using further

def IsAlone (calls : List (Procedure α)) (start : Workspace) (number : Nat) (result : α) : Prop :=
  ∀ call, calls[number]? = some call → result = (call.run start).1

/-- Calls that can only come to one answer each come to that of the call alone, as soon as they have
had enough turns. -/
theorem answers_alone {calls : List (Procedure α)} {start : Workspace} {idle : Holding}
    {ended : Holding → Prop} (all : protocol.limit = calls.length)
    (fits : protocol.shared (fun _ => idle) start)
    (each : ∀ call ∈ calls, ∃ answer, protocol.Ensures
      (fun result later => result = answer ∧ ended later) budget call idle)
    (schedule : List Nat) :
    Crowd.AnswersAlone calls start budget schedule ∧
      (((Crowd.mk calls start).run schedule).IsDone →
        ∃ holds, protocol.shared holds ((Crowd.mk calls start).run schedule).workspace ∧
          ∀ number < calls.length, ended (holds number)) := by
  have ensures (number : Nat) (call : Procedure α) (found : calls[number]? = some call) :
      number < protocol.limit ∧ protocol.Ensures
        (fun result later => IsAlone calls start number result ∧ ended later) budget call idle := by
    have known : number < protocol.limit := by
      rw [all]
      exact (List.getElem?_eq_some_iff.mp found).1
    obtain ⟨answer, reaches⟩ := each call (List.mem_of_getElem? found)
    -- alone, a call is one that the others do not disturb
    obtain ⟨_, alone, _⟩ := reaches.run known fits
    refine ⟨known, reaches.weaken (Nat.le_refl _) fun result later ⟨same, ends⟩ => ⟨?_, ends⟩⟩
    intro other also
    obtain rfl := Option.some.inj (found.symm.trans also)
    rw [same, alone]
  have begins : protocol.Keeps
      (fun number result later => IsAlone calls start number result ∧ ended later)
      (fun _ => budget) (Crowd.mk calls start) := ⟨_, fits, ensures⟩
  obtain ⟨holds, still, reached⟩ := run_keeps begins schedule
  simp only at reached
  have present {number : Nat} (below : number < calls.length) :
      number < ((Crowd.mk calls start).run schedule).calls.length := by
    rwa [Crowd.length_run]
  refine ⟨⟨fun number call answer found done => ?_, fun number call found enough => ?_⟩,
    fun finished => ⟨holds, still, fun number below => ?_⟩⟩
  · exact (ensures_done.mp (reached number _ done).2).1 call found
  · have below := present (List.getElem?_eq_some_iff.mp found).1
    obtain ⟨last, there⟩ :
        ∃ last, ((Crowd.mk calls start).run schedule).calls[number]? = some last :=
      ⟨_, List.getElem?_eq_getElem below⟩
    obtain ⟨_, ends⟩ := reached number last there
    rw [Nat.sub_eq_zero_of_le enough] at ends
    cases last with
    | done answer => rw [there, (ensures_done.mp ends).1 call found]
    | step effect next => exact ends.elim
  · obtain ⟨answer, last⟩ := finished _ (List.getElem_mem (present below))
    obtain ⟨_, ends⟩ := reached number _ (List.getElem?_eq_getElem (present below))
    rw [last] at ends
    exact (ensures_done.mp ends).2

end Protocol

end RoleVault.Vault
