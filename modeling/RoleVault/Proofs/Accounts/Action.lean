import RoleVault.Accounts.Action
import RoleVault.Proofs.Store.Transaction
import RoleVault.Proofs.Vault.Attempt

/-!
Contract: how operations on accounts end.

Owns:
- `Action.exec`, a whole operation as a function of the state, and what each kind of step ends with;
- `LooksOnly`, the operations that leave the tables alone, and `Gives`, what they can give;
- `Ends`, all that an operation may do to the tables, with one rule for each kind of step.

Does not own: the operations (`RoleVault.Proofs.Accounts.Effect`).
-/

namespace RoleVault.Accounts

open RoleVault.Store (Transaction)
open RoleVault.Vault (Workspace Attempt)

namespace Action

variable {α β : Type} {store : Store} {action : Action α} {first : Action α}
variable {following : α → Action β}

/-- A whole operation. -/
def exec (action : Action α) (state : State) : Except AccountsError α × State :=
  action.run.run state

/-! ## Steps -/

@[simp] theorem exec_pure (value : α) (state : State) :
    exec (pure value) state = (.ok value, state) := rfl

/-- A sequence goes on from where its first part ends, unless that part fails. -/
theorem exec_bind (first : Action α) (following : α → Action β) (state : State) :
    exec (first >>= following) state =
      match exec first state with
      | (.ok value, between) => exec (following value) between
      | (.error failure, after) => (.error failure, after) := by
  show (first.run >>= ExceptT.bindCont following) state = _
  rw [exec]
  show (ExceptT.bindCont following (first.run state).1).run (first.run state).2 = _
  cases ended : first.run.run state with
  | mk outcome between =>
    rw [show first.run state = (outcome, between) from ended]
    cases outcome <;> rfl

theorem exec_bind_ok {value : α} {state between : State}
    (ended : exec first state = (.ok value, between)) :
    exec (first >>= following) state = exec (following value) between := by
  rw [exec_bind, ended]

theorem exec_bind_error {failure : AccountsError} {state after : State}
    (ended : exec first state = (.error failure, after)) :
    exec (first >>= following) state = (.error failure, after) := by
  rw [exec_bind, ended]

theorem exec_map (f : α → β) (action : Action α) (state : State) :
    exec (f <$> action) state = ((exec action state).1.map f, (exec action state).2) := by
  show exec (action >>= fun value => pure (f value)) state = _
  rw [exec_bind]
  cases exec action state with
  | mk outcome after => cases outcome <;> rfl

theorem exec_check (outcome : Except AccessError α) (state : State) :
    exec (check outcome) state = (outcome.mapError AccountsError.ofAccess, state) := rfl

/-- A transaction on an open database takes effect if it succeeds; the files stay as they are. -/
theorem exec_transact (transaction : Transaction α) (store : Store) (workspace : Workspace) :
    exec (transact transaction) ⟨.opened store, workspace⟩ =
      match transaction.run store with
      | .ok (result, after) => (.ok result, ⟨.opened after, workspace⟩)
      | .error failure => (.error (AccountsError.ofStore failure), ⟨.opened store, workspace⟩) := by
  have runs : (Database.transact transaction).run (.opened store) =
      match transaction.run store with
      | .ok (result, after) => (.ok result, .opened after)
      | .error failure => (.error failure, .opened store) := rfl
  show (((Database.transact transaction).run (.opened store)).1.mapError AccountsError.ofStore,
    (⟨((Database.transact transaction).run (.opened store)).2, workspace⟩ : State)) = _
  rw [runs]
  cases transaction.run store <;> rfl

/-- Work of the vault leaves the database alone, and its failures become those of the request. -/
theorem exec_vault (work : Attempt α) (state : State) :
    exec (vault work) state =
      ((Attempt.exec work state.workspace).1.mapError AccountsError.ofVault,
        { state with workspace := (Attempt.exec work state.workspace).2 }) := rfl

theorem exec_check_ok {outcome : Except AccessError α} {value : α} (holds : outcome = .ok value)
    (state : State) : exec (check outcome) state = (.ok value, state) := by
  rw [exec_check, holds]
  rfl

theorem exec_vault_ok {work : Attempt α} {state : State} {value : α}
    (succeeds : (Attempt.exec work state.workspace).1 = .ok value) :
    exec (vault work) state =
      (.ok value, { state with workspace := (Attempt.exec work state.workspace).2 }) := by
  rw [exec_vault, succeeds]
  rfl

theorem exec_transact_ok {transaction : Transaction α} {after : Store} {value : α}
    (succeeds : transaction.run store = .ok (value, after)) (workspace : Workspace) :
    exec (transact transaction) ⟨.opened store, workspace⟩ =
      (.ok value, ⟨.opened after, workspace⟩) := by
  rw [exec_transact, succeeds]

theorem exec_transact_error {transaction : Transaction α} {failure : StoreError}
    (refused : transaction.run store = .error failure) (workspace : Workspace) :
    exec (transact transaction) ⟨.opened store, workspace⟩ =
      (.error (AccountsError.ofStore failure), ⟨.opened store, workspace⟩) := by
  rw [exec_transact, refused]

theorem exec_found (failure : AccountsError) (value? : Option α) (state : State) :
    exec (found failure value?) state =
      ((match value? with
        | some value => .ok value
        | none => .error failure), state) := by
  cases value? <;> rfl

theorem exec_require (holds : Bool) (failure : AccountsError) (state : State) :
    exec (require holds failure) state = (if holds then .ok () else .error failure, state) := by
  cases holds <;> rfl

/-- Taking the outcome as a value hides a failure, but not what was done until then. -/
theorem exec_outcome (action : Action α) (state : State) :
    exec (outcome action) state = (.ok (exec action state).1, (exec action state).2) := rfl

/-! ## Operations that look -/

/-- Whether an operation leaves the tables alone. -/
def LooksOnly (action : Action α) : Prop :=
  ∀ state, (exec action state).2.database = state.database

namespace LooksOnly

theorem pure (value : α) : LooksOnly (Pure.pure value : Action α) := fun _ => rfl

theorem throw (failure : AccountsError) : LooksOnly (MonadExcept.throw failure : Action α) :=
  fun _ => rfl

theorem bind (firstLooks : LooksOnly first)
    (followingLooks : ∀ value, LooksOnly (following value)) :
    LooksOnly (first >>= following) := by
  intro state
  have between := firstLooks state
  rw [exec_bind]
  match ended : exec first state with
  | (.error failure, after) =>
    rw [ended] at between
    exact between
  | (.ok value, after) =>
    rw [ended] at between
    exact (followingLooks value after).trans between

theorem map (f : α → β) (looks : LooksOnly action) : LooksOnly (f <$> action) := by
  intro state
  rw [exec_map]
  exact looks state

theorem check (outcome : Except AccessError α) : LooksOnly (Action.check outcome) := fun _ => rfl

theorem found (failure : AccountsError) (value? : Option α) :
    LooksOnly (Action.found failure value?) := by
  intro state
  rw [exec_found]

theorem require (holds : Bool) (failure : AccountsError) :
    LooksOnly (Action.require holds failure) := by
  intro state
  rw [exec_require]

theorem vault (work : Attempt α) : LooksOnly (Action.vault work) := fun _ => rfl

theorem outcome (looks : LooksOnly action) : LooksOnly (Action.outcome action) := fun state =>
  looks state

/-- A transaction that changes nothing. -/
theorem transact {transaction : Transaction α}
    (same : ∀ {store result after}, transaction.run store = .ok (result, after) → after = store) :
    LooksOnly (Action.transact transaction) := by
  rintro ⟨database, workspace⟩
  cases database with
  | closed => rfl
  | opened store =>
    rw [exec_transact]
    split
    · rename_i result after ended
      rw [same ended]
    · rfl

end LooksOnly

/-- Whether an operation that leaves the tables alone can give a value. -/
def Gives (action : Action α) (store : Store) (value : α) : Prop :=
  ∃ before after, exec action ⟨.opened store, before⟩ = (.ok value, ⟨.opened store, after⟩)

theorem gives_check {outcome : Except AccessError α} {value : α}
    (gives : Gives (check outcome) store value) :
    outcome = .ok value := by
  obtain ⟨before, after, ends⟩ := gives
  rw [exec_check] at ends
  cases outcome with
  | error failure => cases ends
  | ok value =>
    cases ends
    rfl

theorem gives_require {holds : Bool} {failure : AccountsError}
    (gives : Gives (require holds failure) store ()) : holds = true := by
  obtain ⟨before, after, ends⟩ := gives
  cases holds with
  | true => rfl
  | false => cases ends

theorem gives_found {failure : AccountsError} {value? : Option α} {value : α}
    (gives : Gives (found failure value?) store value) : value? = some value := by
  obtain ⟨before, after, ends⟩ := gives
  cases value? with
  | none => cases ends
  | some value =>
    cases ends
    rfl

theorem gives_vault {work : Attempt α} {value : α} (gives : Gives (vault work) store value) :
    ∃ before after, Attempt.exec work before = (.ok value, after) := by
  obtain ⟨before, after, ends⟩ := gives
  rw [exec_vault] at ends
  cases outcome : (Attempt.exec work before).1 with
  | error failure =>
    rw [outcome] at ends
    cases ends
  | ok result =>
    rw [outcome] at ends
    cases ends
    exact ⟨before, _, Prod.ext outcome rfl⟩

theorem gives_transact {transaction : Transaction α} {value : α}
    (gives : Gives (transact transaction) store value) :
    transaction.run store = .ok (value, store) := by
  obtain ⟨before, after, ends⟩ := gives
  rw [exec_transact] at ends
  split at ends <;> cases ends
  assumption

/-- A sequence that gives a value has passed through one that its first part gives. -/
theorem gives_bind {value : β} (looks : LooksOnly first)
    (gives : Gives (first >>= following) store value) :
    ∃ between, Gives first store between ∧ Gives (following between) store value := by
  obtain ⟨before, after, ends⟩ := gives
  have same := looks ⟨.opened store, before⟩
  rw [exec_bind] at ends
  match ended : exec first ⟨.opened store, before⟩ with
  | (.error failure, ⟨database, workspace⟩) =>
    rw [ended] at ends
    cases ends
  | (.ok between, ⟨database, workspace⟩) =>
    rw [ended] at ends same
    obtain rfl : database = .opened store := same
    exact ⟨between, ⟨before, workspace, ended⟩, workspace, after, ends⟩

theorem gives_pure {value result : α} (gives : Gives (pure value) store result) :
    value = result := by
  obtain ⟨before, after, ends⟩ := gives
  cases ends
  rfl

/-! ## Operations that write -/

/-- Whether an operation keeps a database open and always ends as some property says. -/
def Ends (action : Action α) (store : Store) (holds : Except AccountsError α → Store → Prop) :
    Prop :=
  ∀ workspace, ∃ outcome after files,
    exec action ⟨.opened store, workspace⟩ = (outcome, ⟨.opened after, files⟩) ∧ holds outcome after

namespace Ends

variable {holds : Except AccountsError α → Store → Prop}
variable {holdsAfter : Except AccountsError β → Store → Prop}

/-- An operation that leaves the tables alone ends as it should where all its outcomes are as they
should be. -/
theorem looking (looks : LooksOnly action) (refused : ∀ failure, holds (.error failure) store)
    (given : ∀ value, Gives action store value → holds (.ok value) store) :
    Ends action store holds := by
  intro workspace
  have same := looks ⟨.opened store, workspace⟩
  match ended : exec action ⟨.opened store, workspace⟩ with
  | (outcome, ⟨database, files⟩) =>
    rw [ended] at same
    obtain rfl : database = .opened store := same
    refine ⟨outcome, store, files, rfl, ?_⟩
    cases outcome with
    | error failure => exact refused failure
    | ok value => exact given value ⟨workspace, files, ended⟩

/-- Behind a look at the tables only the values that the look can give have to be followed further. -/
theorem bind_looking (looks : LooksOnly first)
    (refused : ∀ failure, holdsAfter (.error failure) store)
    (next : ∀ value, Gives first store value → Ends (following value) store holdsAfter) :
    Ends (first >>= following) store holdsAfter := by
  intro workspace
  have same := looks ⟨.opened store, workspace⟩
  rw [exec_bind]
  match ended : exec first ⟨.opened store, workspace⟩ with
  | (outcome, ⟨database, files⟩) =>
    rw [ended] at same
    obtain rfl : database = .opened store := same
    cases outcome with
    | error failure => exact ⟨_, store, files, rfl, refused failure⟩
    | ok value => exact next value ⟨workspace, files, ended⟩ files

/-- Behind a transaction that succeeds, the rest goes on with the tables it leaves. -/
theorem bind_transact {transaction : Transaction α}
    (refused : ∀ failure, holdsAfter (.error failure) store)
    (next : ∀ value after, transaction.run store = .ok (value, after) →
      Ends (following value) after holdsAfter) :
    Ends (transact transaction >>= following) store holdsAfter := by
  intro workspace
  rw [exec_bind, exec_transact]
  cases ended : transaction.run store with
  | error failure => exact ⟨_, store, workspace, rfl, refused _⟩
  | ok result => exact next result.1 result.2 ended workspace

/-- A transaction ends as it should where its failures and what it writes are as they should be. -/
theorem transact {transaction : Transaction α} (refused : ∀ failure, holds (.error failure) store)
    (written : ∀ value after, transaction.run store = .ok (value, after) →
      holds (.ok value) after) :
    Ends (transact transaction) store holds := by
  intro workspace
  rw [exec_transact]
  cases ended : transaction.run store with
  | error failure => exact ⟨_, store, workspace, rfl, refused _⟩
  | ok result => exact ⟨_, _, workspace, rfl, written result.1 result.2 ended⟩

theorem mono {weaker : Except AccountsError α → Store → Prop} (ends : Ends action store holds)
    (implies : ∀ outcome after, holds outcome after → weaker outcome after) :
    Ends action store weaker := by
  intro workspace
  obtain ⟨outcome, after, files, ended, held⟩ := ends workspace
  exact ⟨outcome, after, files, ended, implies outcome after held⟩

/-- What follows is given the outcome of an operation, be it a failure. -/
theorem bind_outcome {following : Except AccountsError α → Action β}
    (ends : Ends action store holds)
    (next : ∀ outcome after, holds outcome after → Ends (following outcome) after holdsAfter) :
    Ends (Action.outcome action >>= following) store holdsAfter := by
  intro workspace
  obtain ⟨outcome, after, files, ended, held⟩ := ends workspace
  rw [exec_bind, exec_outcome, ended]
  exact next outcome after held files

theorem of_exec {outcome : Except AccountsError α}
    (ends : ∀ workspace, exec action ⟨.opened store, workspace⟩ =
      (outcome, ⟨.opened store, workspace⟩)) (held : holds outcome store) :
    Ends action store holds :=
  fun workspace => ⟨outcome, store, workspace, ends workspace, held⟩

theorem map {f : α → β}
    (ends : Ends action store fun outcome after => holdsAfter (outcome.map f) after) :
    Ends (f <$> action) store holdsAfter := by
  intro workspace
  obtain ⟨outcome, after, files, ended, held⟩ := ends workspace
  refine ⟨outcome.map f, after, files, ?_, held⟩
  rw [exec_map, ended]

end Ends

end Action

end RoleVault.Accounts
