import Mathlib
import RoleVault.Proofs.Accounts.Policy
import RoleVault.Proofs.Time.Rfc3339
import RoleVault.Proofs.Vault.Sealing

/-!
Contract: a call that fails leaves the tables as they were.

Owns:
- that what was just written can be read back;
- that a sweep over all users fails before its first write or not at all;
- `failed_call_changes_nothing`, on every call in every state that a run leads to.

Does not own: what a call that succeeds writes (`RoleVault.Proofs.Accounts.Effect`).
-/

namespace RoleVault.Accounts

open RoleVault.Access (Assignment)
open RoleVault.Store
open RoleVault.Time
open RoleVault.Vault (Attempt Engine Workspace)

variable {before between after store : Store}

/-! ## Reading back -/

/-- Whether both times of a row can be read. -/
structure AreTimes (createdAt updatedAt : String) : Prop where
  created : ∃ instant, Rfc3339.parse? createdAt = some instant
  updated : ∃ instant, Rfc3339.parse? updatedAt = some instant

/-- The times of a row that is written now can be read back. -/
theorem areTimes_new {now : Instant} (dated : now.IsDated) :
    AreTimes (Rfc3339.renderOffset now) (Rfc3339.renderOffset now) :=
  ⟨⟨now, Rfc3339.parse?_renderOffset dated⟩, ⟨now, Rfc3339.parse?_renderOffset dated⟩⟩

theorem AreTimes.touched {createdAt updatedAt : String} {now : Instant}
    (times : AreTimes createdAt updatedAt) (dated : now.IsDated) :
    AreTimes createdAt (Rfc3339.renderOffset now) :=
  ⟨times.created, ⟨now, Rfc3339.parse?_renderOffset dated⟩⟩

private theorem areTimes_of_reads {row : UserRow} {user : UserRecord}
    (reads : Reads store row user) :
    AreTimes row.createdAt row.updatedAt :=
  ⟨⟨_, reads.createdAt⟩, ⟨_, reads.updatedAt⟩⟩

/-- What is kept under a key is found again where its row can be read. -/
theorem readBack_ok {ρ α : Type} {read : Store → ρ → Except StoreError α}
    {find? : Store → Option ρ} {row : ρ} {value : α} (missing : AccountsError)
    (found : find? store = some row) (reads : read store row = .ok value) :
    readBack (.view fun store => readOptional (read store) (find? store)) missing store =
      .ok value := by
  have looks : (Transaction.view fun store => readOptional (read store) (find? store)).run store =
      .ok (some value, store) :=
    Transaction.view_ok.mpr ⟨readOptional_ok.mpr ⟨row, found, reads⟩, rfl⟩
  rw [readBack, looks]

private theorem profileAfter_ok {row : UserRow} {id : UserId} (sound : Sound store)
    (member : row ∈ store.users) (key : row.id = id.text)
    (times : AreTimes row.createdAt row.updatedAt) :
    ∃ profile, profileAfter store id = .ok profile := by
  obtain ⟨⟨_, created⟩, ⟨_, updated⟩⟩ := times
  obtain ⟨user, reads, _⟩ := reads_of_readable sound.leveled.named
    (key ▸ UserId.ofText?_text id) created updated
  exact ⟨.ofRecord user, congrArg (Except.map Profile.ofRecord) (readBack_ok _
    (find?_key sound.schema.userIds member key) (read_eq_ok_iff.mpr reads))⟩

/-- A role of sound tables is read where its times are. -/
theorem readsRole_of_times {row : RoleRow} (sound : Sound store) (member : row ∈ store.roles)
    (times : AreTimes row.createdAt row.updatedAt) : ∃ role, ReadsRole row role := by
  obtain ⟨⟨_, created⟩, ⟨_, updated⟩⟩ := times
  obtain ⟨level, named⟩ := sound.leveled.named row member
  exact ⟨⟨row.id, row.name, level, row.note, row.builtin, _, _⟩,
    ⟨rfl, named, created, updated, rfl, rfl, rfl⟩⟩

/-- A role that is there reads back where its times do. -/
theorem readBack_role {row : RoleRow} {id : RoleId} (missing : AccountsError) (sound : Sound store)
    (member : row ∈ store.roles) (key : row.id = id)
    (times : AreTimes row.createdAt row.updatedAt) :
    ∃ role, readBack (Roles.find? id) missing store = .ok role := by
  obtain ⟨role, reads⟩ := readsRole_of_times sound member times
  exact ⟨role, readBack_ok _ (find?_key sound.schema.roleIds member key)
    (readRole_eq_ok_iff.mpr reads)⟩

theorem readBack_group {row : GroupRow} {id : GroupId} (missing : AccountsError)
    (sound : Sound store)
    (member : row ∈ store.groups) (key : row.id = id)
    (times : AreTimes row.createdAt row.updatedAt) :
    ∃ group, readBack (Groups.find? id) missing store = .ok group := by
  obtain ⟨group, reads⟩ := readGroup_ok_iff.mpr ⟨times.created, times.updated⟩
  exact ⟨group, readBack_ok _ (find?_key sound.schema.groupIds member key) reads⟩

/-! ## Writes -/

section Writes

variable {now : Instant} (dated : now.IsDated)

include dated

/-- A user that was just added reads back. -/
theorem profileAfter_added {user : NewUser} (sound : Sound after)
    (added : Added user now before after) :
      ∃ profile, profileAfter after user.id = .ok profile := by
  have listed : Users.newRow user now ∈ after.users := by
    rw [added.users]
    exact List.mem_append_right _ List.mem_cons_self
  exact profileAfter_ok sound listed rfl (areTimes_new dated)

/-- So does a user that was just changed. -/
theorem profileAfter_saved {row : UserRow} {user changed : UserRecord} {stored : Option String}
    (before_sound : Sound before) (sound : Sound after) (member : row ∈ before.users)
    (reads : Reads before row user) (saved : Saved changed stored now before after)
    (same : changed.id = user.id) :
    ∃ profile, profileAfter after user.id = .ok profile := by
  have key := before_sound.text_eq member reads
  have listed : rewritten changed stored now row ∈ after.users := by
    rw [saved.users, same]
    exact mem_modifyRow.mpr ⟨row, member, .inl ⟨key, rfl⟩⟩
  exact profileAfter_ok sound listed key ((areTimes_of_reads reads).touched dated)

/-- A role that was just added reads back. -/
theorem readBack_addedRole {id : RoleId} {role : NewRole} (missing : AccountsError)
    (added : RoleAdded id role now before after) (sound : Sound after) :
    ∃ role, readBack (Roles.find? id) missing after = .ok role := by
  have listed : newRoleRow id role now ∈ after.roles := by
    rw [added.same]
    exact List.mem_append_right _ List.mem_cons_self
  exact readBack_role missing sound listed rfl (areTimes_new dated)

private theorem readBack_relabeledRole {row : RoleRow} {role : CatalogRole}
    {name note : Option String}
    (missing : AccountsError) (member : row ∈ before.roles) (reads : ReadsRole row role)
    (same : after = { before with
      roles := before.roles.map (relabeledRole row.id name note now) }) (sound : Sound after) :
    ∃ role, readBack (Roles.find? row.id) missing after = .ok role := by
  have listed : relabeledRole row.id name note now row ∈ after.roles := by
    rw [same]
    exact List.mem_map_of_mem member
  refine readBack_role missing sound listed (relabeledRole_id _ _ _ _ _) ?_
  have times : AreTimes row.createdAt row.updatedAt := ⟨⟨_, reads.createdAt⟩, ⟨_, reads.updatedAt⟩⟩
  simpa [relabeledRole] using times.touched dated

/-- A group that was just given another name or note reads back. -/
theorem readBack_relabeledGroup {id : GroupId} {group : CatalogGroup} {name note : Option String}
    (missing : AccountsError) (found : (Groups.find? id).run before = .ok (some group, before))
    (relabeled : Relabeled id name note now before between) (same : after.groups = between.groups)
    (sound : Sound after) : ∃ group, readBack (Groups.find? id) missing after = .ok group := by
  obtain ⟨row, looked, reads⟩ := readOptional_ok.mp (Transaction.view_ok.mp found).1
  obtain ⟨member, rfl⟩ := mem_of_find?_key looked
  obtain ⟨created, updated⟩ := readGroup_ok_iff.mp ⟨group, reads⟩
  have listed : relabeledGroup row.id name note now row ∈ after.groups := by
    rw [same, relabeled.same]
    exact List.mem_map_of_mem member
  refine readBack_group missing sound listed (relabeledGroup_id _ _ _ _ _) ?_
  simpa [relabeledGroup] using (AreTimes.mk created updated).touched dated

end Writes

section Effects

variable {context : Context} {command : Command} {outcome : Except AccountsError Answer}
variable {failure : AccountsError}

/-- A call that writes succeeds, for what it wrote can be read back; so one that fails wrote
nothing.  A sweep over all users is looked at below. -/
theorem Effect.failed (sound : Sound before) (dated : context.now.IsDated)
    (single : command ≠ .sealAll) (effect : Effect context command before outcome after)
    (failed : outcome = .error failure) : after = before := by
  have later := effect.sound sound
  have answers {α : Type} {found : Except AccountsError α} {answer : α → Answer}
      (succeeds : ∃ value, found = .ok value) (fails : found.map answer = .error failure) :
      after = before := by
    obtain ⟨value, rfl⟩ := succeeds
    cases fails
  cases effect with
  | refused => rfl
  | looked => rfl
  | operatorAdded _ inserts =>
    obtain ⟨_, _, added⟩ := inserts
    exact answers (profileAfter_added dated later added) failed
  | userAdded _ _ _ _ inserts =>
    obtain ⟨_, _, added⟩ := inserts
    exact answers (profileAfter_added dated later added) failed
  | userSaved _ member _ reads _ _ _ _ _ saved =>
    exact answers (profileAfter_saved dated sound later member reads saved rfl) failed
  | roleAdded _ added =>
    exact answers (readBack_addedRole dated _ added later) failed
  | roleRelabeled _ member same reads _ =>
    subst same
    exact answers (readBack_relabeledRole dated _ member reads rfl later) failed
  | groupRelabeled _ found relabeled lists =>
    refine answers (readBack_relabeledGroup dated _ found relabeled ?_ later) failed
    obtain rfl | ⟨_, _, lists⟩ := lists
    · rfl
    · rw [lists.same]
  | swept => exact absurd rfl single
  | _ => cases failed

end Effects

/-! ## Sweeps -/

private theorem ofVault_available {failure : VaultError} {reason : String}
    (unavailable : AccountsError.ofVault failure = .engineUnavailable reason) :
    failure.isUnavailable = true := by
  cases failure <;> first | rfl | cases unavailable

private theorem ofStore_available (failure : StoreError) (reason : String) :
    AccountsError.ofStore failure ≠ .engineUnavailable reason := by
  cases failure <;> nofun

private theorem add_ok_of_available (report : SealReport) (user : UserRecord)
    {outcome : Except AccountsError Unit}
    (available : ∀ reason, outcome ≠ .error (.engineUnavailable reason)) :
    ∃ next, Users.SealReport.add report user outcome = .ok next := by
  unfold Users.SealReport.add
  split
  · exact ⟨_, rfl⟩
  · exact ⟨_, rfl⟩
  · exact absurd rfl (available _)
  · exact ⟨_, rfl⟩

section Sweeps

open RoleVault.Accounts.Action

variable {context : Context} {files : Workspace}

/-- Without the public key nothing is sealed, and nothing changes. -/
theorem exec_sealRecord_missing (absent : files.disk.isFile context.vault.keys.publicKey = false)
    (user : UserRecord) (database : Database) :
    (exec (Users.sealRecord context user) ⟨database, files⟩).2 = ⟨database, files⟩ := by
  unfold Users.sealRecord
  split
  · rfl
  · rw [exec_bind, exec_require]
    cases Access.isPasswordShaped user.stored with
    | false => rfl
    | true =>
      simp only [if_true]
      rw [exec_bind, exec_vault, Vault.sealFor_missing absent]
      rfl

private theorem exec_sealEach_missing
    (absent : files.disk.isFile context.vault.keys.publicKey = false)
    (users : List UserRecord) (report : SealReport) (database : Database) :
    (exec (Users.sealEach context users report) ⟨database, files⟩).2 = ⟨database, files⟩ := by
  induction users generalizing report with
  | nil => rfl
  | cons user rest inductionHypothesis =>
    rw [Users.sealEach, exec_bind, exec_outcome, exec_sealRecord_missing absent]
    simp only
    split
    · exact inductionHypothesis _
    · rfl

/-- With the public key there, sealing the password of a user may fail, but not for want of it. -/
theorem exec_sealRecord_present {hanging : Bool}
    (inProcess : context.vault.engine = Engine.inProcess hanging)
    (present : files.disk.isFile context.vault.keys.publicKey = true) (user : UserRecord)
    (store : Store) : ∃ outcome after later,
      exec (Users.sealRecord context user) ⟨.opened store, files⟩ =
        (outcome, ⟨.opened after, later⟩) ∧
      (∀ reason, outcome ≠ .error (.engineUnavailable reason)) ∧
      later.disk.isFile context.vault.keys.publicKey = true := by
  have still : (Attempt.exec (context.vault.sealFor (Role.highest user.roles) ⟨user.stored⟩)
      files).2.disk.isFile context.vault.keys.publicKey = true :=
    Vault.sealFor_isFile inProcess present
  unfold Users.sealRecord
  split
  · exact ⟨_, store, files, rfl, nofun, present⟩
  · rw [exec_bind, exec_require]
    cases Access.isPasswordShaped user.stored with
    | false => exact ⟨_, store, files, rfl, nofun, present⟩
    | true =>
      simp only [if_true]
      rw [exec_bind, exec_vault]
      cases ended : Attempt.exec
          (context.vault.sealFor (Role.highest user.roles) ⟨user.stored⟩) files with
      | mk sealing later =>
        rw [ended] at still
        cases sealing with
        | error failure =>
          refine ⟨_, store, later, rfl, fun reason unavailable => ?_, still⟩
          have want := ofVault_available (Except.error.inj unavailable)
          rw [Vault.sealFor_available inProcess present ended] at want
          cases want
        | ok stored =>
          simp only [Except.mapError]
          rw [exec_bind, exec_transact]
          cases sets : (Store.Users.setStored user.id stored context.now).run store with
          | error failure =>
            exact ⟨_, store, later, rfl,
              fun reason same => ofStore_available failure reason (Except.error.inj same), still⟩
          | ok result =>
            obtain ⟨found, after⟩ := result
            cases found with
            | false => exact ⟨_, after, later, rfl, nofun, still⟩
            | true => exact ⟨_, after, later, rfl, nofun, still⟩

/-- With the public key there, a sweep gets to its end. -/
theorem exec_sealEach_present {hanging : Bool}
    (inProcess : context.vault.engine = Engine.inProcess hanging)
    (present : files.disk.isFile context.vault.keys.publicKey = true) (users : List UserRecord)
    (report : SealReport) (store : Store) : ∃ final state,
      exec (Users.sealEach context users report) ⟨.opened store, files⟩ = (.ok final, state) := by
  induction users generalizing store files report with
  | nil => exact ⟨report, _, rfl⟩
  | cons user rest inductionHypothesis =>
    obtain ⟨outcome, after, later, ended, available, still⟩ :=
      exec_sealRecord_present inProcess present user store
    obtain ⟨next, added⟩ := add_ok_of_available report user available
    rw [Users.sealEach, exec_bind, exec_outcome, ended]
    simp only [added]
    exact inductionHypothesis still next after

/-- A sweep that fails changed nothing: it is the public key that is missing, from the beginning. -/
theorem exec_sealAll_failed {hanging : Bool} {failure : AccountsError} {after : State}
    (inProcess : context.vault.engine = Engine.inProcess hanging)
    (ends : exec (Users.sealAll context) ⟨.opened store, files⟩ = (.error failure, after)) :
    after.database = .opened store := by
  rw [Users.sealAll, exec_bind, exec_transact] at ends
  cases listed : (Store.Users.list).run store with
  | error cause =>
    rw [listed] at ends
    cases ends
    rfl
  | ok result =>
    obtain ⟨users, same⟩ := result
    obtain rfl : same = store := Transaction.view_same listed
    rw [listed] at ends
    cases present : files.disk.isFile context.vault.keys.publicKey with
    | false =>
      have unchanged := exec_sealEach_missing present users {} (.opened same)
      rw [show exec (Users.sealEach context users {}) _ = _ from ends] at unchanged
      exact congrArg State.database unchanged
    | true =>
      obtain ⟨final, state, succeeds⟩ :=
        exec_sealEach_present inProcess present users {} same
      rw [show exec (Users.sealEach context users {}) _ = _ from ends] at succeeds
      cases succeeds

end Sweeps

/-! ## Every state -/

/-- A call that fails on sound tables leaves them as they were. -/
theorem perform_failed {context : Context} {command : Command} {failure : AccountsError}
    {files : Workspace} (sound : Sound store) (dated : context.now.IsDated)
    (inProcess : command = .sealAll → ∃ hanging, context.vault.engine = Engine.inProcess hanging)
    (failed : command.outcome context ⟨.opened store, files⟩ = .error failure) :
    (Action.exec (command.perform context) ⟨.opened store, files⟩).2.database = .opened store := by
  by_cases sweep : command = .sealAll
  · subst sweep
    obtain ⟨hanging, inProcess⟩ := inProcess rfl
    rw [Command.outcome, Command.perform, Action.exec_map] at failed
    rw [Command.perform, Action.exec_map]
    generalize ended : Action.exec (Users.sealAll context) ⟨.opened store, files⟩ = ending
      at failed ⊢
    obtain ⟨outcome, after⟩ := ending
    cases outcome with
    | error cause => exact exec_sealAll_failed inProcess ended
    | ok report => cases failed
  · obtain ⟨outcome, after, later, ends, effect⟩ := perform_effect context command store files
    rw [Command.outcome, ends] at failed
    rw [ends]
    exact congrArg Database.opened (effect.failed sound dated sweep failed)

/-- A call that fails leaves all tables as they were, in every state that a run leads to, whatever
the files are like, while the clock tells a time that can be read back.  The engine matters to a
sweep over all users alone. -/
theorem failed_call_changes_nothing (installed : Instant) (workspace : Workspace)
    (events : List Event) {context : Context} {command : Command} {failure : AccountsError}
    (dated : context.now.IsDated)
    (inProcess : command = .sealAll → ∃ hanging, context.vault.engine = Engine.inProcess hanging)
    (failed : command.outcome context (run events (State.fresh installed workspace)) =
      .error failure) :
    ((Event.call context command).apply (run events (State.fresh installed workspace))).database =
      (run events (State.fresh installed workspace)).database := by
  obtain ⟨store, files, leads, sound⟩ := run_sound installed workspace events
  rw [leads] at failed ⊢
  exact perform_failed sound dated inProcess failed

/-- Another creation, with a key of its own. -/
def Sample.again : Context :=
  { Sample.context with freshId := ⟨List.replicate 16 10, rfl⟩ }

open RoleVault.Accounts.Action in
/-- Where there is a service operator, another one of its name is refused, after its password has been
sealed; the first one stays as it is. -/
theorem failed_creation_changes_nothing :
    Sample.again.now.IsDated ∧ Sample.row ∈ Sample.tables.users ∧
      run Sample.events (State.fresh Sample.now Sample.files) =
        ⟨.opened Sample.tables, Sample.files⟩ ∧
      (Command.createOperator Sample.request).outcome Sample.again
          (run Sample.events (State.fresh Sample.now Sample.files)) =
        .error (.conflict "user root already exists") ∧
      ((Event.call Sample.again (.createOperator Sample.request)).apply
          (run Sample.events (State.fresh Sample.now Sample.files))).database =
        .opened Sample.tables := by
  have valid : Sample.request.fields.validate = .ok () := by decide
  have seals : (Attempt.exec (Sample.vault.sealFor .operator Sample.request.password)
      Sample.files).1 = .ok (Vault.sealedText .operator Sample.request.password.expose) :=
    Vault.sealFor_ready rfl Sample.ready.tree (Sample.usable (.inl rfl)) Sample.ready.publicKey
  have taken : (Store.Users.create (Sample.request.newUser Sample.again.freshId
      Users.operatorAssignment (Vault.sealedText .operator Sample.request.password.expose))
        Sample.now).run Sample.tables = .error (.taken "user root") := rfl
  have refused : exec (Users.insert Sample.again Sample.request Users.operatorAssignment)
      ⟨.opened Sample.tables, Sample.files⟩ = (.error (.conflict "user root already exists"), _) :=
    (exec_bind_ok (exec_vault_ok seals)).trans (exec_bind_error (exec_transact_error taken _))
  have failed : (Command.createOperator Sample.request).outcome Sample.again
      (run Sample.events (State.fresh Sample.now Sample.files)) =
        .error (.conflict "user root already exists") := by
    rw [Sample.run_events, Command.outcome, Command.perform, exec_map, Users.createOperator,
      exec_bind_ok (exec_check_ok valid _), refused]
    rfl
  have dated : Sample.again.now.IsDated := by decide
  have unchanged := failed_call_changes_nothing Sample.now Sample.files Sample.events dated
    (fun _ => ⟨false, rfl⟩) failed
  refine ⟨dated, List.mem_cons_self, Sample.run_events, failed, unchanged.trans ?_⟩
  rw [Sample.run_events]

end RoleVault.Accounts
