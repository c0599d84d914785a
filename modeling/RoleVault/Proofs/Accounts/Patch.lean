import Mathlib
import RoleVault.Proofs.Accounts.Login
import RoleVault.Proofs.Vault.Exactness

/-!
Contract: an update changes what it was asked to change, and nothing else.

Owns:
- `Restored`, what becomes of the password that is kept for a user;
- `Patches`, the tables after an update, column by column;
- `update_is_exact_patch`: in every state that a run leads to, an update that succeeds is a patch.

Does not own: which updates succeed (`RoleVault.Proofs.Accounts.Escalation`, `RoleVault.Access.Gate`).
-/

namespace RoleVault.Accounts

open RoleVault.Access (Assignment Grant)
open RoleVault.Store
open RoleVault.Time
open RoleVault.Vault (Attempt Engine Workspace sealedText)

variable {before after store : Store}

/-! ## Patches -/

/-- What becomes of the text that is kept as a password, where the highest level of its user was one
and is now another: a supplied password is sealed for the new level, and without one the password that
was sealed is sealed again if the level changes.  Everything else stays as it is. -/
inductive Restored (was level : Role) (old : String) : Option Secret → String → Prop where
  | supplied (password : Secret) :
    Restored was level old (some password) (sealedText level password.expose)
  | resealed {role : Role} {password : String} (changes : level ≠ was)
    (closed : Vault.classify old = .sealed) (opens : old = sealedText role password) :
    Restored was level old none (sealedText level password)
  | unchanged (stays : level = was ∨ Vault.classify old = .plaintext) : Restored was level old none old

/-- The tables after the row of a user was patched as a request says: what is supplied is written,
what is not stays, and no one else is touched. -/
structure Patches (request : UpdateRequest) (now : Instant) (row written : UserRow)
    (before after : Store) : Prop where
  id : written.id = row.id
  createdAt : written.createdAt = row.createdAt
  name : written.name = request.newName.getD row.name
  displayName : written.displayName = request.displayName.getD row.displayName
  email : written.email = request.email.or row.email
  phone : written.phone = request.phone.or row.phone
  group : written.group =
    if after.highestHeld row.id = .operator then operatorGroup else request.group.getD row.group
  stored : Restored (before.highestHeld row.id) (after.highestHeld row.id) row.stored
    request.password written.stored
  updatedAt : written.updatedAt = Rfc3339.renderOffset now
  roles : ∀ role, ⟨row.id, role⟩ ∈ after.userRoles ↔
    if request.roles = [] then ⟨row.id, role⟩ ∈ before.userRoles else role ∈ request.roles
  users : after.users = Users.modifyRow row.id (fun _ => written) before.users
  others : ∀ user, user ≠ row.id → ∀ role,
    ⟨user, role⟩ ∈ after.userRoles ↔ ⟨user, role⟩ ∈ before.userRoles
  once : after.userRoles.Nodup
  catalog : SameCatalog before after

/-! ## Rows -/

/-- The roles that a record grants are those that are noted for its user. -/
theorem mem_grants {row : UserRow} {user : UserRecord} (schema : Schema store)
    (reads : Reads store row user) (role : RoleId) :
    role ∈ user.grants.map Grant.id ↔ ⟨row.id, role⟩ ∈ store.userRoles := by
  have ids : (store.heldRoles row.id).map RoleRow.id = user.grants.map Grant.id := by
    have keys := congrArg (List.map Prod.fst) reads.grants
    simpa [List.map_map, Function.comp_def] using keys
  rw [← ids, List.mem_map]
  constructor
  · rintro ⟨held, member, rfl⟩
    exact (mem_heldRoles.mp member).2
  · intro held
    obtain ⟨source, member, same⟩ := schema.heldRole _ held
    refine ⟨source, mem_heldRoles.mpr ⟨member, ?_⟩, same⟩
    rw [same]
    exact held

/-- Only one row has the key of a user, so that it is this row that is written. -/
theorem modifyRow_unique {row : UserRow} {write : UserRow → UserRow} (schema : Schema store)
    (member : row ∈ store.users) :
    Users.modifyRow row.id write store.users =
      Users.modifyRow row.id (fun _ => write row) store.users := by
  unfold Users.modifyRow
  apply List.map_congr_left
  intro other otherMember
  by_cases same : other.id = row.id
  · rw [schema.user_eq otherMember member same]
  · rw [if_neg (by simpa using same), if_neg (by simpa using same)]

/-! ## Updates -/

section Updates

variable {context : Context} {hanging : Bool}
variable {row : UserRow} {user : UserRecord} {request : UpdateRequest} {assignment : Assignment}
variable {stored : Option String}

/-- What an update writes as the password is what becomes of the one that is kept. -/
theorem Restores.restored (inProcess : context.vault.engine = Engine.inProcess hanging)
    {level : Role} {supplied : Option Secret}
    (restores : Restores context.vault user level supplied stored) :
    Restored user.assignment.highest level user.stored supplied (stored.getD user.stored) := by
  cases restores with
  | @supplied password stored sealing =>
    obtain rfl := seals_eq inProcess sealing
    exact .supplied password
  | kept same => exact .unchanged (.inl same)
  | plaintext plain => exact .unchanged (.inr plain)
  | @resealed password stored closed opening sealing changes =>
    obtain ⟨_, _, opens⟩ := opening
    obtain ⟨role, _, sealedFor⟩ := Vault.eq_sealedText_of_opened inProcess opens
    obtain rfl := seals_eq inProcess sealing
    exact .resealed changes closed sealedFor

/-- An update gives a user the roles of the request, or leaves it the ones it has. -/
theorem ids_forUpdate (user : UserRecord) {grants : List Grant}
    (granted : Granted before request.roles grants) :
    (Assignment.forUpdate user.assignment grants request.group).grants.map Grant.id =
      if request.roles = [] then user.grants.map Grant.id else request.roles := by
  rw [Assignment.grants_forUpdate, ← granted.ids]
  cases grants <;> rfl

/-- The tables after a user was saved with the fields of a request are patched. -/
theorem patches_saved (inProcess : context.vault.engine = Engine.inProcess hanging)
    (sound : Sound before) (member : row ∈ before.users) (reads : Reads before row user)
    {grants : List Grant} (granted : Granted before request.roles grants)
    (assigned : assignment = Assignment.forUpdate user.assignment grants request.group)
    (restores : Restores context.vault user assignment.highest request.password stored)
    (saved : Saved (request.applyTo user assignment) stored context.now before after) :
    Patches request context.now row
      (rewritten (request.applyTo user assignment) stored context.now row) before after := by
  subst assigned
  have key : row.id = user.id.text := sound.text_eq member reads
  have holds := saved.holds
  rw [show (request.applyTo user _).id.text = row.id from key.symm] at holds
  have level := holds.highest saved.catalog (truthful_forUpdate sound.schema reads granted)
  have was : before.highestHeld row.id = user.assignment.highest :=
    congrArg Role.highest reads.roles.symm
  exact {
    id := rfl
    createdAt := rfl
    name := congrArg (request.newName.getD ·) reads.name
    displayName := congrArg (request.displayName.getD ·) reads.displayName
    email := congrArg (request.email.or ·) reads.email
    phone := congrArg (request.phone.or ·) reads.phone
    group := by
      rw [level, ← reads.group]
      exact Assignment.group_forUpdate user.assignment
    stored := by
      rw [level, was, ← reads.stored]
      exact restores.restored inProcess
    updatedAt := rfl
    roles := by
      intro role
      have ids := ids_forUpdate user granted
      rw [holds.held, if_pos rfl]
      change role ∈ (Assignment.forUpdate _ _ _).grants.map Grant.id ↔ _
      rw [ids]
      split
      · exact mem_grants sound.schema reads role
      · exact Iff.rfl
    users := by
      rw [saved.users, ← modifyRow_unique sound.schema member, key]
      rfl
    others := by
      intro other different role
      rw [holds.held, if_neg different]
    once := holds.once sound.schema.heldOnce
    catalog := saved.catalog }

end Updates

/-! ## Calls -/

/-- The patched row is in the tables. -/
theorem Patches.mem_users {request : UpdateRequest} {now : Instant} {row written : UserRow}
    (patches : Patches request now row written before after) (member : row ∈ before.users) :
    written ∈ after.users := by
  rw [patches.users]
  exact mem_modifyRow.mpr ⟨row, member, .inl ⟨rfl, rfl⟩⟩

private theorem profileAfter_of_answer {id : UserId} {profile : Profile}
    (answers : (profileAfter store id).map Answer.profile = .ok (.profile profile)) :
    profileAfter store id = .ok profile := by
  cases found : profileAfter store id with
  | error failure =>
    rw [found] at answers
    cases answers
  | ok other =>
    rw [found] at answers
    cases answers
    rfl

/-- An update that succeeds patches the user with the name, and answers with what its row is then. -/
theorem Effect.patches {context : Context} {hanging : Bool} {caller : Identity}
    {request : UpdateRequest} {outcome : Except AccountsError Answer} {profile : Profile}
    (sound : Sound before) (inProcess : context.vault.engine = Engine.inProcess hanging)
    (effect : Effect context (.updateUser caller request) before outcome after)
    (succeeds : outcome = .ok (.profile profile)) :
    ∃ row ∈ before.users, row.name = request.name ∧
      ∃ written, Patches request context.now row written before after ∧
        ∃ user, Reads after written user ∧ profile = .ofRecord user := by
  have soundAfter := effect.sound sound
  cases effect with
  | refused => cases succeeds
  | @userSaved _ _ row user _ _ _ _ _ _ member named reads _ granted assigned _ restores saved =>
    have patches := patches_saved inProcess sound member reads granted assigned restores saved
    obtain ⟨found, foundMember, key, record, describes, answer⟩ :=
      profileAfter_reads (profileAfter_of_answer succeeds)
    have same : found = _ := soundAfter.schema.user_eq foundMember (patches.mem_users member)
      (key.trans (sound.text_eq member reads).symm)
    subst same
    exact ⟨row, member, named, _, patches, record, describes, answer⟩

/-- In every state that a run leads to, whoever calls for whatever, an update that succeeds is a patch
of one user: what the request supplies is written, what it does not supply stays, the password follows
the highest level, and no other user, role or group is touched. -/
theorem update_is_exact_patch (installed : Instant) (workspace : Workspace) (events : List Event)
    {context : Context} {hanging : Bool} {caller : Identity} {request : UpdateRequest}
    {profile : Profile} {final : State}
    (inProcess : context.vault.engine = Engine.inProcess hanging)
    (updates : Action.exec (Users.update context caller request)
      (run events (State.fresh installed workspace)) = (.ok profile, final)) :
    ∃ before files after later,
      run events (State.fresh installed workspace) = ⟨.opened before, files⟩ ∧
      final = ⟨.opened after, later⟩ ∧
      ∃ row ∈ before.users, row.name = request.name ∧
        ∃ written, Patches request context.now row written before after ∧
          ∃ user, Reads after written user ∧ profile = .ofRecord user := by
  obtain ⟨before, files, leads, sound⟩ := run_sound installed workspace events
  obtain ⟨outcome, after, later, ends, effect⟩ :=
    perform_effect context (.updateUser caller request) before files
  rw [leads] at updates
  rw [Command.perform, Action.exec_map, updates] at ends
  cases ends
  exact ⟨before, files, after, later, leads, rfl, effect.patches sound inProcess rfl⟩

/-! ## Another password for the first operator -/

open RoleVault.Accounts.Action in
/-- An update that passes its checks and leaves roles and group alone writes the user, with what becomes
of its password. -/
theorem exec_update_kept {context : Context} {caller : Identity} {request : UpdateRequest}
    {user : UserRecord} {grants : List Grant} {stored : Option String} {state : State}
    {files : Workspace} (valid : request.fields.validate = .ok ())
    (finds : exec (Users.find request.name) state = (.ok user, state))
    (allowed : (Access.Gate.updateUser caller (Users.target user)).toExcept = .ok ())
    (granted : exec (Users.grantsOf request.roles) state = (.ok grants, state))
    (stays : Assignment.forUpdate user.assignment grants request.group = user.assignment)
    (stores : exec (Users.newStored context.vault user request.password user.assignment.highest)
      state = (.ok stored, ⟨.opened store, files⟩))
    (saves : (Users.save (request.applyTo user user.assignment) stored context.now).run store =
      .ok (true, after)) :
    exec (Users.update context caller request) state =
      (profileAfter after user.id, ⟨.opened after, files⟩) := by
  rw [Users.update, exec_bind_ok (exec_check_ok valid _), exec_bind_ok finds,
    exec_bind_ok (exec_check_ok allowed _), exec_bind_ok granted]
  dsimp only
  rw [stays, if_neg (not_not.mpr rfl), exec_bind_ok stores, exec_bind_ok (exec_transact_ok saves _)]
  exact exec_writtenProfile user.id after files

namespace Sample

def change : UpdateRequest where
  name := "root"
  newName := some "chief"
  password := some ⟨"password2"⟩

def changedTables : Store :=
  { tables with
    users := [rewritten (change.applyTo record record.assignment)
      (some (sealedText .operator "password2")) now row] }

private theorem saves_change :
    (Users.save (change.applyTo record record.assignment)
      (some (sealedText .operator "password2")) now).run tables = .ok (true, changedTables) := by
  rfl

open RoleVault.Accounts.Action in
/-- The first operator may change itself, as long as it keeps its roles and its group. -/
theorem exec_selfUpdate {request : UpdateRequest} {stored : Option String} {after : Store}
    {later : Workspace} (valid : request.fields.validate = .ok ()) (named : request.name = "root")
    (roles : request.roles = []) (group : request.group = none)
    (stores : exec (Users.newStored context.vault record request.password record.assignment.highest)
      ⟨.opened tables, files⟩ = (.ok stored, ⟨.opened tables, later⟩))
    (saves : (Users.save (request.applyTo record record.assignment) stored now).run tables =
      .ok (true, after)) :
    ∃ profile, exec (Users.update context self request) ⟨.opened tables, files⟩ =
      (.ok profile, ⟨.opened after, later⟩) := by
  have finds : exec (Users.find request.name) ⟨.opened tables, files⟩ =
      (.ok record, ⟨.opened tables, files⟩) := by
    rw [named]
    exact exec_find rfl reads_record files
  have allowed : (Access.Gate.updateUser self (Users.target record)).toExcept = .ok () := by decide
  have granted : exec (Users.grantsOf request.roles) ⟨.opened tables, files⟩ =
      (.ok [], ⟨.opened tables, files⟩) := by
    rw [roles]
    rfl
  have stays : Assignment.forUpdate record.assignment [] request.group = record.assignment := by
    rw [group]
    decide
  have saved := ((save_ok saves).resolve_left fun refused => nomatch refused.1).2
  obtain ⟨profile, found⟩ := profileAfter_saved (by decide : now.IsDated) sound_tables
    (sound_tables.saved saved) List.mem_cons_self reads_record saved rfl
  refine ⟨profile, ?_⟩
  rw [← found]
  exact exec_update_kept valid finds allowed granted stays stores saves

open RoleVault.Accounts.Action in
/-- The first operator changes its own name and password. -/
theorem exec_change : ∃ profile later,
    exec (Users.update context self change) (run events (State.fresh now files)) =
      (.ok profile, ⟨.opened changedTables, later⟩) := by
  have seals : (Attempt.exec (vault.sealFor .operator ⟨"password2"⟩) files).1 =
      .ok (sealedText .operator "password2") :=
    Vault.sealFor_ready rfl ready.tree (usable (.inl rfl)) ready.publicKey
  have stores : exec (Users.newStored vault record change.password .operator)
      ⟨.opened tables, files⟩ = (.ok (some (sealedText .operator "password2")), ⟨.opened tables,
        (Attempt.exec (vault.sealFor .operator ⟨"password2"⟩) files).2⟩) :=
    exec_bind_ok (exec_vault_ok seals)
  rw [run_events]
  obtain ⟨profile, updates⟩ := exec_selfUpdate (by decide) rfl rfl rfl stores saves_change
  exact ⟨profile, _, updates⟩

end Sample

/-- The first operator takes another name and another password; all else stays. -/
theorem first_operator_update_is_exact_patch :
    Sample.vault.engine = Engine.inProcess false ∧
      ∃ profile final, Action.exec (Users.update Sample.context Sample.self Sample.change)
          (run Sample.events (State.fresh Sample.now Sample.files)) = (.ok profile, final) ∧
        ∃ after later, final = ⟨.opened after, later⟩ ∧
          ∃ row ∈ Sample.tables.users, ∃ written,
            Patches Sample.change Sample.now row written Sample.tables after ∧
              written.name = "chief" ∧ written.displayName = row.displayName ∧
              written.stored = sealedText (after.highestHeld row.id) "password2" := by
  obtain ⟨profile, filesAfter, updates⟩ := Sample.exec_change
  obtain ⟨before, files, after, later, leads, ends, row, member, _, written, patches, _⟩ :=
    update_is_exact_patch Sample.now Sample.files Sample.events rfl updates
  obtain rfl : before = Sample.tables := by
    rw [Sample.run_events] at leads
    cases leads
    rfl
  refine ⟨rfl, profile, _, updates, after, later, ends, row, member, written, patches,
    patches.name, patches.displayName, ?_⟩
  have stored := patches.stored
  generalize written.stored = text at stored ⊢
  cases stored
  rfl

end RoleVault.Accounts
