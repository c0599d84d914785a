import RoleVault.Proofs.Accounts.Failure
import RoleVault.Proofs.Accounts.Policy
import RoleVault.Proofs.Secret

/-!
Contract: a login checks the password that was last given, whatever happened to it since.

Owns:
- `remembered`, the passwords that the events of a run give to users, kept as they are;
- `Faithful`, tables that keep for each user the password that is remembered;
- `authenticate_faithful`, how a login ends on such tables, and `login_follows_memory`, how it ends
  after every run.

Does not own: in what form a password is kept (`RoleVault.Proofs.Accounts.Passwords`).
-/

namespace RoleVault.Accounts

open RoleVault.Access (Grant)
open RoleVault.Store
open RoleVault.Time
open RoleVault.Vault (Attempt Engine Ready Workspace sealedText)

variable {before after store : Store}

/-! ## What is remembered -/

/-- The passwords that users were given last. -/
abbrev Memory := UserId → Option String

/-- The memory after a user was given a password, if one was. -/
def Memory.note (memory : Memory) : Option Given → Memory
  | none => memory
  | some (id, password) => fun other => if other = id then some password else memory other

/-- The password that an event gives to a user, if it gives one. -/
def Event.given : Event → State → Option Given
  | call context command, state => command.given (command.outcome context state)
  | insert user now, state =>
    match (Action.exec (Action.transact (Store.Users.create user now)) state).1 with
    | .ok _ => some (user.id, user.stored)
    | .error _ => none
  | files _, _ => none

/-- The memory after some events from a state. -/
def remembered : List Event → State → Memory → Memory
  | [], _, memory => memory
  | event :: rest, state, memory =>
    remembered rest (event.apply state) (memory.note (event.given state))

/-! ## Times -/

/-- Tables in which the times of all users can be read. -/
def Timed (store : Store) : Prop :=
  ∀ row ∈ store.users, AreTimes row.createdAt row.updatedAt

theorem timed_freshTables (stamp : String) : Timed (freshTables stamp) :=
  nofun

namespace Timed

theorem of_users (timed : Timed before) (users : after.users = before.users) : Timed after := by
  rw [Timed, users]
  exact timed

theorem added {user : NewUser} {now : Instant} (timed : Timed before) (dated : now.IsDated)
    (added : Added user now before after) : Timed after := by
  intro row member
  rw [added.users, List.mem_append, List.mem_singleton] at member
  rcases member with member | rfl
  · exact timed row member
  · exact areTimes_new dated

/-- A user that is written at a time that can be read. -/
theorem modified {id : String} {write : UserRow → UserRow} {now : Instant} (timed : Timed before)
    (dated : now.IsDated) (users : after.users = Users.modifyRow id write before.users)
    (created : ∀ row, (write row).createdAt = row.createdAt)
    (updated : ∀ row, (write row).updatedAt = Rfc3339.renderOffset now) : Timed after := by
  rw [Timed, users]
  refine forall_modifyRow timed fun row times => ?_
  rw [created, updated]
  exact times.touched dated

theorem sweeps {context : Context} {users : List UserRecord} (timed : Timed before)
    (dated : context.now.IsDated) (sweeps : Sweeps context users before after) : Timed after := by
  induction sweeps with
  | ended users store => exact timed
  | skipped rest inductionHypothesis => exact inductionHypothesis timed
  | «sealed» kept rest inductionHypothesis =>
    exact inductionHypothesis (timed.modified dated rfl (fun _ => rfl) fun _ => rfl)

/-- Where all times can be read, so can every user. -/
theorem reads {row : UserRow} (timed : Timed store) (sound : Sound store)
    (member : row ∈ store.users) : ∃ user, Reads store row user ∧ row.id = user.id.text := by
  obtain ⟨id, key⟩ := sound.keys row member
  obtain ⟨⟨_, created⟩, ⟨_, updated⟩⟩ := timed row member
  obtain ⟨user, reads, rfl⟩ := reads_of_readable sound.leveled.named
    (key ▸ UserId.ofText?_text id) created updated
  exact ⟨user, reads, key⟩

end Timed

/-- A call at a time that can be read back keeps all times of users readable. -/
theorem Effect.timed {context : Context} {command : Command} {outcome : Except AccountsError Answer}
    (sound : Sound before) (timed : Timed before) (dated : context.now.IsDated)
    (effect : Effect context command before outcome after) : Timed after := by
  have catalog := effect.catalog sound
  cases effect with
  | refused => exact timed
  | looked => exact timed
  | operatorAdded _ inserts =>
    obtain ⟨_, _, added⟩ := inserts
    exact timed.added dated added
  | userAdded _ _ _ _ inserts =>
    obtain ⟨_, _, added⟩ := inserts
    exact timed.added dated added
  | userSaved _ _ _ _ _ _ _ _ _ saved =>
    exact timed.modified dated saved.users (fun _ => rfl) fun _ => rfl
  | userDeleted _ _ _ _ => exact fun row member => timed row (List.mem_of_mem_filter member)
  | passwordSealed _ _ _ _ => exact timed.modified dated rfl (fun _ => rfl) fun _ => rfl
  | swept _ sweeps => exact timed.sweeps dated sweeps
  | _ => exact timed.of_users (catalog rfl).2.users

/-! ## Faithful tables -/

/-- Sound tables that can be read and keep for each user the password that is remembered. -/
structure Faithful (memory : Memory) (store : Store) : Prop where
  sound : Sound store
  timed : Timed store
  has : ∀ row ∈ store.users, ∀ id : UserId, row.id = id.text →
    ∃ password, memory id = some password ∧ Has store row password

private theorem faithful_freshTables (stamp : String) :
    Faithful (fun _ => none) (freshTables stamp) :=
  ⟨sound_freshTables stamp, timed_freshTables stamp, nofun⟩

/-- A memory that notes what is given stays true to the tables. -/
theorem Faithful.carried {memory : Memory} {given : Option Given}
    (faithful : Faithful memory before)
    (sound : Sound after) (timed : Timed after) (carries : Carries given before after) :
    Faithful (memory.note given) after := by
  refine ⟨sound, timed, fun row member id key => ?_⟩
  obtain ⟨other, password, rfl, same, has⟩ | ⟨ungiven, source, sourceMember, same, keeps⟩ :=
    carries row member
  · obtain rfl := UserId.text_injective (key.symm.trans same)
    exact ⟨password, if_pos rfl, has⟩
  · obtain ⟨password, known, has⟩ := faithful.has source sourceMember id (same.trans key)
    refine ⟨password, ?_, keeps password has⟩
    cases given with
    | none => exact known
    | some given =>
      have different : id ≠ given.1 := by
        rintro rfl
        exact ungiven _ _ rfl key
      exact (if_neg different).trans known

/-! ## Runs -/

/-- Whether the clock of an event tells a time that can be read back. -/
def Event.IsDated : Event → Prop
  | call context _ => context.now.IsDated
  | insert _ now => now.IsDated
  | files _ => True

/-- A call notes what it gives if it succeeds; if it fails, there is nothing to note. -/
theorem faithful_call {memory : Memory} {context : Context} {command : Command} {hanging : Bool}
    {outcome : Except AccountsError Answer} {files later : Workspace}
    (faithful : Faithful memory before) (dated : context.now.IsDated)
    (inProcess : context.vault.engine = Engine.inProcess hanging)
    (ends : Action.exec (command.perform context) ⟨.opened before, files⟩ =
      (outcome, ⟨.opened after, later⟩))
    (effect : Effect context command before outcome after) :
    Faithful (memory.note (command.given outcome)) after := by
  have sound := faithful.sound
  cases outcome with
  | ok answer =>
    obtain ⟨given, carries, gives⟩ := effect.carries sound inProcess
    rw [gives ⟨answer, rfl⟩]
    exact faithful.carried (effect.sound sound) (effect.timed sound faithful.timed dated) carries
  | error failure =>
    have failed : command.outcome context ⟨.opened before, files⟩ = .error failure :=
      congrArg Prod.fst ends
    have same := perform_failed sound dated (fun _ => ⟨hanging, inProcess⟩) failed
    rw [ends] at same
    obtain rfl : after = before := by
      cases same
      rfl
    have ungiven : command.given (.error failure) = none := by cases command <;> rfl
    rw [ungiven]
    exact faithful

private theorem faithful_event {memory : Memory} {event : Event} (regular : event.IsRegular)
    (dated : event.IsDated) (faithful : Faithful memory before) (files : Workspace) :
    ∃ after later, event.apply ⟨.opened before, files⟩ = ⟨.opened after, later⟩ ∧
      Faithful (memory.note (event.given ⟨.opened before, files⟩)) after := by
  cases event with
  | call context command =>
    obtain ⟨hanging, inProcess⟩ := regular
    obtain ⟨outcome, after, later, ends, effect⟩ := perform_effect context command before files
    refine ⟨after, later, congrArg Prod.snd ends, ?_⟩
    rw [Event.given, Command.outcome, ends]
    exact faithful_call faithful dated inProcess ends effect
  | insert user now =>
    rw [Event.apply, Event.given, Action.exec_transact]
    cases created : (Store.Users.create user now).run before with
    | error failure => exact ⟨before, files, rfl, faithful⟩
    | ok result =>
      have added := create_ok created
      exact ⟨result.2, files, rfl, faithful.carried (faithful.sound.added added)
        (faithful.timed.added dated added) (Event.carries_inserted added regular)⟩
  | files change => exact ⟨before, change files, rfl, faithful⟩

private theorem faithful_run {memory : Memory} {events : List Event}
    (regular : ∀ event ∈ events, event.IsRegular ∧ event.IsDated)
    (faithful : Faithful memory before) (files : Workspace) :
    ∃ after later, run events ⟨.opened before, files⟩ = ⟨.opened after, later⟩ ∧
      Faithful (remembered events ⟨.opened before, files⟩ memory) after := by
  induction events generalizing before memory files with
  | nil => exact ⟨before, files, rfl, faithful⟩
  | cons event rest inductionHypothesis =>
    obtain ⟨⟨plain, dated⟩, others⟩ := List.forall_mem_cons.mp regular
    obtain ⟨between, later, applies, stillFaithful⟩ := faithful_event plain dated faithful files
    obtain ⟨after, last, runs, finallyFaithful⟩ := inductionHypothesis others stillFaithful later
    rw [run_cons, remembered, applies]
    exact ⟨after, last, runs, finallyFaithful⟩

/-- Every run from a new installation keeps for each user the password that is remembered. -/
theorem run_faithful (installed : Instant) (workspace : Workspace) {events : List Event}
    (regular : ∀ event ∈ events, event.IsRegular ∧ event.IsDated) :
    ∃ store files, run events (State.fresh installed workspace) = ⟨.opened store, files⟩ ∧
      Faithful (remembered events (State.fresh installed workspace) fun _ => none) store := by
  rw [State.fresh, fresh_eq]
  exact faithful_run regular (faithful_freshTables _) workspace

/-! ## Logins -/

/-- Whether a name and a password are those of a user, who then becomes this caller. -/
structure LogsIn (memory : Memory) (store : Store) (name password : String) (identity : Identity) :
    Prop where
  known : memory identity.id = some password
  present : ∃ row ∈ store.users, row.name = name ∧
    identity.id.text = row.id ∧ identity.name = row.name ∧
    identity.displayName = row.displayName ∧ identity.group = row.group ∧
    identity.roles = store.levelsHeld row.id

private theorem identityOf_reads {row : UserRow} {user : UserRecord} {identity : Identity}
    (key : row.id = user.id.text) (reads : Reads store row user) :
    identity = Users.identityOf user ↔
      identity.id.text = row.id ∧ identity.name = row.name ∧
        identity.displayName = row.displayName ∧ identity.group = row.group ∧
        identity.roles = store.levelsHeld row.id := by
  obtain ⟨id, name, displayName, group, roles⟩ := identity
  simp [Users.identityOf, key, UserId.text_inj, reads.name, reads.displayName, reads.group,
    reads.roles]

section Login

open RoleVault.Accounts.Action

variable {memory : Memory} {context : Context} {files : Workspace}

/-- A password matches what is kept of the remembered one where the two are the same. -/
theorem exec_matchesStored {row : UserRow} {user : UserRecord} {kept : String} (password : String)
    (ready : Ready context.vault files) (has : Has store row kept)
    (same : user.stored = row.stored) :
    (exec (Users.matchesStored context.vault user ⟨password⟩) ⟨.opened store, files⟩).1 =
      .ok (decide (kept = password)) := by
  unfold Users.matchesStored
  rw [same]
  cases classified : Vault.classify row.stored with
  | plaintext =>
    obtain rfl := has.eq_of_plaintext classified
    have agrees : Secret.agrees ⟨password⟩ ⟨row.stored⟩ = decide (row.stored = password) := by
      rw [Bool.eq_iff_iff, Secret.agrees_iff, decide_eq_true_iff, Secret.mk.injEq, eq_comm]
    exact congrArg Except.ok agrees
  | «sealed» =>
    obtain ⟨filled, text⟩ := has.eq_of_sealed classified
    have opens : (Attempt.exec (context.vault.openWith .operator row.stored) files).1 =
        .ok ⟨kept⟩ := by
      rw [text, Vault.openWith_ready ready]
      simp [filled]
    have agrees : Secret.agrees ⟨kept⟩ ⟨password⟩ = decide (kept = password) := by
      rw [Bool.eq_iff_iff, Secret.agrees_iff, decide_eq_true_iff, Secret.mk.injEq]
    simp only [exec_bind, exec_outcome]
    rw [exec_vault_ok opens]
    exact congrArg Except.ok agrees

private theorem exec_authenticate_absent (context : Context) {name : String} (password : Secret)
    (absent : store.users.find? (·.name == name) = none) (files : Workspace) :
    (exec (Users.authenticate context name password) ⟨.opened store, files⟩).1 =
      .error .invalidCredentials := by
  have looks : (Store.Users.findNamed? name).run store = .ok (none, store) :=
    Transaction.view_ok.mpr ⟨by rw [absent]; rfl, rfl⟩
  rw [Users.authenticate, exec_bind_ok (exec_transact_ok looks files), exec_bind, exec_found]

private theorem exec_authenticate_present {name : String} {row : UserRow} {user : UserRecord}
    {kept : String}
    (password : String) (ready : Ready context.vault files)
    (found : store.users.find? (·.name == name) = some row) (reads : Reads store row user)
    (has : Has store row kept) :
    (exec (Users.authenticate context name ⟨password⟩) ⟨.opened store, files⟩).1 =
      if kept = password then .ok (Users.identityOf user) else .error .invalidCredentials := by
  have looks := findNamed?_run found reads
  have matched := exec_matchesStored password ready has reads.stored
  rw [Users.authenticate, exec_bind_ok (exec_transact_ok looks files), exec_bind, exec_found]
  simp only
  rw [exec_bind]
  match ended : exec (Users.matchesStored context.vault user ⟨password⟩) ⟨.opened store, files⟩ with
  | (outcome, after) =>
    rw [ended] at matched
    obtain rfl : outcome = .ok (decide (kept = password)) := matched
    simp only
    rw [exec_bind, exec_require]
    by_cases same : kept = password <;> simp [same]

/-- The user with a name is the one that is found. -/
theorem present_iff {name : String} {row : UserRow} {holds : UserRow → Prop} (schema : Schema store)
    (found : store.users.find? (·.name == name) = some row) :
    (∃ row ∈ store.users, row.name = name ∧ holds row) ↔ holds row := by
  obtain ⟨member, named⟩ := mem_of_find?_key found
  constructor
  · rintro ⟨other, otherMember, same, held⟩
    obtain rfl := schema.named_eq otherMember member (same.trans named.symm)
    exact held
  · exact fun held => ⟨row, member, named, held⟩

/-- A login on faithful tables, with a vault that is ready: the user with the name becomes a caller
where the password is the remembered one, and everything else is refused in the same words. -/
theorem authenticate_faithful (faithful : Faithful memory store) (ready : Ready context.vault files)
    (name password : String) :
    (∀ identity, (exec (Users.authenticate context name ⟨password⟩) ⟨.opened store, files⟩).1 =
        .ok identity ↔ LogsIn memory store name password identity) ∧
      ((∀ identity, ¬ LogsIn memory store name password identity) →
        (exec (Users.authenticate context name ⟨password⟩) ⟨.opened store, files⟩).1 =
          .error .invalidCredentials) := by
  obtain ⟨sound, timed, remembers⟩ := faithful
  cases found : store.users.find? (·.name == name) with
  | none =>
    rw [exec_authenticate_absent context ⟨password⟩ found files]
    refine ⟨fun identity => ⟨nofun, ?_⟩, fun _ => rfl⟩
    rintro ⟨_, row, member, named, _⟩
    exact absurd named (find?_key_none.mp found row member)
  | some row =>
    obtain ⟨member, _⟩ := mem_of_find?_key found
    obtain ⟨user, reads, key⟩ := timed.reads sound member
    obtain ⟨kept, known, has⟩ := remembers row member user.id key
    have logsIn (identity : Identity) : LogsIn memory store name password identity ↔
        kept = password ∧ identity = Users.identityOf user := by
      rw [identityOf_reads key reads]
      constructor
      · rintro ⟨last, present⟩
        obtain fields := (present_iff sound.schema found).mp present
        obtain same := UserId.text_injective (fields.1.trans key)
        rw [same, known] at last
        exact ⟨Option.some.inj last, fields⟩
      · rintro ⟨rfl, fields⟩
        obtain same := UserId.text_injective (fields.1.trans key)
        exact ⟨same ▸ known, (present_iff sound.schema found).mpr fields⟩
    rw [exec_authenticate_present password ready found reads has]
    refine ⟨fun identity => ?_, fun refused => if_neg fun same => ?_⟩
    · rw [logsIn]
      by_cases same : kept = password
      · simp [same, eq_comm]
      · simp [same]
    · exact refused _ ((logsIn _).mpr ⟨same, rfl⟩)

end Login

/-- After every run from a new installation, a login with a vault that is ready succeeds for the
user with the name and the password that it was last given, and gives what the tables say of that
user; all else is refused in the same words. -/
theorem login_follows_memory (installed : Instant) (workspace : Workspace) {events : List Event}
    (regular : ∀ event ∈ events, event.IsRegular ∧ event.IsDated) :
    ∃ store files, run events (State.fresh installed workspace) = ⟨.opened store, files⟩ ∧
      ∀ (context : Context) (name password : String), Ready context.vault files →
        let memory := remembered events (State.fresh installed workspace) fun _ => none
        let outcome := (Action.exec (Users.authenticate context name ⟨password⟩)
          (run events (State.fresh installed workspace))).1
        (∀ identity, outcome = .ok identity ↔ LogsIn memory store name password identity) ∧
          ((∀ identity, ¬ LogsIn memory store name password identity) →
            outcome = .error .invalidCredentials) := by
  obtain ⟨store, files, leads, faithful⟩ := run_faithful installed workspace regular
  refine ⟨store, files, leads, fun context name password ready => ?_⟩
  have logins := authenticate_faithful faithful ready name password
  rw [← leads] at logins
  exact logins

namespace Sample

theorem sound_tables : Sound tables :=
  (sound_freshTables _).added (create_ok created)

private theorem profileAfter_tables : ∃ profile, profileAfter tables id = .ok profile ∧
    profile.id = id := by
  have dated : now.IsDated := by decide
  obtain ⟨profile, found⟩ := profileAfter_added dated sound_tables (create_ok created)
  exact ⟨profile, found, profileAfter_id found⟩

theorem regular_events : ∀ event ∈ events, event.IsRegular ∧ event.IsDated := by
  have dated : now.IsDated := by decide
  simp only [events, List.forall_mem_cons]
  refine ⟨⟨⟨false, rfl⟩, dated⟩, ⟨trivial, trivial⟩, ?_⟩
  rintro event ⟨⟩

/-- After the first operator was created, its password is the one remembered. -/
theorem remembered_events :
    remembered events (State.fresh now files) (fun _ => none) id =
      some request.password.expose := by
  obtain ⟨later, creates⟩ := exec_createOperator
  obtain ⟨profile, found, same⟩ := profileAfter_tables
  rw [events, remembered, Event.given, Command.outcome, creates, found]
  simp [remembered, Event.given, Except.map, Command.given, Memory.note, same]

/-- The first operator, as the tables tell of it. -/
def record : UserRecord where
  id := id
  name := "root"
  stored := sealedText .operator request.password.expose
  displayName := "root"
  email := none
  phone := none
  group := operatorGroup
  grants := [Grant.builtin .operator]
  createdAt := now
  updatedAt := now

private theorem describes_record : Describes (tables.heldRoles row.id) record.grants := by
  have noted : (tables.userRoles.filter (·.user == row.id)).map UserRole.role =
      [Role.operator.builtinId] := by
    change ([(⟨id.text, _⟩ : UserRole)].filter (·.user == id.text)).map UserRole.role = _
    simp
  have found : tables.roles.filter (fun role => [Role.operator.builtinId].contains role.id) =
      [⟨Role.operator.builtinId, "op_service", "op_service", "Service operator", true,
        Rfc3339.renderZulu now.truncate, Rfc3339.renderZulu now.truncate⟩] := by
    rfl
  rw [heldRoles, noted, found, List.mergeSort_singleton]
  rfl

theorem reads_record : Reads tables row record := by
  have dated : now.IsDated := by decide
  exact {
    grants := describes_record
    id := UserId.ofText?_text id
    createdAt := Rfc3339.parse?_renderOffset dated
    updatedAt := Rfc3339.parse?_renderOffset dated
    name := rfl
    stored := rfl
    displayName := rfl
    email := rfl
    phone := rfl
    group := rfl }

/-- The first operator as a caller. -/
def self : Identity := ⟨id, "root", "root", operatorGroup, [.operator]⟩

end Sample

/-- A first service operator logs in with the password of the request, and with no other. -/
theorem first_operator_login_follows_memory :
    (∀ event ∈ Sample.events, event.IsRegular ∧ event.IsDated) ∧
      Ready Sample.context.vault Sample.files ∧
      (Action.exec (Users.authenticate Sample.context "root" ⟨"password1"⟩)
          (run Sample.events (State.fresh Sample.now Sample.files))).1 =
        .ok ⟨Sample.id, "root", "root", operatorGroup, Sample.tables.levelsHeld Sample.id.text⟩ ∧
      (Action.exec (Users.authenticate Sample.context "root" ⟨"password2"⟩)
          (run Sample.events (State.fresh Sample.now Sample.files))).1 =
        .error .invalidCredentials := by
  obtain ⟨store, files, leads, logins⟩ :=
    login_follows_memory Sample.now Sample.files Sample.regular_events
  obtain ⟨rfl, rfl⟩ : store = Sample.tables ∧ files = Sample.files := by
    rw [Sample.run_events] at leads
    cases leads
    exact ⟨rfl, rfl⟩
  refine ⟨Sample.regular_events, Sample.ready, ?_, ?_⟩
  · refine ((logins Sample.context "root" "password1" Sample.ready).1 _).mpr
      ⟨Sample.remembered_events, Sample.row, List.mem_cons_self, rfl, rfl, rfl, rfl, rfl, rfl⟩
  · refine (logins Sample.context "root" "password2" Sample.ready).2 fun identity logsIn => ?_
    obtain ⟨known, row, member, _, key, _⟩ := logsIn
    obtain rfl := List.mem_singleton.mp (show row ∈ [Sample.row] from member)
    have same : identity.id = Sample.id := UserId.text_injective key
    rw [same, Sample.remembered_events] at known
    exact absurd known (by decide)

end RoleVault.Accounts
