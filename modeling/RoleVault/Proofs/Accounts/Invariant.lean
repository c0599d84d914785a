import RoleVault.Proofs.Access.Gate
import RoleVault.Proofs.Accounts.Perform
import RoleVault.Proofs.Store.Levels

/-!
Contract: what holds of the tables along every run from a new installation.

Owns:
- `Event.Changes`, all that an event can do to the tables, and `run_tables`, by which an invariant
  of these changes holds along every run;
- `Sound`, the rules of the tables, known levels and canonical user keys, which every change keeps;
- `truthful_forCreate` and `truthful_forUpdate`, that users get grants that say what the catalog says.

Does not own: what is kept as the password of a user (`RoleVault.Proofs.Accounts.Policy`).
-/

namespace RoleVault.Accounts

open RoleVault.Store
open RoleVault.Vault (Workspace)

variable {before after store : Store}

/-! ## Events -/

/-- All that an event can do to the tables. -/
inductive Event.Changes : Event → Store → Store → Prop where
  | called {context : Context} {command : Command} {outcome : Except AccountsError Answer}
    {before after : Store} (effect : Effect context command before outcome after) :
    Changes (.call context command) before after
  | inserted {user : NewUser} {now : Time.Instant} {before after : Store}
    (added : Added user now before after) : Changes (.insert user now) before after
  | refused (user : NewUser) (now : Time.Instant) (store : Store) :
    Changes (.insert user now) store store
  | moved (change : Workspace → Workspace) (store : Store) : Changes (.files change) store store

/-- An event keeps an open database open and changes it in one of the ways of `Event.Changes`. -/
theorem Event.apply_changes (event : Event) (store : Store) (workspace : Workspace) :
    ∃ after files, event.apply ⟨.opened store, workspace⟩ = ⟨.opened after, files⟩ ∧
      event.Changes store after := by
  cases event with
  | call context command =>
    obtain ⟨outcome, after, files, ends, effect⟩ := perform_effect context command store workspace
    exact ⟨after, files, congrArg Prod.snd ends, .called effect⟩
  | insert user now =>
    have ends := Action.exec_transact (Store.Users.create user now) store workspace
    cases created : (Store.Users.create user now).run store with
    | error failure =>
      rw [created] at ends
      exact ⟨store, workspace, congrArg Prod.snd ends, .refused user now store⟩
    | ok result =>
      rw [created] at ends
      exact ⟨result.2, workspace, congrArg Prod.snd ends, .inserted (create_ok created)⟩
  | files change => exact ⟨store, change workspace, rfl, .moved change store⟩

/-- What holds of some tables, and after each change where it held before, holds after a run. -/
theorem run_tables (holds : Store → Prop) (admitted : Event → Prop)
    (step : ∀ event before after, admitted event → event.Changes before after → holds before →
      holds after)
    {events : List Event} (allAdmitted : ∀ event ∈ events, admitted event) (start : holds store)
    (workspace : Workspace) :
    ∃ after files, run events ⟨.opened store, workspace⟩ = ⟨.opened after, files⟩ ∧
      holds after := by
  obtain ⟨after, files, same, held⟩ := run_induction
    (fun state => ∃ after files, state = ⟨.opened after, files⟩ ∧ holds after) admitted
    (fun event state admits => by
      rintro ⟨before, files, rfl, held⟩
      obtain ⟨after, later, same, changes⟩ := event.apply_changes before files
      exact ⟨after, later, same, step event before after admits changes held⟩)
    allAdmitted ⟨store, workspace, rfl, start⟩
  exact ⟨after, files, same, held⟩

/-! ## Sound tables -/

/-- Tables that keep their rules, with known levels and canonical user keys. -/
structure Sound (store : Store) : Prop where
  schema : Schema store
  leveled : Leveled store
  keys : ∀ row ∈ store.users, ∃ id : UserId, row.id = id.text

/-- The key of a record is that of its row. -/
theorem Sound.text_eq {row : UserRow} {user : UserRecord} (sound : Sound store)
    (member : row ∈ store.users) (reads : Reads store row user) : row.id = user.id.text := by
  obtain ⟨id, same⟩ := sound.keys row member
  have read := reads.id
  rw [same, UserId.ofText?_text] at read
  rw [same, Option.some.inj read]

/-- The tables of a new installation are sound. -/
theorem sound_freshTables (stamp : String) : Sound (freshTables stamp) :=
  ⟨schema_freshTables stamp, leveled_freshTables stamp, nofun⟩

namespace Sound

/-- A user that is added leaves sound tables sound. -/
theorem added {user : NewUser} {now : Time.Instant} (sound : Sound before)
    (added : Added user now before after) : Sound after := by
  refine ⟨sound.schema.added added,
    sound.leveled.of_same added.catalog.roles added.catalog.lastRole, ?_⟩
  intro row member
  rw [added.users, List.mem_append, List.mem_singleton] at member
  rcases member with member | rfl
  · exact sound.keys row member
  · exact ⟨user.id, rfl⟩

theorem saved {user : UserRecord} {stored : Option String} {now : Time.Instant}
    (sound : Sound before) (saved : Saved user stored now before after) : Sound after := by
  refine ⟨sound.schema.saved saved,
    sound.leveled.of_same saved.catalog.roles saved.catalog.lastRole, ?_⟩
  rw [saved.users]
  exact forall_modifyRow sound.keys fun _ canonical => canonical

theorem storedChanged {id stored : String} {now : Time.Instant} (sound : Sound before) :
    Sound { before with users := Users.modifyRow id (withStored stored now) before.users } := by
  refine ⟨sound.schema.storedChanged, sound.leveled.of_same rfl rfl, ?_⟩
  exact forall_modifyRow sound.keys fun _ canonical => canonical

theorem without {user : String} (sound : Sound before) : Sound (before.without user) :=
  ⟨sound.schema.without, sound.leveled.of_same rfl rfl,
    fun row member => sound.keys row (List.mem_of_mem_filter member)⟩

/-- A sweep leaves sound tables sound, for each of its steps gives one user another password. -/
theorem sweeps {context : Context} {users : List UserRecord} (sound : Sound before)
    (sweeps : Sweeps context users before after) : Sound after := by
  induction sweeps with
  | ended users store => exact sound
  | skipped rest inductionHypothesis => exact inductionHypothesis sound
  | «sealed» kept rest inductionHypothesis => exact inductionHypothesis sound.storedChanged

/-- What users do not notice leaves the tables sound if the catalog stays as it should be. -/
theorem of_unnoticed (sound : Sound before) (schema : Schema after) (leveled : Leveled after)
    (unnoticed : Unnoticed before after) : Sound after :=
  ⟨schema, leveled, unnoticed.users ▸ sound.keys⟩

end Sound

/-! ## Grants of an assignment -/

section Grants

open RoleVault.Access (Assignment Grant)

variable {roles : List RoleId} {grants : List Grant} {group : Option GroupId}

/-- The grants of a new user say of roles what the catalog says. -/
theorem truthful_forCreate {caller : Identity} (sound : Sound store)
    (granted : Granted store roles grants) :
    Truthful store (Assignment.forCreate caller grants group).grants := by
  rw [Assignment.grants_forCreate]
  split
  · exact sound.leveled.truthful_builtin .user
  · exact granted.truthful sound.schema

/-- The grants of an updated user say of roles what the catalog says. -/
theorem truthful_forUpdate {row : UserRow} {user : UserRecord} (schema : Schema store)
    (reads : Reads store row user) (granted : Granted store roles grants) :
    Truthful store (Assignment.forUpdate user.assignment grants group).grants := by
  rw [Assignment.grants_forUpdate]
  split
  · exact reads.truthful schema
  · exact granted.truthful schema

end Grants

/-! ## Calls -/

section Effects

variable {context : Context} {command : Command} {outcome : Except AccountsError Answer}

/-- Whether a call is there to change roles or groups. -/
def Command.isCatalog : Command → Bool
  | createRole _ _ | updateRole _ _ _ | deleteRole _ _ => true
  | createGroup _ _ | updateGroup _ _ _ | deleteGroup _ _ => true
  | _ => false

/-- A call that changes roles or groups keeps the tables sound, and no user notices it. -/
theorem Effect.catalog (sound : Sound before) (effect : Effect context command before outcome after)
    (catalog : command.isCatalog = true) : Sound after ∧ Unnoticed before after := by
  have schema := sound.schema
  have leveled := sound.leveled
  cases effect with
  | refused => exact ⟨sound, .refl _⟩
  | roleAdded _ added =>
    have unnoticed := added.unnoticed schema
    exact ⟨sound.of_unnoticed (schema.roleAdded added) (leveled.roleAdded added) unnoticed,
      unnoticed⟩
  | roleRelabeled _ _ _ _ newName =>
    exact ⟨sound.of_unnoticed (schema.roleRelabeled newName) leveled.roleRelabeled
      (unnoticed_roleRelabeled _ _ _), unnoticed_roleRelabeled _ _ _⟩
  | roleDeleted _ unheld unlisted =>
    have unnoticed := unnoticed_roleDeleted unheld
    exact ⟨sound.of_unnoticed (schema.roleDeleted unheld unlisted) leveled.roleDeleted unnoticed,
      unnoticed⟩
  | groupAdded _ added lists =>
    have unnoticed := added.unnoticed.trans lists.unnoticed
    refine ⟨sound.of_unnoticed ((schema.groupAdded added).listed lists) ?_ unnoticed, unnoticed⟩
    rw [lists.same, added.same]
    exact leveled.of_same rfl rfl
  | groupRelabeled _ _ relabeled lists =>
    have between : Sound _ := sound.of_unnoticed (schema.relabeled relabeled)
      (by rw [relabeled.same]; exact leveled.of_same rfl rfl) relabeled.unnoticed
    obtain rfl | ⟨listed, _, lists⟩ := lists
    · exact ⟨between, relabeled.unnoticed⟩
    · refine ⟨between.of_unnoticed (between.schema.listed lists) ?_ lists.unnoticed,
        relabeled.unnoticed.trans lists.unnoticed⟩
      rw [lists.same]
      exact between.leveled.of_same rfl rfl
  | groupDeleted _ empty =>
    refine ⟨sound.of_unnoticed (schema.groupDeleted empty) (leveled.of_same rfl rfl) ?_, ?_⟩ <;>
      exact unnoticed_of_same_roles rfl rfl rfl
  | _ => cases catalog

/-- Every call keeps the tables sound. -/
theorem Effect.sound (sound : Sound before)
    (effect : Effect context command before outcome after) : Sound after := by
  have catalog := effect.catalog sound
  cases effect with
  | refused => exact sound
  | looked => exact sound
  | operatorAdded _ inserts =>
    obtain ⟨stored, _, added⟩ := inserts
    exact sound.added added
  | userAdded _ _ _ _ inserts =>
    obtain ⟨stored, _, added⟩ := inserts
    exact sound.added added
  | userSaved _ _ _ _ _ _ _ _ _ saved => exact sound.saved saved
  | userDeleted _ _ _ _ => exact sound.without
  | passwordSealed _ _ _ _ => exact sound.storedChanged
  | swept _ sweeps => exact sound.sweeps sweeps
  | _ => exact (catalog rfl).1

end Effects

/-- Whatever happens, sound tables stay sound. -/
theorem Event.Changes.sound {event : Event} (changes : event.Changes before after)
    (sound : Sound before) : Sound after := by
  cases changes with
  | called effect => exact effect.sound sound
  | inserted added => exact sound.added added
  | refused => exact sound
  | moved => exact sound

/-- Every run from a new installation leads to sound tables. -/
theorem run_sound (now : Time.Instant) (workspace : Workspace) (events : List Event) :
    ∃ store files, run events (State.fresh now workspace) = ⟨.opened store, files⟩ ∧
      Sound store := by
  rw [State.fresh, fresh_eq]
  exact run_tables Sound (fun _ => True) (fun _ _ _ _ changes sound => changes.sound sound)
    (fun _ _ => trivial) (sound_freshTables _) workspace

end RoleVault.Accounts
