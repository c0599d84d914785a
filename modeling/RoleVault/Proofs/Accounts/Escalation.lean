import RoleVault.Proofs.Access.Gate
import RoleVault.Proofs.Accounts.Policy
import RoleVault.Proofs.Time.Rfc3339

/-!
Contract: without a service operator among the callers, no one gains what only an operator can give.

Owns:
- who makes a call, and `Event.IsUnprivileged`, the calls of callers below the service operator;
- `Event.IsAuthorized`, what such a call may do to users, and `Contained`, what it leaves in the
  tables;
- `no_escalation_below_operator`, on every run of such calls from every tables that keep the rules.

Does not own: how a call ends (`RoleVault.Proofs.Accounts.Effect`).

The tables need not be those of a new installation, and callers may be out of date: all that is
known of a caller is what it says of itself.
-/

namespace RoleVault.Accounts

open RoleVault.Access (Assignment Gate.actOnOther Gate.actOnOther_allow Gate.assign
  Gate.assign_allow Gate.createUser_allow Gate.updateUser_allow Grant)
open RoleVault.Store
open RoleVault.Vault (Workspace)

variable {before between after store : Store}

/-! ## Callers -/

/-- Who asks a question, where that matters. -/
def Query.caller? : Query → Option Identity
  | user caller _ | users caller | reveal caller _ => some caller
  | _ => none

/-- Who makes a call, where that matters. -/
def Command.caller? : Command → Option Identity
  | createUser caller _ | updateUser caller _ | deleteUser caller _ => some caller
  | createRole caller _ | updateRole caller _ _ | deleteRole caller _ => some caller
  | createGroup caller _ | updateGroup caller _ _ | deleteGroup caller _ => some caller
  | look query => query.caller?
  | createOperator _ | sealNamed _ | sealAll => none

/-- Whether a call is one that changes the tables for no caller. -/
def Command.isUnattended : Command → Bool
  | createOperator _ | sealNamed _ | sealAll => true
  | _ => false

namespace Event

def caller? : Event → Option Identity
  | call _ command => command.caller?
  | _ => none

/-- The level of the caller, if there is one. -/
def callerLevels (event : Event) : List Role :=
  event.caller?.toList.map Identity.highest

/-- The key that a new user would get. -/
def freshKeys : Event → List String
  | call context (.createUser _ _) => [context.freshId.text]
  | _ => []

/-- A call for a caller below the service operator, or a change of the files. -/
def IsUnprivileged : Event → Prop
  | call _ command => command.isUnattended = false ∧
    ∀ caller, command.caller? = some caller → caller.highest ≠ .operator
  | insert _ _ => False
  | files _ => True

end Event

private theorem Event.not_operator_mem {event : Event} (unprivileged : event.IsUnprivileged) :
    .operator ∉ event.callerLevels := by
  intro member
  obtain ⟨caller, calls, level⟩ := List.mem_map.mp member
  cases event with
  | call context command => exact unprivileged.2 caller (Option.mem_toList.mp calls) level
  | insert user now => exact unprivileged
  | files change => cases calls

/-! ## What is allowed -/

/-- Whether a row and the roles of its user are as before. -/
structure Untouched (row : UserRow) (before after : Store) : Prop where
  stays : row ∈ after.users
  roles : ∀ role, ⟨row.id, role⟩ ∈ after.userRoles ↔ ⟨row.id, role⟩ ∈ before.userRoles

/-- Whether a caller is an admin of the group of a user that is no service operator. -/
structure Administers (store : Store) (caller : Identity) (row : UserRow) : Prop where
  admin : caller.highest = .admin
  group : caller.group = row.group
  level : Role.admin.atLeast (store.highestHeld row.id) = true

def Event.IsOwnUpdate (event : Event) (row : UserRow) : Prop :=
  ∃ context caller request, event = .call context (.updateUser caller request) ∧
    UserId.ofText? row.id = some caller.id

/-- Whether all that happened to users was allowed to the caller of an event. -/
structure Event.IsAuthorized (event : Event) (before after : Store) : Prop where
  changed : ∀ row ∈ before.users, ¬ Untouched row before after →
    event.IsOwnUpdate row ∨ ∃ caller, event.caller? = some caller ∧ Administers before caller row
  deleted : ∀ row ∈ before.users, (∀ other ∈ after.users, other.id ≠ row.id) →
    ∃ caller, event.caller? = some caller ∧ Administers before caller row
  created : ∀ row ∈ after.users, (∀ other ∈ before.users, other.id ≠ row.id) →
    ∃ caller, event.caller? = some caller ∧ caller.highest = .admin ∧ row.group = caller.group ∧
      caller.highest.atLeast (after.highestHeld row.id) = true

/-- What an event leaves in the tables where all that happened was allowed. -/
structure Contained (event : Event) (before after : Store) : Prop where
  catalog : SameCatalog before after
  schema : Schema after
  keys : ∀ row ∈ after.users,
    (∃ source ∈ before.users, source.id = row.id) ∨ row.id ∈ event.freshKeys
  levels : ∀ user, (Role.highest (before.highestHeld user :: event.callerLevels)).atLeast
    (after.highestHeld user) = true
  authorized : event.IsAuthorized before after

theorem Untouched.refl {row : UserRow} (member : row ∈ store.users) : Untouched row store store :=
  ⟨member, fun _ => Iff.rfl⟩

private theorem contained_refl {event : Event} (schema : Schema store) :
    Contained event store store where
  catalog := .refl store
  schema := schema
  keys row member := .inl ⟨row, member, rfl⟩
  levels _ := Role.highest_atLeast_of_mem List.mem_cons_self
  authorized := {
    changed _ member touched := absurd (.refl member) touched
    deleted row member gone := absurd rfl (gone row member)
    created row member new := absurd rfl (new row member) }

/-! ## Keys -/

/-- Whether no two keys are spellings of one identifier. -/
def Distinguishable (keys : List String) : Prop :=
  ∀ left ∈ keys, ∀ right ∈ keys, ∀ id, UserId.ofText? left = some id →
    UserId.ofText? right = some id → left = right

theorem Distinguishable.subset {keys fewer : List String} (distinct : Distinguishable keys)
    (included : ∀ key ∈ fewer, key ∈ keys) : Distinguishable fewer :=
  fun left leftMember right rightMember =>
    distinct left (included left leftMember) right (included right rightMember)

/-- The user that is written under the key of a record is the one that was read. -/
theorem key_eq {row other : UserRow} {user : UserRecord}
    (distinct : Distinguishable (store.users.map UserRow.id)) (member : row ∈ store.users)
    (reads : Reads store row user) (otherMember : other ∈ store.users)
    (same : other.id = user.id.text) : other.id = row.id :=
  distinct other.id (List.mem_map_of_mem otherMember) row.id (List.mem_map_of_mem member) user.id
    (same ▸ UserId.ofText?_text user.id) reads.id

/-! ## Calls -/

section Calls

variable {context : Context} {caller : Identity}

/-- A level that a caller reaches is no more than the highest of it and what was there before. -/
theorem reaches_of_caller {event : Event} {held level : Role} (called : event.caller? = some caller)
    (reaches : caller.highest.atLeast level = true) :
    (Role.highest (held :: event.callerLevels)).atLeast level = true := by
  refine Role.atLeast_trans (Role.highest_atLeast_of_mem ?_) reaches
  simp [Event.callerLevels, called]

private theorem reaches_of_same {event : Event} {held level : Role} (same : level = held) :
    (Role.highest (held :: event.callerLevels)).atLeast level = true :=
  Role.highest_atLeast_of_mem (same ▸ List.mem_cons_self)

private theorem reaches_of_nil (level : Role) : (Role.highest [level]).atLeast level = true :=
  Role.highest_atLeast_of_mem List.mem_cons_self

/-- The builtin user role, if there is one, does not make a service operator. -/
def IsOrdinary (store : Store) : Prop :=
  ∀ row ∈ store.roles, row.id = Role.user.builtinId → Role.ofName? row.level ≠ some .operator

private theorem admin_atLeast {level : Role} (below : level ≠ .operator) :
    Role.admin.atLeast level = true := by
  cases level with
  | user => rfl
  | admin => rfl
  | operator => exact absurd rfl below

private theorem admin_of_creator (allowed : Access.Gate.createUser caller = .allow)
    (below : caller.highest ≠ .operator) : caller.highest = .admin := by
  have reaches := Gate.createUser_allow.mp allowed
  cases level : caller.highest with
  | user =>
    rw [level] at reaches
    exact absurd reaches (by decide)
  | admin => rfl
  | operator => exact absurd level below

/-- A new user gets no level that its creator does not reach, be it by the default role. -/
theorem highest_created {request : CreateRequest} {grants : List Grant} {stored : String}
    (schema : Schema before) (ordinary : IsOrdinary before) (admin : caller.highest = .admin)
    (granted : Granted before request.roles grants)
    (assigned : Gate.assign caller (Assignment.forCreate caller grants request.group) = .allow)
    (added : Added (request.newUser context.freshId
      (Assignment.forCreate caller grants request.group) stored) context.now before after) :
    caller.highest.atLeast (after.highestHeld context.freshId.text) = true := by
  have holds := added.holds
  rw [CreateRequest.newUser, Assignment.grants_forCreate] at holds
  cases none : grants.isEmpty with
  | true =>
    rw [none, if_pos rfl] at holds
    rw [admin]
    refine admin_atLeast fun operator => ?_
    obtain ⟨row, member, held, named⟩ :=
      mem_levelsHeld.mp (Role.highest_eq_operator_iff.mp operator)
    rw [added.catalog.roles] at member
    rw [holds.held, if_pos rfl] at held
    exact ordinary row member (List.mem_singleton.mp held) named
  | false =>
    rw [none, if_neg (by decide)] at holds
    rw [holds.highest added.catalog (granted.truthful schema)]
    have reaches := (Gate.assign_allow.mp assigned).1
    simpa [Assignment.highest, Assignment.roles, none] using reaches

private theorem contained_created {request : CreateRequest} {grants : List Grant}
    (schema : Schema before) (ordinary : IsOrdinary before) (below : caller.highest ≠ .operator)
    (allowed : Access.Gate.createUser caller = .allow)
    (granted : Granted before request.roles grants)
    (assigned : Gate.assign caller (Assignment.forCreate caller grants request.group) = .allow)
    (inserts : Inserts context request (Assignment.forCreate caller grants request.group) before
      after) :
    Contained (.call context (.createUser caller request)) before after := by
  obtain ⟨stored, _, added⟩ := inserts
  have admin := admin_of_creator allowed below
  have level := highest_created schema ordinary admin granted assigned added
  have stay {row : UserRow} (member : row ∈ before.users) : Untouched row before after := by
    refine ⟨?_, fun role => ?_⟩
    · rw [added.users]
      exact List.mem_append_left _ member
    · rw [added.holds.held, if_neg (added.newId row member)]
  refine ⟨added.catalog, schema.added added, ?_, ?_, ?_, ?_, ?_⟩
  · intro row member
    rw [added.users, List.mem_append, List.mem_singleton] at member
    rcases member with member | rfl
    · exact .inl ⟨row, member, rfl⟩
    · exact .inr (List.mem_singleton.mpr rfl)
  · intro user
    by_cases new : user = context.freshId.text
    · exact reaches_of_caller rfl (new ▸ level)
    · exact reaches_of_same (added.holds.others_highest added.catalog new)
  · exact fun row member touched => absurd (stay member) touched
  · exact fun row member gone => absurd rfl (gone row (stay member).stays)
  · intro row member new
    rw [added.users, List.mem_append, List.mem_singleton] at member
    rcases member with member | rfl
    · exact absurd rfl (new row member)
    · refine ⟨caller, rfl, admin, ?_, level⟩
      rcases (Gate.assign_allow.mp assigned).2 with operator | here
      · exact absurd operator below
      · exact here.symm

/-- A caller that may act on another user administers it. -/
theorem administers_of_allow {action : Access.UserAction} {row : UserRow} {user : UserRecord}
    (reads : Reads store row user) (below : caller.highest ≠ .operator)
    (allowed : Gate.actOnOther action caller (Users.target user) = .allow) :
    Administers store caller row := by
  rcases Gate.actOnOther_allow.mp allowed with operator | ⟨admin, group, level⟩
  · exact absurd operator below
  · have held : Role.highest user.roles = store.highestHeld row.id :=
      congrArg Role.highest reads.roles
    exact ⟨admin, group.trans reads.group, held ▸ level⟩

/-- An update gives its user no level that the user did not have and the caller does not reach: what
is as before is not checked, and all else is. -/
theorem highest_updated {request : UpdateRequest} {row : UserRow} {user : UserRecord}
    {grants : List Grant} {assignment : Assignment} {stored : Option String}
    (schema : Schema before) (reads : Reads before row user)
    (granted : Granted before request.roles grants)
    (assignment_eq : assignment = Assignment.forUpdate user.assignment grants request.group)
    (assigned : assignment ≠ user.assignment → Gate.assign caller assignment = .allow)
    (saved : Saved (request.applyTo user assignment) stored context.now before after) :
    after.highestHeld user.id.text = before.highestHeld row.id ∨
      caller.highest.atLeast (after.highestHeld user.id.text) = true := by
  have truthful : Truthful before assignment.grants := by
    rw [assignment_eq]
    exact truthful_forUpdate schema reads granted
  have level : after.highestHeld user.id.text = assignment.highest :=
    saved.holds.highest saved.catalog truthful
  rw [level]
  by_cases same : assignment = user.assignment
  · exact .inl (same ▸ congrArg Role.highest reads.roles)
  · exact .inr (Gate.assign_allow.mp (assigned same)).1

private theorem contained_updated {request : UpdateRequest} {row : UserRow} {user : UserRecord}
    {grants : List Grant} {assignment : Assignment} {stored : Option String}
    (schema : Schema before) (distinct : Distinguishable (before.users.map UserRow.id))
    (below : caller.highest ≠ .operator) (member : row ∈ before.users)
    (reads : Reads before row user)
    (allowed : Access.Gate.updateUser caller (Users.target user) = .allow)
    (granted : Granted before request.roles grants)
    (assignment_eq : assignment = Assignment.forUpdate user.assignment grants request.group)
    (assigned : assignment ≠ user.assignment → Gate.assign caller assignment = .allow)
    (saved : Saved (request.applyTo user assignment) stored context.now before after) :
    Contained (.call context (.updateUser caller request)) before after := by
  have level := highest_updated schema reads granted assignment_eq assigned saved
  have key : row.id = user.id.text := by
    obtain ⟨present, presentMember, same⟩ := saved.present
    exact (key_eq distinct member reads presentMember same).symm.trans same
  refine ⟨saved.catalog, schema.saved saved, ?_, ?_, ?_, ?_, ?_⟩
  · exact fun other otherMember => .inl (saved.exists_key.mp ⟨other, otherMember, rfl⟩)
  · intro holder
    by_cases own : holder = user.id.text
    · rw [own]
      rcases level with same | reaches
      · exact reaches_of_same (same.trans (congrArg before.highestHeld key))
      · exact reaches_of_caller rfl reaches
    · exact reaches_of_same (saved.holds.others_highest saved.catalog own)
  · intro other otherMember touched
    have own : other.id = user.id.text := by
      by_contra different
      refine touched ⟨?_, fun role => ?_⟩
      · rw [saved.users]
        exact mem_modifyRow.mpr ⟨other, otherMember, .inr ⟨different, rfl⟩⟩
      · rw [saved.holds.held]
        exact Iff.of_eq (if_neg different)
    obtain rfl := schema.user_eq otherMember member (own.trans key.symm)
    rcases Gate.updateUser_allow.mp allowed with self | administers
    · exact .inl ⟨context, caller, request, rfl, by rw [reads.id, self]; rfl⟩
    · exact .inr ⟨caller, rfl, administers_of_allow reads below administers⟩
  · intro other otherMember gone
    obtain ⟨later, laterMember, same⟩ := saved.exists_key.mpr ⟨other, otherMember, rfl⟩
    exact absurd same (gone later laterMember)
  · intro other otherMember new
    obtain ⟨source, sourceMember, same⟩ := saved.exists_key.mp ⟨other, otherMember, rfl⟩
    exact absurd same (new source sourceMember)

private theorem contained_deleted {name : String} {row : UserRow} {user : UserRecord}
    (schema : Schema before)
    (distinct : Distinguishable (before.users.map UserRow.id)) (below : caller.highest ≠ .operator)
    (member : row ∈ before.users) (reads : Reads before row user)
    (allowed : Access.Gate.deleteUser caller (Users.target user) = .allow) :
    Contained (.call context (.deleteUser caller name)) before (before.without user.id.text) := by
  have stay {other : UserRow} (otherMember : other ∈ before.users)
      (different : other.id ≠ user.id.text) :
      Untouched other before (before.without user.id.text) :=
    ⟨List.mem_filter.mpr ⟨otherMember, by simpa using different⟩, fun role => by
      simp [Store.without, different]⟩
  have administers {other : UserRow} (otherMember : other ∈ before.users)
      (same : other.id = user.id.text) : Administers before caller other := by
    obtain rfl := schema.user_eq otherMember member (key_eq distinct member reads otherMember same)
    exact administers_of_allow reads below allowed
  refine ⟨⟨rfl, rfl, rfl, rfl, rfl⟩, schema.without, ?_, ?_, ?_, ?_, ?_⟩
  · exact fun other otherMember => .inl ⟨other, List.mem_of_mem_filter otherMember, rfl⟩
  · intro holder
    by_cases gone : holder = user.id.text
    · have none : (before.without user.id.text).levelsHeld holder = [] := by
        refine List.eq_nil_iff_forall_not_mem.mpr fun level held => ?_
        obtain ⟨_, _, listed, _⟩ := mem_levelsHeld.mp held
        simp [Store.without, gone] at listed
      have lowest : (before.without user.id.text).highestHeld holder = .user :=
        congrArg Role.highest none
      rw [lowest]
      exact Role.atLeast_user _
    · exact reaches_of_same (congrArg Role.highest (levelsHeld_congr rfl fun role => by
        simp [Store.without, gone]))
  · intro other otherMember touched
    by_cases same : other.id = user.id.text
    · exact .inr ⟨caller, rfl, administers otherMember same⟩
    · exact absurd (stay otherMember same) touched
  · intro other otherMember gone
    by_cases same : other.id = user.id.text
    · exact ⟨caller, rfl, administers otherMember same⟩
    · exact absurd rfl (gone other (stay otherMember same).stays)
  · exact fun other otherMember new =>
      absurd rfl (new other (List.mem_of_mem_filter otherMember))

/-- All that a call for a caller below the service operator can do is allowed to the caller. -/
theorem Effect.contained {command : Command} {outcome : Except AccountsError Answer}
    (schema : Schema before) (ordinary : IsOrdinary before)
    (distinct : Distinguishable (before.users.map UserRow.id))
    (unprivileged : (Event.call context command).IsUnprivileged)
    (effect : Effect context command before outcome after) :
    Contained (.call context command) before after := by
  obtain ⟨attended, below⟩ := unprivileged
  have below {caller : Identity} (calls : command.caller? = some caller) :
      caller.highest ≠ .operator := below caller calls
  have noManager {caller : Identity} (calls : command.caller? = some caller) :
      caller.isOperator ≠ true := by
    simpa [Identity.isOperator] using below calls
  cases effect with
  | refused => exact contained_refl schema
  | looked => exact contained_refl schema
  | operatorAdded => cases attended
  | passwordSealed => cases attended
  | swept => cases attended
  | userAdded _ allowed granted assigned inserts =>
    exact contained_created schema ordinary (below rfl) allowed granted assigned inserts
  | userSaved _ member _ reads allowed granted assignment_eq assigned _ saved =>
    exact contained_updated schema distinct (below rfl) member reads allowed granted assignment_eq
      assigned saved
  | userDeleted member _ reads allowed =>
    exact contained_deleted schema distinct (below rfl) member reads allowed
  | roleAdded manager => exact absurd manager (noManager rfl)
  | roleRelabeled manager => exact absurd manager (noManager rfl)
  | roleDeleted manager => exact absurd manager (noManager rfl)
  | groupAdded manager => exact absurd manager (noManager rfl)
  | groupRelabeled manager => exact absurd manager (noManager rfl)
  | groupDeleted manager => exact absurd manager (noManager rfl)

end Calls

/-! ## Runs -/

/-- Whether something holds of each event of a run, with the tables before and after it. -/
def EveryStep (holds : Event → Store → Store → Prop) : List Event → State → Prop
  | [], _ => True
  | event :: rest, state =>
    (∃ before after files later, state = ⟨.opened before, files⟩ ∧
      event.apply state = ⟨.opened after, later⟩ ∧ holds event before after) ∧
    EveryStep holds rest (event.apply state)

/-- Whatever happens without privileges, all that it does to users was allowed. -/
theorem Event.contained {event : Event} (schema : Schema store) (ordinary : IsOrdinary store)
    (distinct : Distinguishable (store.users.map UserRow.id)) (unprivileged : event.IsUnprivileged)
    (files : Workspace) :
    ∃ after later, event.apply ⟨.opened store, files⟩ = ⟨.opened after, later⟩ ∧
      Contained event store after := by
  cases event with
  | call context command =>
    obtain ⟨outcome, after, later, ends, effect⟩ := perform_effect context command store files
    exact ⟨after, later, congrArg Prod.snd ends,
      effect.contained schema ordinary distinct unprivileged⟩
  | insert user now => exact unprivileged.elim
  | files change => exact ⟨store, change files, rfl, contained_refl schema⟩

/-- A run of calls for callers below the service operator.  Levels are bounded by what a user had
and what the callers have, which is what each step adds to. -/
theorem contained_run {events : List Event} (schema : Schema store) (ordinary : IsOrdinary store)
    (distinct : Distinguishable (store.users.map UserRow.id ++ events.flatMap Event.freshKeys))
    (unprivileged : ∀ event ∈ events, event.IsUnprivileged) (files : Workspace) :
    ∃ final last, run events ⟨.opened store, files⟩ = ⟨.opened final, last⟩ ∧
      SameCatalog store final ∧
      (∀ user, (Role.highest (store.highestHeld user :: events.flatMap Event.callerLevels)).atLeast
        (final.highestHeld user) = true) ∧
      EveryStep Event.IsAuthorized events ⟨.opened store, files⟩ := by
  induction events generalizing store files with
  | nil => exact ⟨store, files, rfl, .refl store, fun _ => reaches_of_nil _, trivial⟩
  | cons event rest inductionHypothesis =>
    obtain ⟨first, others⟩ := List.forall_mem_cons.mp unprivileged
    obtain ⟨after, later, applies, contained⟩ := Event.contained schema ordinary
      (distinct.subset fun key member => List.mem_append_left _ member) first files
    have stillOrdinary : IsOrdinary after := by
      rw [IsOrdinary, contained.catalog.roles]
      exact ordinary
    have stillDistinct :
        Distinguishable (after.users.map UserRow.id ++ rest.flatMap Event.freshKeys) := by
      refine distinct.subset fun key member => ?_
      simp only [List.flatMap_cons, List.mem_append, List.mem_map] at member ⊢
      rcases member with ⟨row, rowMember, rfl⟩ | later
      · rcases contained.keys row rowMember with ⟨source, sourceMember, same⟩ | fresh
        · exact .inl ⟨source, sourceMember, same⟩
        · exact .inr (.inl fresh)
      · exact .inr (.inr later)
    obtain ⟨final, last, runs, catalog, levels, steps⟩ :=
      inductionHypothesis contained.schema stillOrdinary stillDistinct others later
    rw [run_cons, applies]
    refine ⟨final, last, runs, contained.catalog.trans catalog, fun user => ?_, ?_⟩
    · refine Role.atLeast_trans ?_ (levels user)
      rw [Role.atLeast_highest_iff, List.forall_mem_cons, List.flatMap_cons]
      refine ⟨Role.atLeast_trans (Role.highest_atLeast_of_subset fun level member => ?_)
        (contained.levels user), fun level member => Role.highest_atLeast_of_mem ?_⟩
      · rcases List.mem_cons.mp member with rfl | called
        · exact List.mem_cons_self
        · exact List.mem_cons_of_mem _ (List.mem_append_left _ called)
      · exact List.mem_cons_of_mem _ (List.mem_append_right _ member)
    · rw [EveryStep, applies]
      exact ⟨⟨store, after, files, later, rfl, rfl, contained.authorized⟩, steps⟩

/-- Calls for callers below the service operator, in whatever order and number, on whatever tables
keep the rules: roles and groups stay; no one comes to hold the level of a service operator, and no
one rises above both what it had and what the callers have; and users are created, changed and
deleted by none but those who may.  The builtin user role must not itself be one of service
operators, and no two keys of users spell one identifier. -/
theorem no_escalation_below_operator {events : List Event} (schema : Schema store)
    (ordinary : IsOrdinary store)
    (distinct : Distinguishable (store.users.map UserRow.id ++ events.flatMap Event.freshKeys))
    (unprivileged : ∀ event ∈ events, event.IsUnprivileged) (files : Workspace) :
    ∃ final last, run events ⟨.opened store, files⟩ = ⟨.opened final, last⟩ ∧
      (final.roles = store.roles ∧ final.groups = store.groups ∧
        final.groupRoles = store.groupRoles) ∧
      (∀ user, .operator ∈ final.levelsHeld user → .operator ∈ store.levelsHeld user) ∧
      (∀ user, (Role.highest (store.highestHeld user :: events.flatMap Event.callerLevels)).atLeast
        (final.highestHeld user) = true) ∧
      EveryStep Event.IsAuthorized events ⟨.opened store, files⟩ := by
  obtain ⟨final, last, runs, catalog, levels, steps⟩ :=
    contained_run schema ordinary distinct unprivileged files
  refine ⟨final, last, runs, ⟨catalog.roles, catalog.groups, catalog.groupRoles⟩,
    fun user held => ?_, levels, steps⟩
  have reached : final.highestHeld user = .operator := Role.highest_eq_operator_iff.mpr held
  have bound := levels user
  rw [reached] at bound
  have top := Role.highest_eq_operator_iff.mp
    (Role.atLeast_antisymm bound (Role.operator_atLeast _))
  rcases List.mem_cons.mp top with had | called
  · exact Role.highest_eq_operator_iff.mp had.symm
  · obtain ⟨event, member, level⟩ := List.mem_flatMap.mp called
    exact absurd level (Event.not_operator_mem (unprivileged event member))

/-! ## Tables that were edited from outside -/

namespace Sample

def admin : Identity := ⟨⟨List.replicate 16 1, rfl⟩, "boss", "boss", defaultGroup, [.admin]⟩

def stamp : String := Time.Rfc3339.renderZulu now

private theorem parse?_stamp : Time.Rfc3339.parse? stamp = some now :=
  Time.Rfc3339.parse?_renderZulu (by decide)

def defaultRow : GroupRow := ⟨defaultGroup, "default", "Default group", true, stamp, stamp⟩

/-- Tables without users, in which the builtin user role is one of some level. -/
def small (level : String) : Store where
  groups := [defaultRow]
  roles := [⟨Role.user.builtinId, "user", level, "Regular user", true, stamp, stamp⟩]

/-- An admin creates a user without naming a role. -/
def creation : List Event := [.call context (.createUser admin request)]

def grown (level : String) : Store :=
  { small level with
    users := [Users.newRow (request.newUser id (Assignment.forCreate admin [] none)
      (Vault.sealedText .user request.password.expose)) now]
    userRoles := [⟨id.text, Role.user.builtinId⟩] }

private theorem schema_small (level : String) : Schema (small level) := by
  constructor <;> simp [small]

private theorem unprivileged_call {command : Command} (attended : command.isUnattended = false)
    (calls : command.caller? = some admin) :
    ∀ event ∈ [Event.call context command], event.IsUnprivileged := by
  intro event listed
  rw [List.mem_singleton.mp listed]
  refine ⟨attended, fun caller called => ?_⟩
  obtain rfl := Option.some.inj (calls.symm.trans called)
  decide

open RoleVault.Accounts.Action in
private theorem run_creation (level : String) : ∃ later,
    run creation ⟨.opened (small level), files⟩ = ⟨.opened (grown level), later⟩ := by
  have valid : request.fields.validate = .ok () := by decide
  have allowed : (Access.Gate.createUser admin).toExcept = .ok () := by decide
  have assigned :
      (Gate.assign admin (Assignment.forCreate admin [] none)).toExcept = .ok () := by
    decide
  have seals : (Vault.Attempt.exec (vault.sealFor .user request.password) files).1 =
      .ok (Vault.sealedText .user request.password.expose) :=
    Vault.sealFor_ready rfl ready.tree (usable (.inl rfl)) ready.publicKey
  have created :
      (Store.Users.create (request.newUser context.freshId (Assignment.forCreate admin [] none)
        (Vault.sealedText .user request.password.expose)) context.now).run (small level) =
          .ok ((), grown level) := rfl
  have granted : exec (Users.grantsOf request.roles) ⟨.opened (small level), files⟩ =
      (.ok [], ⟨.opened (small level), files⟩) := rfl
  obtain ⟨group, reads⟩ : ∃ group, defaultRow.read (small level) = .ok group :=
    readGroup_ok_iff.mpr ⟨⟨now, parse?_stamp⟩, now, parse?_stamp⟩
  have listed : exec (Users.requireGroup defaultGroup) ⟨.opened (small level), files⟩ =
      (.ok (), ⟨.opened (small level), files⟩) :=
    exec_requireGroup rfl reads files
  have creates : exec (Users.create context admin request) ⟨.opened (small level), files⟩ =
      exec (Users.insert context request (Assignment.forCreate admin [] none))
        ⟨.opened (small level), files⟩ :=
    exec_create valid allowed granted listed assigned
  have inserts : exec (Users.insert context request (Assignment.forCreate admin [] none))
      ⟨.opened (small level), files⟩ = _ := exec_insert seals created
  refine ⟨(Vault.Attempt.exec (vault.sealFor .user request.password) files).2, ?_⟩
  show (exec (Answer.profile <$> Users.create context admin request)
    ⟨.opened (small level), files⟩).2 = _
  rw [exec_map, creates, inserts]
  rfl

/-- A user of the operator group, and one of the default group under another spelling of its key. -/
def operatorRow : UserRow :=
  ⟨id.text, "root", "password1", "root", none, none, operatorGroup, stamp, stamp⟩

def decoyRow : UserRow :=
  ⟨"07070707070707070707070707070707", "decoy", "password1", "decoy", none, none, defaultGroup,
    stamp, stamp⟩

def aliased : Store where
  groups := [defaultRow, ⟨operatorGroup, "operators", "Service operators", true, stamp, stamp⟩]
  roles := [⟨Role.operator.builtinId, "op_service", "op_service", "Service operator", true, stamp,
    stamp⟩]
  users := [operatorRow, decoyRow]
  userRoles := [⟨id.text, Role.operator.builtinId⟩]

def deletion : List Event := [.call context (.deleteUser admin "decoy")]

private theorem schema_aliased : Schema aliased := by
  constructor <;> decide

/-- The record of the user that is to be deleted has the key of the other one. -/
theorem reads_decoy : ∃ user, Reads aliased decoyRow user ∧ user.id = id := by
  refine reads_of_readable (fun role listed => ?_) (by decide) parse?_stamp parse?_stamp
  rw [List.mem_singleton.mp listed]
  exact ⟨.operator, Role.ofName?_name .operator⟩

open RoleVault.Accounts.Action in
private theorem run_deletion :
    run deletion ⟨.opened aliased, files⟩ = ⟨.opened (aliased.without id.text), files⟩ := by
  obtain ⟨user, reads, key⟩ := reads_decoy
  have none : user.roles = [] := by
    rw [reads.roles]
    refine List.eq_nil_iff_forall_not_mem.mpr fun level held => ?_
    obtain ⟨row, _, listed, _⟩ := mem_levelsHeld.mp held
    have same : decoyRow.id = id.text := congrArg UserRole.user (List.mem_singleton.mp listed)
    exact absurd same (by decide)
  have allowed : (Access.Gate.deleteUser admin (Users.target user)).toExcept = .ok () := by
    rw [Users.target, none, reads.group, key]
    decide
  have finds : exec (Users.find "decoy") ⟨.opened aliased, files⟩ =
      (.ok user, ⟨.opened aliased, files⟩) :=
    exec_find rfl reads files
  have deletes : (Store.Users.delete user.id).run aliased =
      .ok (true, aliased.without id.text) := by
    rw [key]
    rfl
  show (exec ((fun _ => Answer.done) <$> Users.delete admin "decoy") ⟨.opened aliased, files⟩).2 = _
  rw [exec_map, Users.delete, exec_bind_ok finds, exec_bind_ok (exec_check_ok allowed _),
    exec_bind_ok (exec_transact_ok deletes files)]
  rfl

private theorem operator_mem_grown : .operator ∈ (grown "op_service").levelsHeld id.text :=
  mem_levelsHeld.mpr ⟨_, List.mem_cons_self, List.mem_cons_self, Role.ofName?_name .operator⟩

/-- The user of the operator group is gone, and no admin of that group was among the callers. -/
theorem deletion_not_authorized :
    ¬ EveryStep Event.IsAuthorized deletion ⟨.opened aliased, files⟩ := by
  rintro ⟨⟨before, after, earlier, later, starts, applies, authorized⟩, _⟩
  cases starts
  obtain rfl : aliased.without id.text = after := by
    have same := applies.symm.trans run_deletion
    cases same
    rfl
  obtain ⟨caller, calls, administers⟩ := authorized.deleted operatorRow List.mem_cons_self
    (by decide)
  cases calls
  exact absurd administers.group (by decide)

end Sample

/-- Both conditions on the tables are needed.  An admin raises a new user to a service operator
where the builtin user role is edited to be one of service operators.  And it deletes a service
operator where a user of its own group has the same key in another spelling: a user is looked up by
name, and what is deleted is the row under the canonical spelling of its key. -/
theorem escalation_by_edited_tables :
    (Schema (Sample.small "op_service") ∧
      (∀ event ∈ Sample.creation, event.IsUnprivileged) ∧
      ∃ final last, run Sample.creation ⟨.opened (Sample.small "op_service"), Sample.files⟩ =
          ⟨.opened final, last⟩ ∧
        .operator ∈ final.levelsHeld Sample.id.text ∧
        .operator ∉ (Sample.small "op_service").levelsHeld Sample.id.text) ∧
    Schema Sample.aliased ∧ (∀ event ∈ Sample.deletion, event.IsUnprivileged) ∧
      ¬ EveryStep Event.IsAuthorized Sample.deletion ⟨.opened Sample.aliased, Sample.files⟩ := by
  obtain ⟨later, runs⟩ := Sample.run_creation "op_service"
  refine ⟨⟨Sample.schema_small _, Sample.unprivileged_call rfl rfl, _, later, runs,
    Sample.operator_mem_grown, fun held => ?_⟩, Sample.schema_aliased,
    Sample.unprivileged_call rfl rfl, Sample.deletion_not_authorized⟩
  obtain ⟨_, _, listed, _⟩ := mem_levelsHeld.mp held
  cases listed

/-- An admin creates a user where the builtin user role is one of users. -/
theorem creation_without_escalation :
    (Schema (Sample.small "user") ∧ IsOrdinary (Sample.small "user") ∧
      Distinguishable ((Sample.small "user").users.map UserRow.id ++
        Sample.creation.flatMap Event.freshKeys) ∧
      ∀ event ∈ Sample.creation, event.IsUnprivileged) ∧
    ∃ later, run Sample.creation ⟨.opened (Sample.small "user"), Sample.files⟩ =
        ⟨.opened (Sample.grown "user"), later⟩ ∧
      .operator ∉ (Sample.grown "user").levelsHeld Sample.id.text ∧
      EveryStep Event.IsAuthorized Sample.creation
        ⟨.opened (Sample.small "user"), Sample.files⟩ := by
  have ordinary : IsOrdinary (Sample.small "user") := by
    intro row member _ operator
    rw [List.mem_singleton.mp member] at operator
    exact absurd operator (by decide)
  have distinct : Distinguishable ((Sample.small "user").users.map UserRow.id ++
      Sample.creation.flatMap Event.freshKeys) := by
    intro left leftMember right rightMember _ _ _
    exact (List.mem_singleton.mp leftMember).trans (List.mem_singleton.mp rightMember).symm
  obtain ⟨final, last, runs, _, none, _, authorized⟩ :=
    no_escalation_below_operator (Sample.schema_small "user") ordinary distinct
      (Sample.unprivileged_call rfl rfl) Sample.files
  obtain ⟨later, grows⟩ := Sample.run_creation "user"
  refine ⟨⟨Sample.schema_small _, ordinary, distinct, Sample.unprivileged_call rfl rfl⟩, later,
    grows, fun held => ?_, authorized⟩
  obtain rfl : final = Sample.grown "user" := by
    have same := runs.symm.trans grows
    cases same
    rfl
  obtain ⟨_, _, listed, _⟩ := mem_levelsHeld.mp (none _ held)
  cases listed

end RoleVault.Accounts
