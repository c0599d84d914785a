import Mathlib
import RoleVault.Proofs.Accounts.Times

/-!
Contract: roles and groups go where nothing refers to them, and their keys are never given out again.

Owns:
- `IsCustomRole` and `IsUsedRole` with their counterparts for groups, and `Removes`, a deletion that
  takes what is custom and not used;
- `RefusesCounted`, that the statements refuse what the count of references finds in use;
- `CatalogTimed`, that added roles and groups can be read, which every change keeps;
- `issued`, the keys that the calls of a run give out, and `NeverReuses`, that none comes twice;
- `deletion_respects_references`, all of this after every run.

Does not own: that nobody but a service operator deletes (`RoleVault.Proofs.Accounts.Refusal`).
-/

namespace RoleVault.Accounts

open RoleVault.Accounts.Action
open RoleVault.Store
open RoleVault.Time
open RoleVault.Vault (Workspace)

variable {before after store : Store} {caller : Identity} {files : Workspace}

/-! ## Entries in use -/

/-- Whether there is a role with a key that is not builtin. -/
def IsCustomRole (store : Store) (id : RoleId) : Prop :=
  ∃ row ∈ store.roles, row.id = id ∧ row.builtin = false

/-- Whether a user holds a role or a group lists it. -/
def IsUsedRole (store : Store) (id : RoleId) : Prop :=
  (∃ held ∈ store.userRoles, held.role = id) ∨ ∃ listed ∈ store.groupRoles, listed.role = id

/-- Whether there is a group with a key that is not builtin. -/
def IsCustomGroup (store : Store) (id : GroupId) : Prop :=
  ∃ row ∈ store.groups, row.id = id ∧ row.builtin = false

/-- Whether a user belongs to a group. -/
def IsUsedGroup (store : Store) (id : GroupId) : Prop :=
  ∃ user ∈ store.users, user.group = id

/-- The tables without a role. -/
def withoutRole (store : Store) (id : RoleId) : Store :=
  { store with roles := store.roles.filter (·.id != id) }

/-- The tables without a group and its list. -/
def withoutGroup (store : Store) (id : GroupId) : Store :=
  { store with
    groups := store.groups.filter (·.id != id)
    groupRoles := store.groupRoles.filter (·.group != id) }

private theorem inUse_iff {id : RoleId} :
    (store.roleReferences id).inUse = true ↔ IsUsedRole store id := by
  simp [RoleReferences.inUse, roleReferences, IsUsedRole, List.length_pos_iff_exists_mem]

private theorem members_iff {id : GroupId} :
    0 < (store.members id).length ↔ IsUsedGroup store id := by
  simp [members, IsUsedGroup, List.length_pos_iff_exists_mem]

/-! ## Statements -/

/-- A role in use is there, so a missing one is never refused. -/
theorem deleteRole_run (schema : Schema store) (id : RoleId) :
    (Roles.delete id).run store =
      if (store.roleReferences id).inUse then .error (.dangling s!"role {id}")
      else .ok (store.roles.any (·.id == id), withoutRole store id) := by
  simp only [Roles.delete, StateT.run]
  cases present : store.roles.any (·.id == id) with
  | true => cases (store.roleReferences id).inUse <;> rfl
  | false =>
    have absent : ∀ row ∈ store.roles, row.id ≠ id := by simpa using present
    have unused : (store.roleReferences id).inUse = false := by
      rw [Bool.eq_false_iff, Ne, inUse_iff]
      rintro (⟨held, member, rfl⟩ | ⟨listed, member, rfl⟩)
      · obtain ⟨row, rowMember, same⟩ := schema.heldRole held member
        exact absent row rowMember same
      · obtain ⟨row, rowMember, same⟩ := schema.listedRole listed member
        exact absent row rowMember same
    have same : withoutRole store id = store := by
      rw [withoutRole, List.filter_eq_self.mpr fun row member => bne_iff_ne.mpr (absent row member)]
    rw [unused, same]
    rfl

/-- A group with members is there, so a missing one is never refused. -/
theorem deleteGroup_run (schema : Schema store) (id : GroupId) :
    (Groups.delete id).run store =
      if 0 < (store.members id).length then .error (.dangling s!"group {id}")
      else .ok (store.groups.any (·.id == id), withoutGroup store id) := by
  simp only [Groups.delete, StateT.run]
  cases present : store.groups.any (·.id == id) with
  | true => cases store.members id <;> rfl
  | false =>
    have absent : ∀ row ∈ store.groups, row.id ≠ id := by simpa using present
    have empty : ¬ 0 < (store.members id).length := by
      rw [members_iff]
      rintro ⟨user, member, rfl⟩
      obtain ⟨row, rowMember, same⟩ := schema.memberGroup user member
      exact absent row rowMember same
    have unlisted : ∀ listed ∈ store.groupRoles, listed.group ≠ id := by
      rintro listed member rfl
      obtain ⟨row, rowMember, same⟩ := schema.listedGroup listed member
      exact absent row rowMember same
    have same : withoutGroup store id = store := by
      rw [withoutGroup,
        List.filter_eq_self.mpr fun row member => bne_iff_ne.mpr (absent row member),
        List.filter_eq_self.mpr fun listed member => bne_iff_ne.mpr (unlisted listed member)]
    rw [if_neg empty, same]
    rfl

/-- Whether the statements that delete refuse, as a conflict, what the statements that count find in
use, and nothing else. -/
structure RefusesCounted (store : Store) : Prop where
  role : ∀ id, (∃ what, (Roles.delete id).run store = .error (.conflict what)) ↔
    ∃ references, (Roles.references id).run store = .ok (references, store) ∧
      references.inUse = true
  group : ∀ id, (∃ what, (Groups.delete id).run store = .error (.conflict what)) ↔
    ∃ count, (Groups.memberCount id).run store = .ok (count, store) ∧ 0 < count

private theorem refusesCounted (schema : Schema store) : RefusesCounted store := by
  constructor
  · intro id
    have counts : (Roles.references id).run store = .ok (store.roleReferences id, store) := rfl
    rw [deleteRole_run schema, counts]
    cases used : (store.roleReferences id).inUse <;> simp [used, StoreError.dangling]
  · intro id
    have counts : (Groups.memberCount id).run store =
      .ok ((store.members id).length, store) := rfl
    rw [deleteGroup_run schema, counts]
    by_cases peopled : 0 < (store.members id).length <;> simp [peopled, StoreError.dangling]

/-! ## Entries that can be read -/

/-- Tables in which the times of all roles and groups can be read that are not builtin. -/
structure CatalogTimed (store : Store) : Prop where
  roles : ∀ row ∈ store.roles, row.builtin = false → AreTimes row.createdAt row.updatedAt
  groups : ∀ row ∈ store.groups, row.builtin = false → AreTimes row.createdAt row.updatedAt

/-- They are the tables in which every entry is builtin or can be read. -/
theorem catalogTimed_iff : CatalogTimed store ↔
    CatalogFits (fun builtin createdAt updatedAt => builtin = false → AreTimes createdAt updatedAt)
      store :=
  ⟨fun ⟨roles, groups⟩ => ⟨roles, groups⟩, fun ⟨roles, groups⟩ => ⟨roles, groups⟩⟩

private theorem catalogTimed_freshTables (stamp : String) : CatalogTimed (freshTables stamp) := by
  constructor <;> simp [freshTables]

private theorem Event.Changes.catalogTimed {event : Event} (dated : event.IsDated)
    (changes : event.Changes before after) (timed : CatalogTimed before) : CatalogTimed after := by
  rw [catalogTimed_iff] at timed ⊢
  refine changes.catalogFits (fun now nowDated => ?_) dated timed
  exact ⟨fun _ => areTimes_new nowDated, fun times custom => (times custom).touched nowDated⟩

/-! ## Deletions -/

/-- Whether an operation takes what is custom and not used, which leads to another state, and in all
other cases fails and leaves the state alone, with a conflict where it is the use that is in the
way. -/
structure Removes (delete : Action Unit) (custom used : Prop) (start rest : State) : Prop where
  succeeds_iff : (exec delete start).1 = .ok () ↔ custom ∧ ¬ used
  removed : (exec delete start).1 = .ok () → (exec delete start).2 = rest
  refused : (exec delete start).1 ≠ .ok () → (exec delete start).2 = start
  conflict : custom → used → ∃ reason, (exec delete start).1 = .error (.conflict reason)

namespace Removes

variable {delete : Action Unit} {custom used : Prop} {start rest : State}

/-- What is missing is not taken. -/
theorem of_missing {failure : AccountsError} (missing : ¬ custom)
    (ends : exec delete start = (.error failure, start)) :
    Removes delete custom used start rest := by
  constructor <;> simp [ends, missing]

/-- What is there passes two guards. -/
theorem of_guards {builtin counted : Bool} {kept held : String} (isCustom : custom ↔ builtin = false)
    (isUsed : counted = true ↔ used)
    (ends : exec delete start =
      if builtin then (.error (.conflict kept), start)
      else if counted then (.error (.conflict held), start)
      else (.ok (), rest)) :
    Removes delete custom used start rest := by
  rw [← isUsed.eq, isCustom.eq]
  cases builtin <;> cases counted <;> constructor <;> simp_all

end Removes

private theorem exec_requireManager (manager : caller.isOperator = true) (state : State) :
    exec (Catalog.requireManager caller) state = (.ok (), state) := by
  refine exec_check_ok ?_ state
  rw [Access.Gate.manageCatalog_allow.mpr manager]
  rfl

section Role

variable {id : RoleId} {role : CatalogRole}

private theorem exec_getRole (store : Store) (id : RoleId) (files : Workspace) :
    exec (Catalog.getRole id) ⟨.opened store, files⟩ =
      (readBack (Roles.find? id) (.notFound s!"role {id}") store, ⟨.opened store, files⟩) :=
  exec_readBack _ _ _

/-- How the deletion of a role that can be read ends. -/
theorem exec_deleteRole (schema : Schema store) (manager : caller.isOperator = true)
    (gets : exec (Catalog.getRole id) ⟨.opened store, files⟩ = (.ok role, ⟨.opened store, files⟩))
    (present : ∃ row ∈ store.roles, row.id = id) :
    exec (Catalog.deleteRole caller id) ⟨.opened store, files⟩ =
      let references := store.roleReferences id
      if role.builtin then
        (.error (.conflict s!"builtin role {role.name} cannot be deleted"), ⟨.opened store, files⟩)
      else if references.inUse then
        (.error (.conflict
          s!"role {role.name} is held by {references.users} user(s) and {references.groups} group(s)"),
          ⟨.opened store, files⟩)
      else (.ok (), ⟨.opened (withoutRole store id), files⟩) := by
  have counts : (Roles.references id).run store = .ok (store.roleReferences id, store) := rfl
  rw [Catalog.deleteRole, exec_bind_ok (exec_requireManager manager _), exec_bind_ok gets,
    exec_bind, exec_require]
  cases role.builtin with
  | true => rfl
  | false =>
    simp only [Bool.not_false, if_true]
    rw [exec_bind_ok (exec_transact_ok counts files), exec_bind, exec_require]
    cases used : (store.roleReferences id).inUse with
    | true => rfl
    | false =>
      have deletes := deleteRole_run schema id
      rw [used, any_key.mpr present] at deletes
      simp only [Bool.not_false, if_true]
      rw [exec_bind_ok (exec_transact_ok deletes files)]
      rfl

private theorem removesRole (sound : Sound store) (timed : CatalogTimed store)
    (manager : caller.isOperator = true) (id : RoleId) (files : Workspace) :
    Removes (Catalog.deleteRole caller id) (IsCustomRole store id) (IsUsedRole store id)
      ⟨.opened store, files⟩ ⟨.opened (withoutRole store id), files⟩ := by
  have gets := exec_getRole store id files
  cases looked : readBack (Roles.find? id) (.notFound s!"role {id}") store with
  | error failure =>
    rw [looked] at gets
    have missing : ¬ IsCustomRole store id := by
      rintro ⟨row, member, same, custom⟩
      obtain ⟨role, found⟩ := readBack_role (.notFound s!"role {id}") sound member same
        (timed.roles row member custom)
      rw [looked] at found
      cases found
    have ends : exec (Catalog.deleteRole caller id) ⟨.opened store, files⟩ =
        (.error failure, ⟨.opened store, files⟩) := by
      rw [Catalog.deleteRole, exec_bind_ok (exec_requireManager manager _), exec_bind, gets]
    exact .of_missing missing ends
  | ok role =>
    rw [looked] at gets
    obtain ⟨row, member, same, reads⟩ := gives_getRole ⟨files, files, gets⟩
    refine .of_guards ?_ inUse_iff (exec_deleteRole sound.schema manager gets ⟨row, member, same⟩)
    rw [reads.builtin]
    constructor
    · rintro ⟨other, otherMember, otherSame, custom⟩
      rwa [sound.schema.role_eq member otherMember (same.trans otherSame.symm)]
    · exact fun custom => ⟨row, member, same, custom⟩

end Role

section Group

variable {id : GroupId} {group : CatalogGroup}

private theorem exec_getGroup (store : Store) (id : GroupId) (files : Workspace) :
    exec (Catalog.getGroup id) ⟨.opened store, files⟩ =
      (readBack (Groups.find? id) (.notFound s!"group {id}") store, ⟨.opened store, files⟩) :=
  exec_readBack _ _ _

/-- How the deletion of a group that can be read ends. -/
theorem exec_deleteGroup (schema : Schema store) (manager : caller.isOperator = true)
    (gets : exec (Catalog.getGroup id) ⟨.opened store, files⟩ =
      (.ok group, ⟨.opened store, files⟩))
    (present : ∃ row ∈ store.groups, row.id = id) :
    exec (Catalog.deleteGroup caller id) ⟨.opened store, files⟩ =
      let members := (store.members id).length
      if group.builtin then
        (.error (.conflict s!"builtin group {group.name} cannot be deleted"),
          ⟨.opened store, files⟩)
      else if decide (0 < members) then
        (.error (.conflict s!"group {group.name} still has {members} member(s)"),
          ⟨.opened store, files⟩)
      else (.ok (), ⟨.opened (withoutGroup store id), files⟩) := by
  have counts : (Groups.memberCount id).run store = .ok ((store.members id).length, store) := rfl
  rw [Catalog.deleteGroup, exec_bind_ok (exec_requireManager manager _), exec_bind_ok gets,
    exec_bind, exec_require]
  cases group.builtin with
  | true => rfl
  | false =>
    simp only [Bool.not_false, if_true]
    rw [exec_bind_ok (exec_transact_ok counts files), exec_bind, exec_require]
    have deletes := deleteGroup_run schema id
    cases members : (store.members id).length with
    | succ others => rfl
    | zero =>
      rw [members, any_key.mpr present] at deletes
      simp only [decide_true, if_true]
      rw [exec_bind_ok (exec_transact_ok deletes files)]
      rfl

private theorem removesGroup (sound : Sound store) (timed : CatalogTimed store)
    (manager : caller.isOperator = true) (id : GroupId) (files : Workspace) :
    Removes (Catalog.deleteGroup caller id) (IsCustomGroup store id) (IsUsedGroup store id)
      ⟨.opened store, files⟩ ⟨.opened (withoutGroup store id), files⟩ := by
  have gets := exec_getGroup store id files
  cases looked : readBack (Groups.find? id) (.notFound s!"group {id}") store with
  | error failure =>
    rw [looked] at gets
    have missing : ¬ IsCustomGroup store id := by
      rintro ⟨row, member, same, custom⟩
      obtain ⟨group, found⟩ := readBack_group (.notFound s!"group {id}") sound member same
        (timed.groups row member custom)
      rw [looked] at found
      cases found
    have ends : exec (Catalog.deleteGroup caller id) ⟨.opened store, files⟩ =
        (.error failure, ⟨.opened store, files⟩) := by
      rw [Catalog.deleteGroup, exec_bind_ok (exec_requireManager manager _), exec_bind, gets]
    exact .of_missing missing ends
  | ok group =>
    rw [looked] at gets
    obtain ⟨row, member, same, _, builtin⟩ := findGroup?_ok (gives_getGroup ⟨files, files, gets⟩)
    refine .of_guards ?_ (decide_eq_true_iff.trans members_iff)
      (exec_deleteGroup sound.schema manager gets ⟨row, member, same⟩)
    rw [← builtin]
    constructor
    · rintro ⟨other, otherMember, otherSame, custom⟩
      rwa [sound.schema.group_eq member otherMember (same.trans otherSame.symm)]
    · exact fun custom => ⟨row, member, same, custom⟩

end Group

/-! ## Keys -/

/-- The keys that the events of a run give out, in turn, where an event gives out at most one. -/
def issued (key? : Event → State → Option Int64) : List Event → State → List Int64
  | [], _ => []
  | event :: rest, state => (key? event state).toList ++ issued key? rest (event.apply state)

/-- The key of the role that a call answers to have added, if that is what it does. -/
def Event.addedRole? : Event → State → Option RoleId
  | call context (.createRole caller request), state =>
    (exec (Catalog.createRole context.now caller request) state).1.toOption.map CatalogRole.id
  | _, _ => none

/-- The key of the group that a call answers to have added, if that is what it does. -/
def Event.addedGroup? : Event → State → Option GroupId
  | call context (.createGroup caller request), state =>
    (exec (Catalog.createGroup context.now caller request) state).1.toOption.map CatalogGroup.id
  | _, _ => none

/-- A counter that never goes back and lies, after a key was given out, between the key and the
counter before. -/
def Counts (key? : Event → State → Option Int64) (counter : Store → Int64) : Prop :=
  ∀ (event : Event) (store : Store) (files : Workspace),
    ∃ after later, event.apply ⟨.opened store, files⟩ = ⟨.opened after, later⟩ ∧
      counter store ≤ counter after ∧
      ∀ key, key? event ⟨.opened store, files⟩ = some key →
        counter store < key ∧ key ≤ counter after

/-- Keys that are counted ascend, and all of them lie above the counter at the start. -/
theorem issued_ascending {key? : Event → State → Option Int64} {counter : Store → Int64}
    (counts : Counts key? counter) (events : List Event) (store : Store) (files : Workspace) :
    (counter store :: issued key? events ⟨.opened store, files⟩).Pairwise (· < ·) := by
  induction events generalizing store files with
  | nil => exact List.pairwise_singleton _ _
  | cons event rest inductionHypothesis =>
    obtain ⟨after, later, applies, grows, between⟩ := counts event store files
    have onwards := inductionHypothesis after later
    rw [List.pairwise_cons] at onwards
    obtain ⟨above, ascending⟩ := onwards
    rw [issued, applies]
    cases given : key? event ⟨.opened store, files⟩ with
    | none =>
      refine List.pairwise_cons.mpr ⟨?_, ascending⟩
      exact fun key listed => Int64.lt_of_le_of_lt grows (above key listed)
    | some key =>
      obtain ⟨newer, counted⟩ := between key given
      have aboveKey : ∀ other ∈ issued key? rest ⟨.opened after, later⟩, key < other :=
        fun other listed => Int64.lt_of_le_of_lt counted (above other listed)
      refine List.pairwise_cons.mpr ⟨?_, List.pairwise_cons.mpr ⟨aboveKey, ascending⟩⟩
      refine List.forall_mem_cons.mpr ⟨newer, ?_⟩
      exact fun other listed => Int64.lt_trans newer (aboveKey other listed)

private theorem Effect.lastGroup_le {context : Context} {command : Command}
    {outcome : Except AccountsError Answer}
    (effect : Effect context command before outcome after) :
    before.lastGroup ≤ after.lastGroup := by
  have sameCatalog := effect.sameCatalog
  cases effect with
  | refused => exact Int64.le_refl _
  | roleAdded _ added =>
    rw [added.same]
    exact Int64.le_refl _
  | roleRelabeled => exact Int64.le_refl _
  | roleDeleted => exact Int64.le_refl _
  | groupAdded _ added lists =>
    rw [lists.same, added.same]
    exact Int64.le_of_lt added.newer
  | groupRelabeled _ _ relabeled lists =>
    obtain rfl | ⟨_, _, lists⟩ := lists
    · rw [relabeled.same]
      exact Int64.le_refl _
    · rw [lists.same, relabeled.same]
      exact Int64.le_refl _
  | groupDeleted => exact Int64.le_refl _
  | _ =>
    rw [(sameCatalog rfl).lastGroup]
    exact Int64.le_refl _

/-- No event sets a counter back. -/
theorem Event.Changes.counters_le {event : Event} (changes : event.Changes before after) :
    before.lastRole ≤ after.lastRole ∧ before.lastGroup ≤ after.lastGroup := by
  cases changes with
  | called effect => exact ⟨effect.continues.counted, effect.lastGroup_le⟩
  | inserted added =>
    rw [added.catalog.lastRole, added.catalog.lastGroup]
    exact ⟨Int64.le_refl _, Int64.le_refl _⟩
  | refused => exact ⟨Int64.le_refl _, Int64.le_refl _⟩
  | moved => exact ⟨Int64.le_refl _, Int64.le_refl _⟩

/-- What is read back was found. -/
theorem run_of_readBack {α : Type} {find : Transaction (Option α)} {missing : AccountsError}
    {value : α} (found : readBack find missing store = .ok value) :
    ∃ after, find.run store = .ok (some value, after) := by
  unfold readBack at found
  split at found
  · rename_i looked
    cases found
    exact ⟨_, looked⟩
  · cases found
  · cases found

/-- A role that is answered has the key that the counter has come to. -/
theorem ends_createRole_key (now : Instant) (caller : Identity) (request : CreateRoleRequest)
    (store : Store) :
    Ends (Catalog.createRole now caller request) store fun outcome after =>
      ∀ role, outcome = .ok role → store.lastRole < role.id ∧ role.id = after.lastRole := by
  refine .bind_looking (looks_checkNew _ _) (fun _ _ => nofun) fun _ _ => ?_
  refine .bind_looking (.check _) (fun _ _ => nofun) fun _ _ => ?_
  intro workspace
  rw [exec_createRole]
  cases adds : (Roles.add ⟨request.name, request.role, request.note⟩ now).run store with
  | error failure => exact ⟨_, store, workspace, rfl, fun _ => nofun⟩
  | ok result =>
    obtain ⟨id, after⟩ := result
    refine ⟨_, after, workspace, rfl, fun role answered => ?_⟩
    have added := addRole_ok adds
    obtain ⟨looked, finds⟩ := run_of_readBack answered
    obtain ⟨row, _, same, reads⟩ := findRole?_ok finds
    rw [reads.id, same]
    refine ⟨added.newer, ?_⟩
    rw [added.same]

/-- A group that is answered has the key that the counter has come to. -/
theorem ends_createGroup_key (now : Instant) (caller : Identity) (request : CreateGroupRequest)
    (store : Store) :
    Ends (Catalog.createGroup now caller request) store fun outcome after =>
      ∀ group, outcome = .ok group → store.lastGroup < group.id ∧ group.id = after.lastGroup := by
  refine .bind_looking (looks_checkNew _ _) (fun _ _ => nofun) fun _ _ => ?_
  refine .bind_looking (.check _) (fun _ _ => nofun) fun _ _ => ?_
  refine .bind_looking (looks_requireRoles _) (fun _ _ => nofun) fun _ _ => ?_
  refine .transact (fun _ _ => nofun) fun created after creates => ?_
  obtain ⟨id, between, added, lists, rfl⟩ := createGroup_ok creates
  rintro group ⟨⟩
  refine ⟨added.newer, ?_⟩
  rw [lists.same, added.same]

/-- A key that is answered lies between the counter before the call and the counter after it. -/
theorem key_between {α : Type} {action : Action α} {answer : α → Answer} {id : α → Int64}
    {counter : Store → Int64} {later : Workspace} {key : Int64}
    (ends : Ends action before fun outcome after =>
      ∀ value, outcome = .ok value → counter before < id value ∧ id value = counter after)
    (applies : (exec (answer <$> action) ⟨.opened before, files⟩).2 = ⟨.opened after, later⟩)
    (given : (exec action ⟨.opened before, files⟩).1.toOption.map id = some key) :
    counter before < key ∧ key ≤ counter after := by
  obtain ⟨outcome, reached, _, ended, added⟩ := ends files
  rw [exec_map, ended] at applies
  cases applies
  rw [ended] at given
  cases outcome with
  | error failure => cases given
  | ok value =>
    cases given
    obtain ⟨newer, counted⟩ := added value rfl
    exact ⟨newer, Int64.le_of_eq counted⟩

private theorem counts_addedRole : Counts Event.addedRole? Store.lastRole := by
  intro event store files
  obtain ⟨after, later, applies, changes⟩ := event.apply_changes store files
  refine ⟨after, later, applies, changes.counters_le.1, ?_⟩
  intro key given
  unfold Event.addedRole? at given
  split at given
  · rename_i context caller request
    exact key_between (ends_createRole_key context.now caller request store) applies given
  · cases given

private theorem counts_addedGroup : Counts Event.addedGroup? Store.lastGroup := by
  intro event store files
  obtain ⟨after, later, applies, changes⟩ := event.apply_changes store files
  refine ⟨after, later, applies, changes.counters_le.2, ?_⟩
  intro key given
  unfold Event.addedGroup? at given
  split at given
  · rename_i context caller request
    exact key_between (ends_createGroup_key context.now caller request store) applies given
  · cases given

/-- Whether the keys that a run gives out ascend from the last builtin one, and whatever follows gives
out none but keys above those that are in the tables after it. -/
structure NeverReuses (key? : Event → State → Option Int64) (events : List Event) (start : State)
    (keys : List Int64) : Prop where
  ascending : (lastBuiltin :: issued key? events start).Pairwise (· < ·)
  above : ∀ later, ∀ key ∈ issued key? later (run events start), ∀ known ∈ keys, known < key

private theorem neverReuses {key? : Event → State → Option Int64} {counter : Store → Int64}
    (counts : Counts key? counter) {events : List Event} {workspace : Workspace} {keys : List Int64}
    (starts : counter before = lastBuiltin)
    (leads : run events ⟨.opened before, workspace⟩ = ⟨.opened after, files⟩)
    (reached : ∀ known ∈ keys, known ≤ counter after) :
    NeverReuses key? events ⟨.opened before, workspace⟩ keys := by
  constructor
  · rw [← starts]
    exact issued_ascending counts events before workspace
  · intro later key given known member
    rw [leads] at given
    have onwards := issued_ascending counts later after files
    exact Int64.lt_of_le_of_lt (reached known member) (List.rel_of_pairwise_cons onwards given)

/-! ## Runs -/

/-- After every run from a new installation, a service operator deletes exactly the roles that are
not builtin and that no user holds and no group lists, and exactly the groups that are not builtin and
that no user belongs to; only the role goes, or the group with its list, and where the use is in the
way, the refusal is a conflict.  The statements themselves refuse what is counted as in use.  No key is
given out again, to roles or to groups.  The clock has to tell times that can be read back only for
the deletions. -/
theorem deletion_respects_references (installed : Instant) (workspace : Workspace)
    (events : List Event) :
    ∃ store files, run events (State.fresh installed workspace) = ⟨.opened store, files⟩ ∧
      ((∀ event ∈ events, event.IsDated) → ∀ caller : Identity, caller.isOperator = true →
        (∀ id, Removes (Catalog.deleteRole caller id) (IsCustomRole store id) (IsUsedRole store id)
          (run events (State.fresh installed workspace)) ⟨.opened (withoutRole store id), files⟩) ∧
        ∀ id, Removes (Catalog.deleteGroup caller id) (IsCustomGroup store id)
          (IsUsedGroup store id) (run events (State.fresh installed workspace))
          ⟨.opened (withoutGroup store id), files⟩) ∧
      RefusesCounted store ∧
      NeverReuses Event.addedRole? events (State.fresh installed workspace)
        (store.roles.map RoleRow.id) ∧
      NeverReuses Event.addedGroup? events (State.fresh installed workspace)
        (store.groups.map GroupRow.id) := by
  rw [State.fresh, fresh_eq]
  obtain ⟨store, files, leads, sound, furnished⟩ :=
    run_tables (fun store => Sound store ∧ Furnished store) (fun _ => True)
      (fun _ _ _ _ changes held =>
        ⟨changes.sound held.1, changes.furnished held.1 held.2⟩)
      (fun _ _ => trivial) ⟨sound_freshTables (Rfc3339.renderZulu installed.truncate),
        furnished_freshTables _⟩ workspace
  refine ⟨store, files, leads, ?_, refusesCounted sound.schema, ?_, ?_⟩
  · intro dated caller manager
    have timed : CatalogTimed store := by
      obtain ⟨after, later, leadsTo, timed⟩ := run_tables CatalogTimed Event.IsDated
        (fun _ _ _ dated changes => changes.catalogTimed dated) dated
        (catalogTimed_freshTables _) workspace
      rw [leads] at leadsTo
      cases leadsTo
      exact timed
    rw [leads]
    exact ⟨fun id => removesRole sound timed manager id files,
      fun id => removesGroup sound timed manager id files⟩
  · refine neverReuses counts_addedRole rfl leads (List.forall_mem_map.mpr ?_)
    exact fun row member => furnished.roles.reached row.entry (List.mem_map_of_mem member)
  · refine neverReuses counts_addedGroup rfl leads (List.forall_mem_map.mpr ?_)
    exact fun row member => furnished.groups.reached row.entry (List.mem_map_of_mem member)

/-- A role that is added leaves sound tables sound. -/
theorem Sound.roleAdded {id : RoleId} {role : NewRole} {now : Instant} (sound : Sound before)
    (added : RoleAdded id role now before after) : Sound after :=
  sound.of_unnoticed (sound.schema.roleAdded added) (sound.leveled.roleAdded added)
    (added.unnoticed sound.schema)

def CreateRoleRequest.newRole (request : CreateRoleRequest) : NewRole :=
  ⟨request.name, request.role, request.note⟩

/-- A role that can be added is answered with its key. -/
theorem apply_createRole {context : Context} (caller : Identity) (request : CreateRoleRequest)
    {id : RoleId} (sound : Sound before) (dated : context.now.IsDated)
    (manager : caller.isOperator = true)
    (name : Access.validateName request.name = .ok ())
    (note : Access.validateNote request.note = .ok ())
    (adds : (Roles.add request.newRole context.now).run before = .ok (id, after))
    (files : Workspace) :
    let event := Event.call context (.createRole caller request)
    event.apply ⟨.opened before, files⟩ = ⟨.opened after, files⟩ ∧
      event.addedRole? ⟨.opened before, files⟩ = some id := by
  have checks : exec (Catalog.checkNew request.name request.note) ⟨.opened before, files⟩ =
      (.ok (), ⟨.opened before, files⟩) := by
    rw [Catalog.checkNew, exec_bind_ok (exec_check_ok name _)]
    exact exec_check_ok note _
  have added := addRole_ok adds
  obtain ⟨role, found⟩ := readBack_addedRole dated (.internal (StoreError.internal
    s!"role {id} vanished after insert").message) added (sound.roleAdded added)
  obtain ⟨_, finds⟩ := run_of_readBack found
  obtain ⟨row, _, same, reads⟩ := findRole?_ok finds
  have creates : exec (Catalog.createRole context.now caller request) ⟨.opened before, files⟩ =
      (.ok role, ⟨.opened after, files⟩) := by
    rw [Catalog.createRole, exec_bind_ok checks, exec_bind_ok (exec_requireManager manager _),
      exec_createRole]
    rw [CreateRoleRequest.newRole] at adds
    rw [adds]
    exact congrArg (·, _) found
  intro event
  constructor
  · rw [Event.apply, Command.perform, exec_map, creates]
  · rw [Event.addedRole?, creates]
    exact congrArg some (reads.id.trans same)

namespace Sample

def clerk : CreateRoleRequest := ⟨"clerk", .user, ""⟩

def guard : CreateRoleRequest := ⟨"guard", .user, ""⟩

/-- A user that holds the first role that is added. -/
def eve : NewUser := ⟨id, "eve", "password1", "eve", none, none, defaultGroup, [1000]⟩

/-- Two roles are added, and between them a user that holds the first. -/
def staffing : List Event :=
  [.call context (.createRole self clerk), .insert eve now, .call context (.createRole self guard)]

/-- The tables with the first role. -/
def withClerk : Store :=
  { freshTables (Rfc3339.renderZulu now.truncate) with
    roles := (freshTables (Rfc3339.renderZulu now.truncate)).roles ++
      [newRoleRow 1000 clerk.newRole now]
    lastRole := 1000 }

def withEve : Store :=
  { withClerk with users := [Store.Users.newRow eve now], userRoles := [⟨id.text, 1000⟩] }

def staffed : Store :=
  { withEve with
    roles := withClerk.roles ++ [newRoleRow 1001 guard.newRole now]
    lastRole := 1001 }

private theorem adds_clerk :
    (Roles.add clerk.newRole now).run (freshTables (Rfc3339.renderZulu now.truncate)) =
      .ok (1000, withClerk) := rfl

private theorem creates_eve : (Store.Users.create eve now).run withClerk = .ok ((), withEve) := rfl

private theorem adds_guard : (Roles.add guard.newRole now).run withEve = .ok (1001, staffed) := rfl

private theorem run_staffing : run staffing (State.fresh now files) = ⟨.opened staffed, files⟩ ∧
    issued Event.addedRole? staffing (State.fresh now files) = [1000, 1001] := by
  have dated : context.now.IsDated := by decide
  have fresh := sound_freshTables (Rfc3339.renderZulu now.truncate)
  have withClerk := fresh.roleAdded (addRole_ok adds_clerk)
  have withEve := withClerk.added (create_ok creates_eve)
  obtain ⟨clerked, clerkKey⟩ :=
    apply_createRole self clerk fresh dated rfl (by decide) (by decide) adds_clerk files
  obtain ⟨guarded, guardKey⟩ :=
    apply_createRole self guard withEve dated rfl (by decide) (by decide) adds_guard files
  have inserted : (Event.insert eve now).apply ⟨.opened Sample.withClerk, files⟩ =
      ⟨.opened Sample.withEve, files⟩ := by
    rw [Event.apply, exec_transact_ok creates_eve]
  constructor
  · rw [State.fresh, fresh_eq, staffing, run_cons, run_cons, run_cons, clerked, inserted, guarded]
    rfl
  · rw [State.fresh, fresh_eq, staffing, issued, issued, issued, clerked, inserted, clerkKey,
      guardKey]
    rfl

private theorem dated_staffing : ∀ event ∈ staffing, event.IsDated := by
  have dated : now.IsDated := by decide
  simp only [staffing, List.forall_mem_cons]
  refine ⟨dated, dated, dated, ?_⟩
  rintro event ⟨⟩

end Sample

/-- Of two roles that were added, the one that a user holds stays and the other goes. -/
theorem staffing_respects_references :
    (∀ event ∈ Sample.staffing, event.IsDated) ∧ Sample.self.isOperator = true ∧
      (∃ reason, (exec (Catalog.deleteRole Sample.self 1000)
        (run Sample.staffing (State.fresh Sample.now Sample.files))).1 =
          .error (.conflict reason)) ∧
      exec (Catalog.deleteRole Sample.self 1001)
          (run Sample.staffing (State.fresh Sample.now Sample.files)) =
        (.ok (), ⟨.opened (withoutRole Sample.staffed 1001), Sample.files⟩) ∧
      (∃ what, (Roles.delete 1000).run Sample.staffed = .error (.conflict what)) ∧
      [lastBuiltin, 1000, 1001].Pairwise (· < ·) := by
  obtain ⟨store, files, leads, deletes, refuses, fresh, _⟩ :=
    deletion_respects_references Sample.now Sample.files Sample.staffing
  obtain ⟨runs, keys⟩ := Sample.run_staffing
  obtain ⟨rfl, rfl⟩ : store = Sample.staffed ∧ files = Sample.files := by
    rw [runs] at leads
    cases leads
    exact ⟨rfl, rfl⟩
  have ascending := fresh.ascending
  rw [keys] at ascending
  obtain ⟨roles, _⟩ := deletes Sample.dated_staffing Sample.self rfl
  have held : IsUsedRole Sample.staffed 1000 := .inl ⟨⟨Sample.id.text, 1000⟩, by decide, rfl⟩
  have unused : ¬ IsUsedRole Sample.staffed 1001 := by
    rw [← inUse_iff]
    decide
  have clerk : IsCustomRole Sample.staffed 1000 :=
    ⟨newRoleRow 1000 Sample.clerk.newRole Sample.now, by simp [Sample.staffed, Sample.withClerk],
      rfl, rfl⟩
  have guard : IsCustomRole Sample.staffed 1001 :=
    ⟨newRoleRow 1001 Sample.guard.newRole Sample.now, by simp [Sample.staffed], rfl, rfl⟩
  have removed := (roles 1001).succeeds_iff.mpr ⟨guard, unused⟩
  refine ⟨Sample.dated_staffing, rfl, (roles 1000).conflict clerk held,
    Prod.ext removed ((roles 1001).removed removed), ?_, ascending⟩
  exact (refuses.role 1000).mpr ⟨_, rfl, inUse_iff.mpr held⟩

end RoleVault.Accounts
