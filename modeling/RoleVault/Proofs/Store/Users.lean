import RoleVault.Accounts.Users
import RoleVault.Proofs.Store.Lookup

/-!
Contract: what the statements on users leave in the tables.

Owns:
- `HoldsExactly`, the tables after the roles of a user were replaced, and what that user holds then;
- `Added` and `Saved`, the tables after a user was added or changed; the tables after one was
  deleted or got another password;
- that all of these keep the rules of the tables.

Does not own: when the statements are used (`RoleVault.Proofs.Accounts.Effect`).
-/

namespace RoleVault.Store

open RoleVault.Access (Grant)
open RoleVault.Time

variable {before after : Store}

/-! ## Roles of a user -/

/-- The roles that users hold after those of one of them were replaced. -/
structure HoldsExactly (user : String) (roles : List RoleId) (before after : Store) : Prop where
  held : ∀ {holder role}, ⟨holder, role⟩ ∈ after.userRoles ↔
    if holder = user then role ∈ roles else ⟨holder, role⟩ ∈ before.userRoles
  once : before.userRoles.Nodup → after.userRoles.Nodup
  known : ∀ role ∈ roles, ∃ row ∈ before.roles, row.id = role

/-- Replacing the roles of a user changes the roles that it holds and nothing else. -/
theorem setRoles_ok {user : String} {roles : List RoleId}
    (ends : (Users.setRoles user roles).run before = .ok ((), after)) :
    after = { before with userRoles := after.userRoles } ∧
      HoldsExactly user roles before after := by
  rw [setRoles_eq] at ends
  have replaced := PairTable.replace_ok isLawful_heldTable ends
  refine ⟨replaced.write, ?_, replaced.once, ?_⟩
  · intro holder role
    refine replaced.mem.trans ?_
    by_cases same : holder = user
    · simp [heldTable, same]
    · simp [heldTable, same, Ne.symm same]
  · intro role member
    have known := replaced.known ⟨user, role⟩ (List.mem_map_of_mem member) (by simp)
    rw [heldTable, Bool.and_eq_true, any_key, any_key] at known
    exact known.2

/-! ## Adding -/

/-- The tables after a user was added. -/
structure Added (user : NewUser) (now : Instant) (before after : Store) : Prop where
  newId : ∀ row ∈ before.users, row.id ≠ user.id.text
  newName : ∀ row ∈ before.users, row.name ≠ user.name
  group : ∃ row ∈ before.groups, row.id = user.group
  same : after = { before with
    users := before.users ++ [Users.newRow user now], userRoles := after.userRoles }
  holds : HoldsExactly user.id.text user.roles before after

/-- A row is added where its key and its name are new and its group is there. -/
theorem add_ok {row : UserRow} (ends : (Users.add row).run before = .ok ((), after)) :
    (∀ other ∈ before.users, other.id ≠ row.id ∧ other.name ≠ row.name) ∧
      (∃ group ∈ before.groups, group.id = row.group) ∧
      after = { before with users := before.users ++ [row] } := by
  simp only [Users.add, StateT.run] at ends
  split at ends
  · cases ends
  · rename_i untaken
    split at ends
    · cases ends
    · rename_i grouped
      cases ends
      refine ⟨?_, by simpa using grouped, rfl⟩
      simpa using untaken

/-- A user that was created is added with its roles. -/
theorem create_ok {user : NewUser} {now : Instant}
    (ends : (Users.create user now).run before = .ok ((), after)) :
      Added user now before after := by
  obtain ⟨_, between, adds, sets⟩ := Transaction.bind_ok ends
  obtain ⟨untaken, group, rfl⟩ := add_ok adds
  obtain ⟨same, held, once, known⟩ := setRoles_ok sets
  exact ⟨fun row member => (untaken row member).1, fun row member => (untaken row member).2, group,
    same, held, once, known⟩

/-! ## Changing -/

/-- The row of a user with all that a record says and, where one is given, another password. -/
def rewritten (user : UserRecord) (stored : Option String) (now : Instant) (row : UserRow) :
    UserRow :=
  { Users.overlay user now row with stored := stored.getD user.stored }

theorem rewritten_id (user : UserRecord) (stored : Option String) (now : Instant) (row : UserRow) :
    (rewritten user stored now row).id = row.id := rfl

/-- The tables after a user was changed. -/
structure Saved (user : UserRecord) (stored : Option String) (now : Instant)
    (before after : Store) : Prop where
  present : ∃ row ∈ before.users, row.id = user.id.text
  newName : ∀ row ∈ before.users, row.id ≠ user.id.text → row.name ≠ user.name
  group : ∃ row ∈ before.groups, row.id = user.group
  same : after = { before with
    users := Users.modifyRow user.id.text (rewritten user stored now) before.users
    userRoles := after.userRoles }
  holds : HoldsExactly user.id.text (user.grants.map Grant.id) before after

private theorem replaceRow_ok {user : UserRecord} {now : Instant} {found : Bool}
    (ends : (Users.replaceRow user now).run before = .ok (found, after)) :
    (found = false ∧ after = before) ∨
      found = true ∧ (∃ row ∈ before.users, row.id = user.id.text) ∧
        (∀ row ∈ before.users, row.id ≠ user.id.text → row.name ≠ user.name) ∧
        (∃ row ∈ before.groups, row.id = user.group) ∧
        after = { before with
          users := Users.modifyRow user.id.text (Users.overlay user now) before.users } := by
  simp only [Users.replaceRow, StateT.run] at ends
  split at ends
  · cases ends
    exact .inl ⟨rfl, rfl⟩
  · rename_i present
    split at ends
    · cases ends
    · rename_i untaken
      split at ends
      · cases ends
      · rename_i grouped
        cases ends
        refine .inr ⟨rfl, by simpa using present, ?_, by simpa using grouped, rfl⟩
        simpa using untaken

section Rows

variable {id : String} {write : UserRow → UserRow} {rows : List UserRow} {row : UserRow}

private theorem modifyRow_modifyRow {second : UserRow → UserRow}
    (keeps : ∀ row, (write row).id = row.id) :
    Users.modifyRow id second (Users.modifyRow id write rows) =
      Users.modifyRow id (second ∘ write) rows := by
  simp only [Users.modifyRow, List.map_map]
  refine List.map_congr_left fun row _ => ?_
  by_cases same : row.id = id <;> simp [same, keeps]

/-- A column that is not written is as before. -/
theorem map_modifyRow {α : Type} {column : UserRow → α}
    (keeps : ∀ row, column (write row) = column row) :
    (Users.modifyRow id write rows).map column = rows.map column := by
  simp only [Users.modifyRow, List.map_map]
  refine List.map_congr_left fun row _ => ?_
  by_cases same : row.id = id <;> simp [same, keeps]

/-- A changed row stands where the row with its key stood. -/
theorem mem_modifyRow :
    row ∈ Users.modifyRow id write rows ↔
      ∃ source ∈ rows, (source.id = id ∧ row = write source) ∨ (source.id ≠ id ∧ row = source) := by
  simp only [Users.modifyRow, List.mem_map]
  constructor
  · rintro ⟨source, member, rfl⟩
    by_cases same : source.id = id
    · exact ⟨source, member, .inl ⟨same, by simp [same]⟩⟩
    · exact ⟨source, member, .inr ⟨same, by simp [same]⟩⟩
  · rintro ⟨source, member, ⟨same, rfl⟩ | ⟨different, rfl⟩⟩
    · exact ⟨source, member, by simp [same]⟩
    · exact ⟨row, member, by simp [different]⟩

theorem forall_modifyRow {holds : UserRow → Prop} (all : ∀ row ∈ rows, holds row)
    (keeps : ∀ row, holds row → holds (write row)) :
    ∀ row ∈ Users.modifyRow id write rows, holds row := by
  intro row member
  obtain ⟨source, sourceMember, ⟨_, rfl⟩ | ⟨_, rfl⟩⟩ := mem_modifyRow.mp member
  · exact keeps source (all source sourceMember)
  · exact all row sourceMember

theorem exists_key_modifyRow (keeps : ∀ row, (write row).id = row.id) {key : String} :
    (∃ row ∈ Users.modifyRow id write rows, row.id = key) ↔ ∃ row ∈ rows, row.id = key := by
  rw [← List.mem_map, ← List.mem_map, map_modifyRow keeps]

end Rows

/-- Giving a user another password. -/
def withStored (stored : String) (now : Instant) (row : UserRow) : UserRow :=
  { row with stored := stored, updatedAt := Rfc3339.renderOffset now }

theorem withStored_id (stored : String) (now : Instant) (row : UserRow) :
    (withStored stored now row).id = row.id := rfl

theorem setStored_run {id : UserId} {stored : String} {now : Instant}
    (present : ∃ row ∈ before.users, row.id = id.text) :
    (Users.setStored id stored now).run before = .ok (true, { before with
      users := Users.modifyRow id.text (withStored stored now) before.users }) :=
  if_pos (any_key.mpr present)

/-- Giving another password changes the row with that key alone. -/
theorem setStored_ok {id : UserId} {stored : String} {now : Instant} {found : Bool}
    (ends : (Users.setStored id stored now).run before = .ok (found, after)) :
    (found = false ∧ (∀ row ∈ before.users, row.id ≠ id.text) ∧ after = before) ∨
      found = true ∧ (∃ row ∈ before.users, row.id = id.text) ∧
        after = { before with
          users := Users.modifyRow id.text (withStored stored now) before.users } := by
  simp only [Users.setStored, StateT.run] at ends
  split at ends
  · rename_i present
    cases ends
    exact .inr ⟨rfl, any_key.mp present, rfl⟩
  · rename_i absent
    cases ends
    exact .inl ⟨rfl, by simpa using absent, rfl⟩

/-- A user that is there is saved as its record says. -/
theorem replace_ok {user : UserRecord} {now : Instant} {found : Bool}
    (ends : (Users.replace user now).run before = .ok (found, after)) :
    (found = false ∧ after = before) ∨ found = true ∧ Saved user none now before after := by
  obtain ⟨there, rowed, overlays, sets⟩ := Transaction.bind_ok ends
  obtain ⟨rfl, rfl⟩ | ⟨rfl, present, newName, group, rfl⟩ := replaceRow_ok overlays
  · cases sets
    exact .inl ⟨rfl, rfl⟩
  · obtain ⟨_, between, setsRoles, returns⟩ := Transaction.bind_ok sets
    obtain ⟨rfl, rfl⟩ := Transaction.pure_ok returns
    obtain ⟨same, held, once, known⟩ := setRoles_ok setsRoles
    exact .inr ⟨rfl, present, newName, group, same, held, once, known⟩

theorem Saved.users {user : UserRecord} {stored : Option String} {now : Instant}
    (saved : Saved user stored now before after) :
    after.users = Users.modifyRow user.id.text (rewritten user stored now) before.users := by
  rw [saved.same]

/-- The keys of users are as before. -/
theorem Saved.exists_key {user : UserRecord} {stored : Option String} {now : Instant}
    (saved : Saved user stored now before after) {key : String} :
    (∃ row ∈ after.users, row.id = key) ↔ ∃ row ∈ before.users, row.id = key := by
  rw [saved.users]
  exact exists_key_modifyRow (rewritten_id user stored now)

/-- The password may be written after the rest of the record. -/
theorem Saved.setStored {user : UserRecord} {stored : String} {now : Instant} {between : Store}
    (saved : Saved user none now before between) :
    Saved user (some stored) now before { between with
      users := Users.modifyRow user.id.text (withStored stored now) between.users } := by
  have composed : Users.modifyRow user.id.text (withStored stored now) between.users =
      Users.modifyRow user.id.text (rewritten user (some stored) now) before.users := by
    rw [saved.users, modifyRow_modifyRow (rewritten_id user none now)]
    rfl
  refine ⟨saved.present, saved.newName, saved.group, ?_, ⟨saved.holds.held, saved.holds.once,
    saved.holds.known⟩⟩
  rw [composed]
  conv => lhs; rw [saved.same]

/-- A save writes the record and the password of a user that is there. -/
theorem save_ok {user : UserRecord} {stored : Option String} {now : Instant} {found : Bool}
    (ends : (Accounts.Users.save user stored now).run before = .ok (found, after)) :
    (found = false ∧ after = before) ∨ found = true ∧ Saved user stored now before after := by
  obtain ⟨there, between, replaces, stores⟩ := Transaction.bind_ok ends
  obtain ⟨rfl, rfl⟩ | ⟨rfl, saved⟩ := replace_ok replaces
  · cases stores
    exact .inl ⟨rfl, rfl⟩
  · cases stored with
    | none =>
      cases stores
      exact .inr ⟨rfl, saved⟩
    | some stored =>
      obtain ⟨_, later, discards, returns⟩ := Transaction.bind_ok stores
      obtain ⟨rfl, rfl⟩ := Transaction.pure_ok returns
      change (Users.setStored user.id stored now >>= fun _ => pure ()).run between = _ at discards
      obtain ⟨found, _, sets, forgets⟩ := Transaction.bind_ok discards
      cases forgets
      obtain ⟨_, absent, _⟩ | ⟨_, _, rfl⟩ := setStored_ok sets
      · obtain ⟨row, member, same⟩ := saved.exists_key.mpr saved.present
        exact absurd same (absent row member)
      · exact .inr ⟨rfl, saved.setStored⟩

/-! ## Deleting -/

/-- The tables without a user. -/
def without (store : Store) (user : String) : Store :=
  { store with
    users := store.users.filter (·.id != user)
    userRoles := store.userRoles.filter (·.user != user) }

/-- A user that is deleted takes its roles along. -/
theorem delete_ok {id : UserId} {found : Bool}
    (ends : (Users.delete id).run before = .ok (found, after)) :
    (found = false ∧ after = before) ∨ found = true ∧ after = before.without id.text := by
  simp only [Users.delete, StateT.run] at ends
  split at ends <;> cases ends
  · exact .inr ⟨rfl, rfl⟩
  · exact .inl ⟨rfl, rfl⟩

/-! ## What stays -/

/-- Two states of the tables with the same catalog. -/
structure SameCatalog (before after : Store) : Prop where
  groups : after.groups = before.groups
  roles : after.roles = before.roles
  groupRoles : after.groupRoles = before.groupRoles
  lastGroup : after.lastGroup = before.lastGroup
  lastRole : after.lastRole = before.lastRole

theorem SameCatalog.refl (store : Store) : SameCatalog store store :=
  ⟨rfl, rfl, rfl, rfl, rfl⟩

theorem SameCatalog.trans {last : Store} (first : SameCatalog before after)
    (second : SameCatalog after last) : SameCatalog before last :=
  ⟨second.groups.trans first.groups, second.roles.trans first.roles,
    second.groupRoles.trans first.groupRoles, second.lastGroup.trans first.lastGroup,
    second.lastRole.trans first.lastRole⟩

section Catalog

variable {user : String} {grants : List Grant}

/-- Users keep the roles that a change of the roles of another does not touch. -/
theorem HoldsExactly.others {roles : List RoleId} {other : String}
    (holds : HoldsExactly user roles before after) (catalog : SameCatalog before after)
    (different : other ≠ user) : after.levelsHeld other = before.levelsHeld other := by
  refine levelsHeld_congr catalog.roles fun role => ?_
  rw [holds.held, if_neg different]

/-- The roles of one user do not matter to the highest level of another. -/
theorem HoldsExactly.others_highest {roles : List RoleId} {other : String}
    (holds : HoldsExactly user roles before after) (catalog : SameCatalog before after)
    (different : other ≠ user) : after.highestHeld other = before.highestHeld other :=
  congrArg Role.highest (holds.others catalog different)

/-- A user holds the levels that its new grants name, as they are truthful. -/
theorem HoldsExactly.mem_levels {level : Role}
    (holds : HoldsExactly user (grants.map Grant.id) before after)
    (catalog : SameCatalog before after) (truthful : Truthful before grants) :
    level ∈ after.levelsHeld user ↔ level ∈ grants.map Grant.role := by
  rw [mem_levelsHeld, catalog.roles]
  constructor
  · rintro ⟨row, member, held, named⟩
    rw [holds.held, if_pos rfl] at held
    obtain ⟨grant, listed, same⟩ := List.mem_map.mp held
    rw [truthful grant listed row member same.symm, Option.some.injEq] at named
    exact List.mem_map.mpr ⟨grant, listed, named⟩
  · intro listed
    obtain ⟨grant, granted, rfl⟩ := List.mem_map.mp listed
    obtain ⟨row, member, same⟩ := holds.known grant.id (List.mem_map_of_mem granted)
    refine ⟨row, member, ?_, truthful grant granted row member same⟩
    rw [holds.held, if_pos rfl, same]
    exact List.mem_map_of_mem granted

/-- A user with just these roles has the highest level that they grant. -/
theorem HoldsExactly.highest (holds : HoldsExactly user (grants.map Grant.id) before after)
    (catalog : SameCatalog before after) (truthful : Truthful before grants) :
    after.highestHeld user = Role.highest (grants.map Grant.role) :=
  Role.highest_congr fun _ => holds.mem_levels catalog truthful

end Catalog

theorem Added.catalog {user : NewUser} {now : Instant} (added : Added user now before after) :
    SameCatalog before after := by
  rw [added.same]
  exact ⟨rfl, rfl, rfl, rfl, rfl⟩

theorem Added.users {user : NewUser} {now : Instant} (added : Added user now before after) :
    after.users = before.users ++ [Users.newRow user now] := by
  rw [added.same]

theorem Saved.catalog {user : UserRecord} {stored : Option String} {now : Instant}
    (saved : Saved user stored now before after) : SameCatalog before after := by
  rw [saved.same]
  exact ⟨rfl, rfl, rfl, rfl, rfl⟩

/-! ## The rules of the tables -/

/-- A change of users keeps the rules where it keeps those on users. -/
theorem Schema.of_users (schema : Schema before) (catalog : SameCatalog before after)
    (userIds : (after.users.map UserRow.id).Nodup)
    (userNames : (after.users.map UserRow.name).Nodup)
    (memberGroup : ∀ user ∈ after.users, ∃ row ∈ before.groups, row.id = user.group)
    (heldOnce : after.userRoles.Nodup)
    (heldUser : ∀ held ∈ after.userRoles, ∃ row ∈ after.users, row.id = held.user)
    (heldRole : ∀ held ∈ after.userRoles, ∃ row ∈ before.roles, row.id = held.role) :
    Schema after where
  groupIds := catalog.groups ▸ schema.groupIds
  groupNames := catalog.groups ▸ schema.groupNames
  roleIds := catalog.roles ▸ schema.roleIds
  roleNames := catalog.roles ▸ schema.roleNames
  userIds := userIds
  userNames := userNames
  listedOnce := catalog.groupRoles ▸ schema.listedOnce
  heldOnce := heldOnce
  listedGroup := by
    rw [catalog.groupRoles, catalog.groups]
    exact schema.listedGroup
  listedRole := by
    rw [catalog.groupRoles, catalog.roles]
    exact schema.listedRole
  memberGroup := by
    rw [catalog.groups]
    exact memberGroup
  heldUser := heldUser
  heldRole := by
    rw [catalog.roles]
    exact heldRole

/-- Every role that is held is in the catalog. -/
theorem HoldsExactly.heldRole {user : String} {roles : List RoleId} (schema : Schema before)
    (holds : HoldsExactly user roles before after) :
    ∀ held ∈ after.userRoles, ∃ row ∈ before.roles, row.id = held.role := by
  rintro ⟨holder, role⟩ held
  rw [holds.held] at held
  split at held
  · exact holds.known role held
  · exact schema.heldRole _ held

/-- The rules between rows survive a new user. -/
theorem Schema.added {user : NewUser} {now : Instant} (schema : Schema before)
    (added : Added user now before after) : Schema after := by
  have users := added.users
  refine schema.of_users added.catalog ?_ ?_ ?_ (added.holds.once schema.heldOnce) ?_
    (added.holds.heldRole schema)
  · rw [users]
    exact nodup_append_new schema.userIds added.newId
  · rw [users]
    exact nodup_append_new schema.userNames added.newName
  · intro row member
    rw [users, List.mem_append, List.mem_singleton] at member
    rcases member with member | rfl
    · exact schema.memberGroup row member
    · exact added.group
  · rintro ⟨holder, role⟩ held
    rw [added.holds.held] at held
    rw [users]
    split at held
    · rename_i same
      exact ⟨Users.newRow user now, by simp, same.symm⟩
    · obtain ⟨row, member, same⟩ := schema.heldUser _ held
      exact ⟨row, List.mem_append_left _ member, same⟩

/-- The rules between rows survive a change of a user. -/
theorem Schema.saved {user : UserRecord} {stored : Option String} {now : Instant}
    (schema : Schema before) (saved : Saved user stored now before after) : Schema after := by
  have users := saved.users
  refine schema.of_users saved.catalog ?_ ?_ ?_ (saved.holds.once schema.heldOnce) ?_
    (saved.holds.heldRole schema)
  · rw [users, map_modifyRow (rewritten_id user stored now)]
    exact schema.userIds
  · rw [users]
    refine nodup_map_write UserRow.id user.id.text schema.userIds schema.userNames
      (fun row other => by simp [other]) ?_
    intro row member target _ other same
    simpa [same, rewritten, Users.overlay] using saved.newName row member other
  · rw [users]
    exact forall_modifyRow schema.memberGroup fun _ _ => saved.group
  · rintro ⟨holder, role⟩ held
    refine saved.exists_key.mpr ?_
    rw [saved.holds.held] at held
    split at held
    · rename_i same
      exact same ▸ saved.present
    · exact schema.heldUser _ held

theorem Schema.storedChanged {id stored : String} {now : Instant} (schema : Schema before) :
    Schema { before with users := Users.modifyRow id (withStored stored now) before.users } := by
  have names (row : UserRow) : (withStored stored now row).name = row.name := rfl
  refine schema.of_users ⟨rfl, rfl, rfl, rfl, rfl⟩ ?_ ?_ ?_ schema.heldOnce ?_ schema.heldRole
  · rw [map_modifyRow (withStored_id stored now)]
    exact schema.userIds
  · rw [map_modifyRow names]
    exact schema.userNames
  · exact forall_modifyRow schema.memberGroup fun _ grouped => grouped
  · exact fun held listed =>
      (exists_key_modifyRow (withStored_id stored now)).mpr (schema.heldUser held listed)

/-- The rules between rows survive the end of a user. -/
theorem Schema.without {user : String} (schema : Schema before) : Schema (before.without user) := by
  have fewer : (before.users.filter (·.id != user)).Sublist before.users := List.filter_sublist
  refine schema.of_users ⟨rfl, rfl, rfl, rfl, rfl⟩ (schema.userIds.sublist (fewer.map _))
    (schema.userNames.sublist (fewer.map _)) ?_ (schema.heldOnce.filter _) ?_ ?_
  · intro row member
    exact schema.memberGroup row (List.mem_of_mem_filter member)
  · intro held listed
    obtain ⟨listed, kept⟩ := List.mem_filter.mp listed
    obtain ⟨row, member, same⟩ := schema.heldUser held listed
    exact ⟨row, List.mem_filter.mpr ⟨member, by rw [same]; exact kept⟩, same⟩
  · intro held listed
    exact schema.heldRole held (List.mem_of_mem_filter listed)

end RoleVault.Store
