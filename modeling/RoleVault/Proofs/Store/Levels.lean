import RoleVault.Proofs.Store.Catalog
import RoleVault.Store.Catalog

/-!
Contract: the levels that users hold do not depend on changes of the catalog.

Owns:
- `Unnoticed`, changes that leave users and their levels alone, as every statement on roles and
  groups does;
- `Leveled`, catalogs that name a level for every role and for the builtin ones their own, and that
  statements on roles keep a catalog so;
- `freshTables`, what a fresh database holds, its rules and its levels.

Does not own: who changes the catalog when (`RoleVault.Proofs.Accounts.Effect`,
`RoleVault.Proofs.Accounts.Invariant`).
-/

namespace RoleVault.Store

variable {before after : Store} {now : Time.Instant}

/-! ## What users notice -/

/-- A change that leaves users alone, and the levels that they hold. -/
structure Unnoticed (before after : Store) : Prop where
  users : after.users = before.users
  userRoles : after.userRoles = before.userRoles
  levels : ∀ user level, level ∈ after.levelsHeld user ↔ level ∈ before.levelsHeld user

theorem Unnoticed.trans {last : Store} (first : Unnoticed before after)
    (second : Unnoticed after last) : Unnoticed before last :=
  ⟨second.users.trans first.users, second.userRoles.trans first.userRoles,
    fun user level => (second.levels user level).trans (first.levels user level)⟩

/-- The highest level of a user stays where users notice nothing. -/
theorem Unnoticed.highestHeld (unnoticed : Unnoticed before after) (user : String) :
    after.highestHeld user = before.highestHeld user :=
  highestHeld_congr (unnoticed.levels user)

theorem unnoticed_of_same_roles (users : after.users = before.users)
    (userRoles : after.userRoles = before.userRoles) (roles : after.roles = before.roles) :
    Unnoticed before after :=
  ⟨users, userRoles, fun user level => by simp [mem_levelsHeld, userRoles, roles]⟩

theorem Unnoticed.refl (store : Store) : Unnoticed store store :=
  unnoticed_of_same_roles rfl rfl rfl

/-- No user holds a role that is only now added. -/
theorem RoleAdded.unnoticed {id : RoleId} {role : NewRole} (schema : Schema before)
    (added : RoleAdded id role now before after) : Unnoticed before after := by
  obtain ⟨_, newId, _, rfl⟩ := added
  refine ⟨rfl, rfl, fun user level => ?_⟩
  simp only [mem_levelsHeld, List.mem_append, List.mem_singleton]
  constructor
  · rintro ⟨row, member | rfl, held, named⟩
    · exact ⟨row, member, held, named⟩
    · obtain ⟨row, member, same⟩ := schema.heldRole _ held
      exact absurd same (Int64.ne_of_lt (newId row member))
  · rintro ⟨row, member, held, named⟩
    exact ⟨row, .inl member, held, named⟩

theorem unnoticed_roleRelabeled (id : RoleId) (name note : Option String) :
    Unnoticed before { before with roles := before.roles.map (relabeledRole id name note now) } :=
  ⟨rfl, rfl, fun user level => by simp [mem_levelsHeld]⟩

/-- No one notices the end of a role that no one holds. -/
theorem unnoticed_roleDeleted {id : RoleId} (unheld : ∀ held ∈ before.userRoles, held.role ≠ id) :
    Unnoticed before { before with roles := before.roles.filter (·.id != id) } := by
  refine ⟨rfl, rfl, fun user level => ?_⟩
  simp only [mem_levelsHeld, List.mem_filter]
  constructor
  · rintro ⟨row, ⟨member, _⟩, held, named⟩
    exact ⟨row, member, held, named⟩
  · rintro ⟨row, member, held, named⟩
    exact ⟨row, ⟨member, by simpa using unheld _ held⟩, held, named⟩

/-- No one notices another list of a group. -/
theorem ListsExactly.unnoticed {id : GroupId} {roles : List RoleId}
    (lists : ListsExactly id roles before after) : Unnoticed before after := by
  rw [lists.same]
  exact unnoticed_of_same_roles rfl rfl rfl

theorem GroupAdded.unnoticed {id : GroupId} {name note : String}
    (added : GroupAdded id name note now before after) : Unnoticed before after := by
  rw [added.same]
  exact unnoticed_of_same_roles rfl rfl rfl

theorem Relabeled.unnoticed {id : GroupId} {name note : Option String}
    (relabeled : Relabeled id name note now before after) : Unnoticed before after := by
  rw [relabeled.same]
  exact unnoticed_of_same_roles rfl rfl rfl

/-! ## Known levels -/

/-- A catalog that names a level for every role, and for the builtin ones their own. -/
structure Leveled (store : Store) : Prop where
  named : ∀ row ∈ store.roles, ∃ level, Role.ofName? row.level = some level
  builtin : ∀ row ∈ store.roles, ∀ level, row.id = Role.builtinId level →
    Role.ofName? row.level = some level
  counted : Role.operator.builtinId ≤ store.lastRole

private theorem builtinId_le (level : Role) : level.builtinId ≤ Role.operator.builtinId := by
  cases level <;> decide

namespace Leveled

theorem of_same (leveled : Leveled before) (roles : after.roles = before.roles)
    (lastRole : after.lastRole = before.lastRole) : Leveled after where
  named := roles ▸ leveled.named
  builtin := roles ▸ leveled.builtin
  counted := lastRole ▸ leveled.counted

theorem roleAdded {id : RoleId} {role : NewRole} (leveled : Leveled before)
    (added : RoleAdded id role now before after) : Leveled after := by
  obtain ⟨newer, _, _, rfl⟩ := added
  have above := Int64.lt_of_le_of_lt leveled.counted newer
  refine ⟨?_, ?_, Int64.le_of_lt above⟩
  · intro row member
    rcases List.mem_append.mp member with member | listed
    · exact leveled.named row member
    · rw [List.mem_singleton.mp listed]
      exact ⟨role.role, Role.ofName?_name role.role⟩
  · intro row member level same
    rcases List.mem_append.mp member with member | listed
    · exact leveled.builtin row member level same
    · rw [List.mem_singleton.mp listed] at same
      have small := Int64.lt_of_le_of_lt (builtinId_le level) above
      exact absurd same (Int64.ne_of_lt small).symm

theorem roleRelabeled {id : RoleId} {name note : Option String} (leveled : Leveled before) :
    Leveled { before with roles := before.roles.map (relabeledRole id name note now) } := by
  refine ⟨?_, ?_, leveled.counted⟩
  · intro row member
    obtain ⟨source, listed, rfl⟩ := List.mem_map.mp member
    simpa using leveled.named source listed
  · intro row member level same
    obtain ⟨source, listed, rfl⟩ := List.mem_map.mp member
    simpa using leveled.builtin source listed level (by simpa using same)

theorem roleDeleted {id : RoleId} (leveled : Leveled before) :
    Leveled { before with roles := before.roles.filter (·.id != id) } :=
  ⟨fun row member => leveled.named row (List.mem_of_mem_filter member),
    fun row member => leveled.builtin row (List.mem_of_mem_filter member), leveled.counted⟩

/-- The builtin grant of a level says what the catalog says. -/
theorem truthful_builtin {store : Store} (leveled : Leveled store) (level : Role) :
    Truthful store [Access.Grant.builtin level] := by
  intro grant listed row member same
  rw [List.mem_singleton.mp listed] at same ⊢
  exact leveled.builtin row member level same

end Leveled

open RoleVault.Time

/-- The tables of a new installation, whose rows carry this time. -/
def freshTables (stamp : String) : Store where
  groups := [
    ⟨defaultGroup, "default", "Default group", true, stamp, stamp⟩,
    ⟨operatorGroup, "op_service", "Service operators", true, stamp, stamp⟩]
  roles := [
    ⟨Role.user.builtinId, "user", "user", "Regular user", true, stamp, stamp⟩,
    ⟨Role.admin.builtinId, "admin", "admin", "Group administrator", true, stamp, stamp⟩,
    ⟨Role.operator.builtinId, "op_service", "op_service", "Service operator", true, stamp, stamp⟩]
  groupRoles :=
    [⟨defaultGroup, Role.user.builtinId⟩, ⟨operatorGroup, Role.operator.builtinId⟩]
  lastGroup := operatorGroup
  lastRole := Role.operator.builtinId

set_option maxRecDepth 8000 in
/-- A new database holds the tables of a new installation. -/
theorem fresh_eq (now : Instant) :
    Database.fresh now = .opened (freshTables (Rfc3339.renderZulu now.truncate)) := by
  unfold Database.fresh Database.migrate Seeds.statements Seeds.addGroup Seeds.addRole freshTables
  -- which time the rows carry decides nothing
  generalize Rfc3339.renderZulu now.truncate = stamp
  rfl

variable (stamp : String)

/-- The tables of a new installation keep the rules. -/
theorem schema_freshTables : Schema (freshTables stamp) where
  groupIds := by
    show [defaultGroup, operatorGroup].Nodup
    decide
  groupNames := by simp [freshTables]
  roleIds := by
    show [Role.user.builtinId, Role.admin.builtinId, Role.operator.builtinId].Nodup
    decide
  roleNames := by simp [freshTables]
  userIds := .nil
  userNames := .nil
  listedOnce := by
    show [GroupRole.mk defaultGroup Role.user.builtinId,
      GroupRole.mk operatorGroup Role.operator.builtinId].Nodup
    decide
  heldOnce := .nil
  listedGroup := by simp [freshTables]
  listedRole := by simp [freshTables]
  memberGroup := nofun
  heldUser := nofun
  heldRole := nofun

theorem leveled_freshTables : Leveled (freshTables stamp) where
  named := by
    simp only [freshTables, List.forall_mem_cons]
    exact ⟨⟨.user, Role.ofName?_name .user⟩, ⟨.admin, Role.ofName?_name .admin⟩,
      ⟨.operator, Role.ofName?_name .operator⟩, nofun⟩
  builtin := by
    simp only [freshTables, List.forall_mem_cons]
    refine ⟨?_, ?_, ?_, nofun⟩
    all_goals
      intro level same
      cases level <;> first | exact absurd same (by decide) | decide
  counted := by simp [freshTables, Role.builtinId]

end RoleVault.Store
