import Mathlib.Data.List.Nodup
import RoleVault.Proofs.Identity
import RoleVault.Store.Record

/-!
Contract: the rules between rows, and the roles that a user holds.

Owns:
- `Schema`, the rules of the tables: unique keys and names, and nothing refers to a missing row;
- finding a row by a unique key;
- `levelsHeld` and `highestHeld`, the levels that a user holds and the highest of them, and what
  they depend on.

Does not own: which statements keep the rules (`RoleVault.Proofs.Store.Users` and its neighbour).
-/

namespace RoleVault.Store

/-- The rules of the tables. -/
structure Schema (store : Store) : Prop where
  groupIds : (store.groups.map GroupRow.id).Nodup
  groupNames : (store.groups.map GroupRow.name).Nodup
  roleIds : (store.roles.map RoleRow.id).Nodup
  roleNames : (store.roles.map RoleRow.name).Nodup
  userIds : (store.users.map UserRow.id).Nodup
  userNames : (store.users.map UserRow.name).Nodup
  listedOnce : store.groupRoles.Nodup
  heldOnce : store.userRoles.Nodup
  listedGroup : ∀ listed ∈ store.groupRoles, ∃ row ∈ store.groups, row.id = listed.group
  listedRole : ∀ listed ∈ store.groupRoles, ∃ row ∈ store.roles, row.id = listed.role
  memberGroup : ∀ user ∈ store.users, ∃ row ∈ store.groups, row.id = user.group
  heldUser : ∀ held ∈ store.userRoles, ∃ row ∈ store.users, row.id = held.user
  heldRole : ∀ held ∈ store.userRoles, ∃ row ∈ store.roles, row.id = held.role

/-! ## Unique keys -/

section Unique

variable {ρ κ : Type} {key : ρ → κ} {rows : List ρ} {row : ρ} {value : κ}

/-- Keys stay unique where one row gets a key that no other has. -/
theorem nodup_map_write {ι : Type} (ident : ρ → ι) (wanted : ι) {write : ρ → ρ}
    (idents : (rows.map ident).Nodup) (keys : (rows.map key).Nodup)
    (others : ∀ row, ident row ≠ wanted → write row = row)
    (new : ∀ row ∈ rows, ∀ target ∈ rows, ident row ≠ wanted → ident target = wanted →
      key row ≠ key (write target)) :
    ((rows.map write).map key).Nodup := by
  rw [List.map_map]
  refine (List.Nodup.of_map _ idents).map_on ?_
  intro left leftMember right rightMember same
  simp only [Function.comp_apply] at same
  by_cases leftChanged : ident left = wanted
  · by_cases rightChanged : ident right = wanted
    · exact List.inj_on_of_nodup_map idents leftMember rightMember
        (leftChanged.trans rightChanged.symm)
    · rw [others right rightChanged] at same
      exact absurd same.symm (new right rightMember left leftMember rightChanged leftChanged)
  · rw [others left leftChanged] at same
    by_cases rightChanged : ident right = wanted
    · exact absurd same (new left leftMember right rightMember leftChanged rightChanged)
    · rw [others right rightChanged] at same
      exact List.inj_on_of_nodup_map keys leftMember rightMember same

/-- Keys stay unique where one row keeps its key or gets a given one that no other has. -/
theorem nodup_map_relabel {ι : Type} (ident : ρ → ι) (wanted : ι) {write : ρ → ρ} {given : Option κ}
    (idents : (rows.map ident).Nodup) (keys : (rows.map key).Nodup)
    (others : ∀ row, ident row ≠ wanted → write row = row)
    (relabels : ∀ row, ident row = wanted → key (write row) = given.getD (key row))
    (new : ∀ row ∈ rows, ident row ≠ wanted → given ≠ some (key row)) :
    ((rows.map write).map key).Nodup := by
  refine nodup_map_write ident wanted idents keys others ?_
  intro row member target targetMember other same clash
  rw [relabels target same] at clash
  cases given with
  | none =>
    have targetRow := List.inj_on_of_nodup_map keys member targetMember clash
    exact other (targetRow ▸ same)
  | some value => exact new row member other (congrArg some clash.symm)

theorem nodup_append_new (unique : (rows.map key).Nodup)
    (new : ∀ other ∈ rows, key other ≠ key row) : ((rows ++ [row]).map key).Nodup := by
  rw [List.map_append, List.nodup_append]
  refine ⟨unique, by simp, ?_⟩
  intro value known other listed
  obtain ⟨source, member, rfl⟩ := List.mem_map.mp known
  rw [List.map_singleton, List.mem_singleton] at listed
  rw [listed]
  exact new source member

theorem exists_key_append (new : ρ) (known : ∃ row ∈ rows, key row = value) :
    ∃ row ∈ rows ++ [new], key row = value := by
  obtain ⟨source, member, same⟩ := known
  exact ⟨source, List.mem_append_left _ member, same⟩

theorem exists_key_map {write : ρ → ρ} (keeps : ∀ row, key (write row) = key row)
    (known : ∃ row ∈ rows, key row = value) : ∃ row ∈ rows.map write, key row = value := by
  obtain ⟨source, member, same⟩ := known
  exact ⟨write source, List.mem_map_of_mem member, (keeps source).trans same⟩

variable [BEq κ] [LawfulBEq κ]

theorem find?_key_none : rows.find? (key · == value) = none ↔ ∀ row ∈ rows, key row ≠ value := by
  simp [List.find?_eq_none]

theorem mem_of_find?_key (found : rows.find? (key · == value) = some row) :
    row ∈ rows ∧ key row = value :=
  ⟨List.mem_of_find?_eq_some found, by simpa using List.find?_some found⟩

/-- A row is found by its key where keys are unique. -/
theorem find?_key (unique : (rows.map key).Nodup) (member : row ∈ rows) (same : key row = value) :
    rows.find? (key · == value) = some row := by
  cases found : rows.find? (key · == value) with
  | none => exact absurd same (find?_key_none.mp found row member)
  | some other =>
    obtain ⟨otherMember, otherSame⟩ := mem_of_find?_key found
    rw [List.inj_on_of_nodup_map unique otherMember member (otherSame.trans same.symm)]

theorem any_key : rows.any (key · == value) = true ↔ ∃ row ∈ rows, key row = value := by
  simp

end Unique

namespace Schema

variable {store : Store}

/-- No two users have one key. -/
theorem user_eq {row other : UserRow} (schema : Schema store) (member : row ∈ store.users)
    (otherMember : other ∈ store.users) (same : row.id = other.id) : row = other :=
  List.inj_on_of_nodup_map schema.userIds member otherMember same

/-- No two users have one name. -/
theorem named_eq {row other : UserRow} (schema : Schema store) (member : row ∈ store.users)
    (otherMember : other ∈ store.users) (same : row.name = other.name) : row = other :=
  List.inj_on_of_nodup_map schema.userNames member otherMember same

/-- No two roles have one key. -/
theorem role_eq {row other : RoleRow} (schema : Schema store) (member : row ∈ store.roles)
    (otherMember : other ∈ store.roles) (same : row.id = other.id) : row = other :=
  List.inj_on_of_nodup_map schema.roleIds member otherMember same

/-- No two groups have one key. -/
theorem group_eq {row other : GroupRow} (schema : Schema store) (member : row ∈ store.groups)
    (otherMember : other ∈ store.groups) (same : row.id = other.id) : row = other :=
  List.inj_on_of_nodup_map schema.groupIds member otherMember same

end Schema

/-! ## Roles held -/

/-- The levels that a user holds; a role whose level is not known counts for nothing. -/
def levelsHeld (store : Store) (user : String) : List Role :=
  (store.heldRoles user).filterMap fun row => Role.ofName? row.level

def highestHeld (store : Store) (user : String) : Role :=
  Role.highest (store.levelsHeld user)

variable {store other : Store} {user : String}

theorem mem_heldRoles {row : RoleRow} :
    row ∈ store.heldRoles user ↔ row ∈ store.roles ∧ ⟨user, row.id⟩ ∈ store.userRoles := by
  simp only [heldRoles, List.mem_mergeSort, List.mem_filter, List.contains_eq_mem,
    decide_eq_true_eq, List.mem_map]
  constructor
  · rintro ⟨member, ⟨holder, role⟩, ⟨held, same⟩, rfl⟩
    obtain rfl := eq_of_beq same
    exact ⟨member, held⟩
  · rintro ⟨member, held⟩
    exact ⟨member, ⟨user, row.id⟩, ⟨held, by simp⟩, rfl⟩

/-- A user holds the levels that its roles name. -/
theorem mem_levelsHeld {level : Role} :
    level ∈ store.levelsHeld user ↔ ∃ row ∈ store.roles,
      ⟨user, row.id⟩ ∈ store.userRoles ∧ Role.ofName? row.level = some level := by
  simp [levelsHeld, mem_heldRoles, and_assoc]

/-- The roles that a user holds depend on the catalog and on which roles are noted for it. -/
theorem heldRoles_congr (roles : other.roles = store.roles)
    (held : ∀ role, ⟨user, role⟩ ∈ other.userRoles ↔ ⟨user, role⟩ ∈ store.userRoles) :
    other.heldRoles user = store.heldRoles user := by
  have same (role : RoleRow) :
      ((other.userRoles.filter (·.user == user)).map UserRole.role).contains role.id =
        ((store.userRoles.filter (·.user == user)).map UserRole.role).contains role.id := by
    have noted (rows : List UserRole) :
        ((rows.filter (·.user == user)).map UserRole.role).contains role.id = true ↔
          ⟨user, role.id⟩ ∈ rows := by
      simp only [List.contains_eq_mem, decide_eq_true_eq, List.mem_map, List.mem_filter]
      constructor
      · rintro ⟨⟨holder, held⟩, ⟨member, same⟩, rfl⟩
        obtain rfl := eq_of_beq same
        exact member
      · intro member
        exact ⟨_, ⟨member, by simp⟩, rfl⟩
    rw [Bool.eq_iff_iff, noted, noted]
    exact held role.id
  simp only [heldRoles, roles, same]

/-- The levels of a user depend on the roles and on those it holds alone. -/
theorem levelsHeld_congr (roles : other.roles = store.roles)
    (held : ∀ role, ⟨user, role⟩ ∈ other.userRoles ↔ ⟨user, role⟩ ∈ store.userRoles) :
    other.levelsHeld user = store.levelsHeld user := by
  rw [levelsHeld, levelsHeld, heldRoles_congr roles held]

theorem highestHeld_congr
    (same : ∀ level, level ∈ other.levelsHeld user ↔ level ∈ store.levelsHeld user) :
    other.highestHeld user = store.highestHeld user :=
  Role.highest_congr same

end RoleVault.Store
