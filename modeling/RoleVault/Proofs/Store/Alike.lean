import Mathlib.Data.List.Perm.Basic
import Mathlib.Data.Option.Basic
import RoleVault.Proofs.Store.Admission

/-!
Contract: tables that differ in times, in the order of pairs, and in nothing else.

Owns:
- `SameButTimes`, and `renamed`, the tables in which a user has another key;
- that adding or changing a user or a group with the same roles, in whatever order and however often
  each is named, leaves such tables.

Does not own: that both changes are made or neither (`RoleVault.Proofs.Accounts.Reordering`).
-/

namespace RoleVault.Store

open RoleVault.Access (Grant)
open RoleVault.Time

variable {before left right : Store} {leftNow rightNow : Instant}

/-! ## Rows without times -/

/-- The row without its times. -/
def UserRow.timeless (row : UserRow) : UserRow :=
  { row with createdAt := "", updatedAt := "" }

/-- The row without its times. -/
def GroupRow.timeless (row : GroupRow) : GroupRow :=
  { row with createdAt := "", updatedAt := "" }

/-- Tables with the same roles, groups and users, up to the times of groups and users, in which the
same users hold and the same groups list the same roles. -/
structure SameButTimes (left right : Store) : Prop where
  groups : left.groups.map GroupRow.timeless = right.groups.map GroupRow.timeless
  roles : left.roles = right.roles
  groupRoles : left.groupRoles.Perm right.groupRoles
  users : left.users.map UserRow.timeless = right.users.map UserRow.timeless
  userRoles : left.userRoles.Perm right.userRoles
  lastGroup : left.lastGroup = right.lastGroup
  lastRole : left.lastRole = right.lastRole

theorem SameButTimes.refl (store : Store) : SameButTimes store store :=
  ⟨rfl, rfl, .refl _, rfl, .refl _, rfl, rfl⟩

/-- Tables with the same catalog. -/
theorem SameButTimes.of_catalog (leftSame : SameCatalog before left)
    (rightSame : SameCatalog before right)
    (users : left.users.map UserRow.timeless = right.users.map UserRow.timeless)
    (userRoles : left.userRoles.Perm right.userRoles) : SameButTimes left right where
  groups := by rw [leftSame.groups, rightSame.groups]
  roles := leftSame.roles.trans rightSame.roles.symm
  groupRoles := by rw [leftSame.groupRoles, rightSame.groupRoles]
  users := users
  userRoles := userRoles
  lastGroup := leftSame.lastGroup.trans rightSame.lastGroup.symm
  lastRole := leftSame.lastRole.trans rightSame.lastRole.symm

/-! ## Another key -/

/-- The key that takes the place of a key, where it is one to be replaced. -/
def renamedKey (one other key : String) : String :=
  if key = one then other else key

def renamed (store : Store) (one other : String) : Store :=
  { store with
    users := store.users.map fun row => { row with id := renamedKey one other row.id }
    userRoles := store.userRoles.map fun held => { held with user := renamedKey one other held.user } }

private theorem renamedKey_of_ne {one other key : String} (different : key ≠ one) :
    renamedKey one other key = key :=
  if_neg different

private theorem renamed_catalog (store : Store) (one other : String) :
    SameCatalog store (store.renamed one other) :=
  ⟨rfl, rfl, rfl, rfl, rfl⟩

/-- A key that no one has makes no difference when it is renamed. -/
theorem renamed_of_unused {one : String} (other : String) (schema : Schema before)
    (unused : ∀ row ∈ before.users, row.id ≠ one) : before.renamed one other = before := by
  have users : before.users.map (fun row => { row with id := renamedKey one other row.id }) =
      before.users := by
    refine (List.map_congr_left fun row member => ?_).trans (List.map_id _)
    rw [renamedKey_of_ne (unused row member)]
    rfl
  have userRoles :
      before.userRoles.map (fun held => { held with user := renamedKey one other held.user }) =
        before.userRoles := by
    refine (List.map_congr_left fun held member => ?_).trans (List.map_id _)
    obtain ⟨row, rowMember, same⟩ := schema.heldUser held member
    rw [renamedKey_of_ne (same ▸ unused row rowMember)]
    rfl
  rw [renamed, users, userRoles]

/-! ## Users -/

/-- Roles that one user holds, and no one else, in either of two tables. -/
theorem HoldsExactly.perm {user : String} {leftRoles rightRoles : List RoleId}
    (once : before.userRoles.Nodup) (leftHolds : HoldsExactly user leftRoles before left)
    (rightHolds : HoldsExactly user rightRoles before right)
    (same : SameRoles leftRoles rightRoles) :
    left.userRoles.Perm right.userRoles := by
  refine (List.perm_ext_iff_of_nodup (leftHolds.once once) (rightHolds.once once)).mpr ?_
  rintro ⟨holder, role⟩
  rw [leftHolds.held, rightHolds.held, same]

section Added

variable {one other : NewUser} (schema : Schema before) (leftAdded : Added one leftNow before left)

include schema leftAdded

private theorem Added.renamed_users (other : UserId) : (left.renamed one.id.text other.text).users =
    before.users ++ [{ Users.newRow one leftNow with id := other.text }] := by
  have kept := congrArg Store.users (renamed_of_unused other.text schema leftAdded.newId)
  simp only [renamed] at kept ⊢
  rw [leftAdded.users, List.map_append, kept]
  simp [renamedKey, Users.newRow]

variable (rightAdded : Added other rightNow before right)

include rightAdded

/-- Neither user held anything before. -/
theorem Added.holder_ne {held : UserRole} (member : held ∈ before.userRoles) :
    held.user ≠ one.id.text ∧ held.user ≠ other.id.text := by
  obtain ⟨row, rowMember, same⟩ := schema.heldUser held member
  rw [← same]
  exact ⟨leftAdded.newId row rowMember, rightAdded.newId row rowMember⟩

private theorem Added.mem_renamed {holder : String} {role : RoleId} :
    ⟨holder, role⟩ ∈ (left.renamed one.id.text other.id.text).userRoles ↔
      if holder = other.id.text then role ∈ one.roles else ⟨holder, role⟩ ∈ before.userRoles := by
  simp only [renamed, List.mem_map]
  constructor
  · rintro ⟨⟨source, listed⟩, member, same⟩
    obtain ⟨rfl, rfl⟩ := UserRole.mk.inj same
    rw [leftAdded.holds.held] at member
    by_cases new : source = one.id.text
    · rw [if_pos new] at member
      rwa [new, renamedKey, if_pos rfl, if_pos rfl]
    · rw [if_neg new] at member
      rw [renamedKey_of_ne new, if_neg (leftAdded.holder_ne schema rightAdded member).2]
      exact member
  · intro holds
    split at holds
    · rename_i new
      refine ⟨⟨one.id.text, role⟩, ?_, by rw [new, renamedKey, if_pos rfl]⟩
      rw [leftAdded.holds.held, if_pos rfl]
      exact holds
    · have old := (leftAdded.holder_ne schema rightAdded holds).1
      refine ⟨⟨holder, role⟩, ?_, by rw [renamedKey_of_ne old]⟩
      rw [leftAdded.holds.held, if_neg old]
      exact holds

private theorem Added.nodup_renamed :
    (left.renamed one.id.text other.id.text).userRoles.Nodup := by
  have known {held : UserRole} (member : held ∈ left.userRoles) (old : held.user ≠ one.id.text) :
      held.user ≠ other.id.text := by
    obtain ⟨holder, role⟩ := held
    rw [leftAdded.holds.held, if_neg old] at member
    exact (leftAdded.holder_ne schema rightAdded member).2
  refine (leftAdded.holds.once schema.heldOnce).map_on ?_
  rintro ⟨holder, role⟩ member ⟨second, listed⟩ secondMember same
  obtain ⟨keys, rfl⟩ := UserRole.mk.inj same
  by_cases new : holder = one.id.text
  · by_cases secondNew : second = one.id.text
    · rw [new, secondNew]
    · rw [new, renamedKey, if_pos rfl, renamedKey_of_ne secondNew] at keys
      exact absurd keys.symm (known secondMember secondNew)
  · rw [renamedKey_of_ne new] at keys
    by_cases secondNew : second = one.id.text
    · rw [secondNew, renamedKey, if_pos rfl] at keys
      exact absurd keys (known member new)
    · rw [keys, renamedKey_of_ne secondNew]

/-- Two additions of a user that differ in its key, in the time and in the order of the roles. -/
theorem Added.sameButTimes (fields : other = { one with id := other.id, roles := other.roles })
    (same : SameRoles one.roles other.roles) :
    SameButTimes (left.renamed one.id.text other.id.text) right := by
  refine .of_catalog (leftAdded.catalog.trans (renamed_catalog left _ _)) rightAdded.catalog ?_ ?_
  · rw [leftAdded.renamed_users schema, rightAdded.users, List.map_append, List.map_append]
    congr 1
    rw [fields]
    rfl
  · refine (List.perm_ext_iff_of_nodup (leftAdded.nodup_renamed schema rightAdded)
      (rightAdded.holds.once schema.heldOnce)).mpr ?_
    rintro ⟨holder, role⟩
    rw [leftAdded.mem_renamed schema rightAdded, rightAdded.holds.held, same]

end Added

/-- Two changes of a user to records that differ in the order of the grants, if at all. -/
theorem Saved.sameButTimes {one other : UserRecord} {stored : Option String}
    (once : before.userRoles.Nodup) (leftSaved : Saved one stored leftNow before left)
    (rightSaved : Saved other stored rightNow before right)
    (fields : other = { one with grants := other.grants })
    (same : SameRoles (one.grants.map Grant.id) (other.grants.map Grant.id)) :
    SameButTimes left right := by
  have key : other.id = one.id := by rw [fields]
  have rightHolds := rightSaved.holds
  rw [key] at rightHolds
  refine .of_catalog leftSaved.catalog rightSaved.catalog ?_
    (leftSaved.holds.perm once rightHolds same)
  rw [leftSaved.users, rightSaved.users, key, Users.modifyRow, Users.modifyRow, List.map_map,
    List.map_map]
  refine List.map_congr_left fun row _ => ?_
  by_cases written : row.id = one.id.text
  · simp only [Function.comp_apply, written, beq_self_eq_true, if_true]
    rw [fields]
    rfl
  · simp [written]

/-! ## Groups -/

/-- Lists that one group gets, and no other, in either of two tables. -/
theorem ListsExactly.perm {group : GroupId} {leftRoles rightRoles : List RoleId}
    {leftBetween rightBetween : Store} (once : leftBetween.groupRoles.Nodup)
    (alike : leftBetween.groupRoles = rightBetween.groupRoles)
    (leftLists : ListsExactly group leftRoles leftBetween left)
    (rightLists : ListsExactly group rightRoles rightBetween right)
    (same : SameRoles leftRoles rightRoles) :
    left.groupRoles.Perm right.groupRoles := by
  refine (List.perm_ext_iff_of_nodup (leftLists.once once) (rightLists.once (alike ▸ once))).mpr ?_
  rintro ⟨owner, role⟩
  rw [leftLists.listed, rightLists.listed, alike, same]

/-- Two tables with groups alike, in which the same group gets the same list. -/
theorem ListsExactly.sameButTimes {group : GroupId} {leftRoles rightRoles : List RoleId}
    {leftBetween rightBetween : Store} (once : leftBetween.groupRoles.Nodup)
    (alike : SameButTimes leftBetween rightBetween)
    (pairs : leftBetween.groupRoles = rightBetween.groupRoles)
    (leftLists : ListsExactly group leftRoles leftBetween left)
    (rightLists : ListsExactly group rightRoles rightBetween right)
    (same : SameRoles leftRoles rightRoles) : SameButTimes left right := by
  have perm := leftLists.perm once pairs rightLists same
  rw [leftLists.same, rightLists.same]
  exact { alike with groupRoles := perm }

/-- Two tables with groups alike, in which the same group gets the same list or keeps its own. -/
theorem Relists.sameButTimes {group : GroupId} {leftRoles rightRoles : Option (List RoleId)}
    {leftBetween rightBetween : Store} (once : leftBetween.groupRoles.Nodup)
    (alike : SameButTimes leftBetween rightBetween)
    (pairs : leftBetween.groupRoles = rightBetween.groupRoles)
    (leftRelists : Relists group leftRoles leftBetween left)
    (rightRelists : Relists group rightRoles rightBetween right)
    (same : Option.Rel SameRoles leftRoles rightRoles) : SameButTimes left right := by
  cases same with
  | none =>
    cases leftRelists
    cases rightRelists
    exact alike
  | some same =>
    cases leftRelists with
    | replaced leftLists =>
      cases rightRelists with
      | replaced rightLists => exact leftLists.sameButTimes once alike pairs rightLists same

/-- Two additions of a group under the same key. -/
theorem GroupAdded.sameButTimes {id : GroupId} {name note : String}
    (leftAdded : GroupAdded id name note leftNow before left)
    (rightAdded : GroupAdded id name note rightNow before right) : SameButTimes left right := by
  rw [leftAdded.same, rightAdded.same]
  refine { SameButTimes.refl before with groups := ?_, lastGroup := rfl }
  simp [newGroupRow, GroupRow.timeless]

/-- Two changes of the name or the note of a group. -/
theorem Relabeled.sameButTimes {id : GroupId} {name note : Option String}
    (leftRelabeled : Relabeled id name note leftNow before left)
    (rightRelabeled : Relabeled id name note rightNow before right) : SameButTimes left right := by
  rw [leftRelabeled.same, rightRelabeled.same]
  refine { SameButTimes.refl before with groups := ?_ }
  rw [List.map_map, List.map_map]
  refine List.map_congr_left fun row _ => ?_
  by_cases written : row.id = id <;> simp [relabeledGroup, written, GroupRow.timeless]

end RoleVault.Store
