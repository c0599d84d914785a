import RoleVault.Proofs.Identity
import RoleVault.Proofs.Store.Schema
import RoleVault.Store.Catalog
import RoleVault.Store.Users

/-!
Contract: which rows can be read, and what is read from them.

Owns:
- reading all rows of a list;
- `Reads` and `ReadsRole`, the record that a row of a user or of a role describes, and that reading
  gives it and nothing else;
- `Truthful`, grants that say of catalog roles what the catalog says, as those that are read do.

Does not own: which rows there are (`RoleVault.Proofs.Store.Users` and its neighbour).
-/

namespace RoleVault.Store

open RoleVault.Access (Grant)
open RoleVault.Time

/-! ## Lists -/

section Lists

variable {ε ρ α : Type} {read : ρ → Except ε α} {rows : List ρ} {values : List α}

private theorem map_of_mapM (reads : rows.mapM read = .ok values) :
    rows.map read = values.map .ok := by
  induction rows generalizing values with
  | nil =>
    cases reads
    rfl
  | cons row rest inductionHypothesis =>
    rw [List.mapM_cons] at reads
    cases head : read row with
    | error failure =>
      rw [head] at reads
      cases reads
    | ok value =>
      cases tail : rest.mapM read with
      | error failure =>
        rw [head, tail] at reads
        cases reads
      | ok others =>
        rw [head, tail] at reads
        cases reads
        simp [head, inductionHypothesis tail]

private theorem mapM_of_map (reads : rows.map read = values.map .ok) :
    rows.mapM read = .ok values := by
  induction rows generalizing values with
  | nil =>
    cases values with
    | nil => rfl
    | cons value others => cases reads
  | cons row rest inductionHypothesis =>
    cases values with
    | nil => cases reads
    | cons value others =>
      rw [List.map_cons, List.map_cons, List.cons.injEq] at reads
      rw [List.mapM_cons, reads.1, inductionHypothesis reads.2]
      rfl

theorem mapM_eq_ok_iff : rows.mapM read = .ok values ↔ rows.map read = values.map .ok :=
  ⟨map_of_mapM, mapM_of_map⟩

/-- A column of rows that were read, where it is a column of the values as well. -/
theorem column_of_map {κ : Type} {column : ρ → κ} {field : α → κ}
    (reads : rows.map read = values.map .ok)
    (same : ∀ row ∈ rows, ∀ value, read row = .ok value → column row = field value) :
    rows.map column = values.map field := by
  induction rows generalizing values with
  | nil =>
    cases values with
    | nil => rfl
    | cons value others => cases reads
  | cons row rest inductionHypothesis =>
    cases values with
    | nil => cases reads
    | cons value others =>
      rw [List.map_cons, List.map_cons, List.cons.injEq] at reads
      rw [List.map_cons, List.map_cons, same row List.mem_cons_self value reads.1,
        inductionHypothesis reads.2 fun row member => same row (List.mem_cons_of_mem _ member)]

/-- A list is read where each of its rows is. -/
theorem mapM_ok (readable : ∀ row ∈ rows, ∃ value, read row = .ok value) :
    ∃ values, rows.mapM read = .ok values := by
  induction rows with
  | nil => exact ⟨[], rfl⟩
  | cons row rest inductionHypothesis =>
    obtain ⟨value, head⟩ := readable row List.mem_cons_self
    obtain ⟨others, tail⟩ :=
      inductionHypothesis fun other member => readable other (List.mem_cons_of_mem row member)
    exact ⟨value :: others, by rw [List.mapM_cons, head, tail]; rfl⟩

end Lists

/-! ## Columns -/

private theorem readLevel_ok {text : String} {level : Role} :
    readLevel text = .ok level ↔ Role.ofName? text = some level := by
  unfold readLevel
  split <;> simp_all

private theorem readTime_ok {text : String} {instant : Instant} :
    readTime text = .ok instant ↔ Rfc3339.parse? text = some instant := by
  unfold readTime
  split <;> simp_all

private theorem readUserId_ok {text : String} {id : UserId} :
    readUserId text = .ok id ↔ UserId.ofText? text = some id := by
  unfold readUserId
  split <;> simp_all

/-! ## Grants -/

/-- Grants that say of roles what the catalog says. -/
def Truthful (store : Store) (grants : List Grant) : Prop :=
  ∀ grant ∈ grants, ∀ row ∈ store.roles, row.id = grant.id →
    Role.ofName? row.level = some grant.role

/-- The grants that the rows of roles describe. -/
def Describes (rows : List RoleRow) (grants : List Grant) : Prop :=
  rows.map (fun row => (row.id, Role.ofName? row.level)) =
    grants.map fun grant => (grant.id, some grant.role)

section Grants

variable {store : Store} {rows : List RoleRow} {row : RoleRow} {grants : List Grant} {grant : Grant}

/-- A row grants the level that it names. -/
theorem readGrant_ok : row.readGrant = .ok grant ↔
    row.id = grant.id ∧ Role.ofName? row.level = some grant.role := by
  obtain ⟨id, role⟩ := grant
  unfold RoleRow.readGrant
  rw [← readLevel_ok]
  cases readLevel row.level with
  | error failure => simp [bind, Except.bind]
  | ok level => simp [bind, Except.bind, pure, Except.pure]

private theorem readGrants_ok :
    rows.mapM RoleRow.readGrant = .ok grants ↔ Describes rows grants := by
  rw [mapM_eq_ok_iff, Describes]
  induction rows generalizing grants with
  | nil => cases grants <;> simp
  | cons row rest inductionHypothesis =>
    cases grants with
    | nil => simp
    | cons grant others => simp [inductionHypothesis, readGrant_ok]

theorem Describes.mem (describes : Describes rows grants) (member : grant ∈ grants) :
    ∃ row ∈ rows, row.id = grant.id ∧ Role.ofName? row.level = some grant.role := by
  have listed := List.mem_map_of_mem (f := fun grant : Grant => (grant.id, some grant.role)) member
  rw [← describes] at listed
  obtain ⟨row, rowMember, same⟩ := List.mem_map.mp listed
  exact ⟨row, rowMember, (Prod.mk.inj same).1, (Prod.mk.inj same).2⟩

/-- Grants that rows describe have their levels. -/
theorem Describes.levels (describes : Describes rows grants) :
    rows.filterMap (fun row => Role.ofName? row.level) = grants.map Grant.role := by
  have levels := congrArg (List.filterMap Prod.snd) describes
  simpa [List.filterMap_map, Function.comp_def] using levels

/-- What is read of catalog rows says what the catalog says. -/
theorem Describes.truthful (describes : Describes rows grants) (schema : Schema store)
    (included : ∀ row ∈ rows, row ∈ store.roles) : Truthful store grants := by
  intro grant member row rowMember same
  obtain ⟨source, sourceMember, sourceSame, level⟩ := describes.mem member
  rw [schema.role_eq rowMember (included source sourceMember) (same.trans sourceSame.symm)]
  exact level

end Grants

/-! ## Catalog -/

structure ReadsRole (row : RoleRow) (role : CatalogRole) : Prop where
  id : role.id = row.id
  level : Role.ofName? row.level = some role.role
  createdAt : Rfc3339.parse? row.createdAt = some role.createdAt
  updatedAt : Rfc3339.parse? row.updatedAt = some role.updatedAt
  name : role.name = row.name
  note : role.note = row.note
  builtin : role.builtin = row.builtin

theorem readRole_eq_ok_iff {row : RoleRow} {role : CatalogRole} :
    row.read = .ok role ↔ ReadsRole row role := by
  unfold RoleRow.read
  constructor
  · intro reads
    cases level : readLevel row.level with
    | error failure =>
      rw [level] at reads
      cases reads
    | ok level' =>
      cases created : readTime row.createdAt with
      | error failure =>
        rw [level, created] at reads
        cases reads
      | ok createdAt =>
        cases updated : readTime row.updatedAt with
        | error failure =>
          rw [level, created, updated] at reads
          cases reads
        | ok updatedAt =>
          rw [level, created, updated] at reads
          cases reads
          exact ⟨rfl, readLevel_ok.mp level, readTime_ok.mp created, readTime_ok.mp updated, rfl,
            rfl, rfl⟩
  · rintro ⟨id, level, created, updated, name, note, builtin⟩
    rw [readLevel_ok.mpr level, readTime_ok.mpr created, readTime_ok.mpr updated]
    cases role
    simp_all [bind, Except.bind, pure, Except.pure]

/-- A row of a group is read where its times are. -/
theorem readGroup_ok_iff {store : Store} {row : GroupRow} :
    (∃ group, row.read store = .ok group) ↔
      (∃ instant, Rfc3339.parse? row.createdAt = some instant) ∧
        ∃ instant, Rfc3339.parse? row.updatedAt = some instant := by
  simp only [← readTime_ok]
  unfold GroupRow.read
  cases readTime row.createdAt <;> cases readTime row.updatedAt <;>
    simp [bind, Except.bind, pure, Except.pure]

theorem readGroup_label {store : Store} {row : GroupRow} {group : CatalogGroup}
    (reads : row.read store = .ok group) :
    group.id = row.id ∧ group.name = row.name ∧ group.builtin = row.builtin := by
  unfold GroupRow.read at reads
  cases created : readTime row.createdAt with
  | error failure =>
    rw [created] at reads
    cases reads
  | ok createdAt =>
    cases updated : readTime row.updatedAt with
    | error failure =>
      rw [created, updated] at reads
      cases reads
    | ok updatedAt =>
      rw [created, updated] at reads
      cases reads
      exact ⟨rfl, rfl, rfl⟩

/-! ## Users -/

/-- Whether a record is what a row describes. -/
structure Reads (store : Store) (row : UserRow) (user : UserRecord) : Prop where
  grants : Describes (store.heldRoles row.id) user.grants
  id : UserId.ofText? row.id = some user.id
  createdAt : Rfc3339.parse? row.createdAt = some user.createdAt
  updatedAt : Rfc3339.parse? row.updatedAt = some user.updatedAt
  name : user.name = row.name
  stored : user.stored = row.stored
  displayName : user.displayName = row.displayName
  email : user.email = row.email
  phone : user.phone = row.phone
  group : user.group = row.group

section Users

variable {store : Store} {row : UserRow} {user : UserRecord}

/-- A row reads as a user exactly where it describes one. -/
theorem read_eq_ok_iff : row.read store = .ok user ↔ Reads store row user := by
  unfold UserRow.read
  constructor
  · intro reads
    cases grants : (store.heldRoles row.id).mapM RoleRow.readGrant with
    | error failure =>
      rw [grants] at reads
      cases reads
    | ok grants' =>
      cases id : readUserId row.id with
      | error failure =>
        rw [grants, id] at reads
        cases reads
      | ok id' =>
        cases created : readTime row.createdAt with
        | error failure =>
          rw [grants, id, created] at reads
          cases reads
        | ok createdAt =>
          cases updated : readTime row.updatedAt with
          | error failure =>
            rw [grants, id, created, updated] at reads
            cases reads
          | ok updatedAt =>
            rw [grants, id, created, updated] at reads
            cases reads
            exact ⟨readGrants_ok.mp grants, readUserId_ok.mp id, readTime_ok.mp created,
              readTime_ok.mp updated, rfl, rfl, rfl, rfl, rfl, rfl⟩
  · rintro ⟨grants, id, created, updated, name, stored, displayName, email, phone, group⟩
    rw [readGrants_ok.mpr grants, readUserId_ok.mpr id, readTime_ok.mpr created,
      readTime_ok.mpr updated]
    cases user
    simp_all [bind, Except.bind, pure, Except.pure]

/-- The levels of a record are those that the user holds. -/
theorem Reads.roles (reads : Reads store row user) : user.roles = store.levelsHeld row.id :=
  reads.grants.levels.symm

/-- A record that was read tells the truth about its roles. -/
theorem Reads.truthful (reads : Reads store row user) (schema : Schema store) :
    Truthful store user.grants :=
  reads.grants.truthful schema fun _ member => (mem_heldRoles.mp member).1

/-- A row is read where its key, its times and the levels of the roles it holds are. -/
theorem reads_of_readable {id : UserId} {createdAt updatedAt : Instant}
    (levels : ∀ role ∈ store.roles, ∃ level, Role.ofName? role.level = some level)
    (key : UserId.ofText? row.id = some id)
    (created : Rfc3339.parse? row.createdAt = some createdAt)
    (updated : Rfc3339.parse? row.updatedAt = some updatedAt) :
    ∃ user, Reads store row user ∧ user.id = id := by
  obtain ⟨grants, reads⟩ : ∃ grants,
    (store.heldRoles row.id).mapM RoleRow.readGrant = .ok grants := by
    refine mapM_ok fun role member => ?_
    obtain ⟨level, named⟩ := levels role (mem_heldRoles.mp member).1
    exact ⟨⟨role.id, level⟩, readGrant_ok.mpr ⟨rfl, named⟩⟩
  exact ⟨⟨id, row.name, row.stored, row.displayName, row.email, row.phone, row.group, grants,
    createdAt, updatedAt⟩, ⟨readGrants_ok.mp reads, key, created, updated, rfl, rfl, rfl, rfl, rfl,
      rfl⟩, rfl⟩

end Users

end RoleVault.Store
