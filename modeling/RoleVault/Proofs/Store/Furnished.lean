import RoleVault.Proofs.Store.Levels

/-!
Contract: the builtin roles and groups are always there, and no key is ever given out twice.

Owns:
- `Entry`, what a row of the catalog is known by, and `Stocked`, a table whose builtin entries are all
  there and whose other entries came later;
- `Furnished`, a catalog of two such tables, and that the statements on roles and groups keep it so
  where they leave what is builtin alone;
- `Continues`, that a role still has its level wherever its key is met again.

Does not own: that builtin entries are left alone (`RoleVault.Proofs.Accounts.Integrity`).
-/

namespace RoleVault.Store

variable {before after : Store} {now : Time.Instant}

/-! ## Tables with builtin entries -/

/-- What a role or a group of the catalog is known by. -/
structure Entry where
  id : Int64
  name : String
  builtin : Bool
deriving DecidableEq, Repr

def RoleRow.entry (row : RoleRow) : Entry := ⟨row.id, row.name, row.builtin⟩

def GroupRow.entry (row : GroupRow) : Entry := ⟨row.id, row.name, row.builtin⟩

namespace Seeds

def roleEntries : List Entry :=
  Role.all.map fun level => ⟨level.builtinId, level.name, true⟩

def groupEntries : List Entry :=
  [⟨defaultGroup, "default", true⟩, ⟨operatorGroup, "op_service", true⟩]

end Seeds

/-- The highest key of a builtin entry. -/
def lastBuiltin : Int64 := 999

def Entry.IsCustom (entry : Entry) : Prop :=
  entry.builtin = false ∧ lastBuiltin < entry.id

/-- A table that holds its builtin entries and beside them only such as were added later, and whose
counter has reached all keys. -/
structure Stocked (builtin : List Entry) (last : Int64) (entries : List Entry) : Prop where
  present : ∀ entry ∈ builtin, entry ∈ entries
  others : ∀ entry ∈ entries, entry ∈ builtin ∨ entry.IsCustom
  counted : lastBuiltin ≤ last
  reached : ∀ entry ∈ entries, entry.id ≤ last

namespace Stocked

variable {builtin entries : List Entry} {last : Int64} {entry : Entry}

/-- An entry under the next key is one that was added. -/
theorem append (stocked : Stocked builtin last entries) {id : Int64} (name : String)
    (newer : last < id) : Stocked builtin id (entries ++ [⟨id, name, false⟩]) := by
  have above : lastBuiltin < id := Int64.lt_of_le_of_lt stocked.counted newer
  constructor
  · intro entry listed
    exact List.mem_append_left _ (stocked.present entry listed)
  · intro entry member
    rcases List.mem_append.mp member with member | added
    · exact stocked.others entry member
    · rw [List.mem_singleton.mp added]
      exact .inr ⟨rfl, above⟩
  · exact Int64.le_of_lt above
  · intro entry member
    rcases List.mem_append.mp member with member | added
    · exact Int64.le_of_lt (Int64.lt_of_le_of_lt (stocked.reached entry member) newer)
    · rw [List.mem_singleton.mp added]
      exact Int64.le_refl id

/-- Entries may get other names where those of the builtin ones stay. -/
theorem map (stocked : Stocked builtin last entries) {write : Entry → Entry}
    (marked : ∀ entry ∈ builtin, entry.builtin = true)
    (keeps : ∀ entry ∈ entries, entry.builtin = true → write entry = entry)
    (ids : ∀ entry, (write entry).id = entry.id)
    (marks : ∀ entry, (write entry).builtin = entry.builtin) :
    Stocked builtin last (entries.map write) := by
  constructor
  · intro entry listed
    have member := stocked.present entry listed
    rw [← keeps entry member (marked entry listed)]
    exact List.mem_map_of_mem member
  · intro entry member
    obtain ⟨source, sourceMember, rfl⟩ := List.mem_map.mp member
    rcases stocked.others source sourceMember with listed | ⟨custom, above⟩
    · rw [keeps source sourceMember (marked source listed)]
      exact .inl listed
    · exact .inr ⟨(marks source).trans custom, by rw [ids]; exact above⟩
  · exact stocked.counted
  · intro entry member
    obtain ⟨source, sourceMember, rfl⟩ := List.mem_map.mp member
    rw [ids]
    exact stocked.reached source sourceMember

/-- An entry may go where it is not builtin. -/
theorem without (stocked : Stocked builtin last entries) {id : Int64}
    (marked : ∀ entry ∈ builtin, entry.builtin = true)
    (custom : ∀ entry ∈ entries, entry.id = id → entry.builtin = false) :
    Stocked builtin last (entries.filter (·.id != id)) where
  present := by
    intro entry listed
    have member := stocked.present entry listed
    have other : entry.id ≠ id := by
      intro same
      have isCustom := custom entry member same
      rw [marked entry listed] at isCustom
      cases isCustom
    exact List.mem_filter.mpr ⟨member, bne_iff_ne.mpr other⟩
  others entry member := stocked.others entry (List.mem_of_mem_filter member)
  counted := stocked.counted
  reached entry member := stocked.reached entry (List.mem_of_mem_filter member)

end Stocked

private theorem builtin_roleEntries : ∀ entry ∈ Seeds.roleEntries, entry.builtin = true := by
  decide

private theorem builtin_groupEntries : ∀ entry ∈ Seeds.groupEntries, entry.builtin = true := by
  decide

/-! ## The catalog -/

/-- A catalog with all that is builtin. -/
structure Furnished (store : Store) : Prop where
  roles : Stocked Seeds.roleEntries store.lastRole (store.roles.map RoleRow.entry)
  groups : Stocked Seeds.groupEntries store.lastGroup (store.groups.map GroupRow.entry)

private theorem stocked_self {builtin : List Entry}
    (below : ∀ entry ∈ builtin, entry.id ≤ lastBuiltin) :
    Stocked builtin lastBuiltin builtin :=
  ⟨fun _ => id, fun _ => .inl, Int64.le_refl _, below⟩

/-- A new installation has all that is builtin. -/
theorem furnished_freshTables (stamp : String) : Furnished (freshTables stamp) :=
  ⟨stocked_self (by decide), stocked_self (by decide)⟩

/-- Gives the entry with a key another name. -/
def Entry.renamed (id : Int64) (name : Option String) (entry : Entry) : Entry :=
  if entry.id == id then { entry with name := name.getD entry.name } else entry

/-- Builtin entries keep their names where the one with a key does. -/
theorem Stocked.renamed {builtin entries : List Entry} {last : Int64} {id : Int64}
    {name : Option String} (stocked : Stocked builtin last entries)
    (marked : ∀ entry ∈ builtin, entry.builtin = true)
    (keeps : ∀ entry ∈ entries, entry.id = id → entry.builtin = true →
      name.getD entry.name = entry.name) :
    Stocked builtin last (entries.map (Entry.renamed id name)) := by
  apply stocked.map marked
  · intro entry member isBuiltin
    by_cases same : entry.id = id
    · rw [Entry.renamed, if_pos (beq_iff_eq.mpr same), keeps entry member same isBuiltin]
    · simp [Entry.renamed, same]
  · intro entry
    unfold Entry.renamed
    split <;> rfl
  · intro entry
    unfold Entry.renamed
    split <;> rfl

namespace Furnished

theorem same (furnished : Furnished before) (catalog : SameCatalog before after) :
    Furnished after := by
  constructor
  · rw [catalog.roles, catalog.lastRole]
    exact furnished.roles
  · rw [catalog.groups, catalog.lastGroup]
    exact furnished.groups

theorem roleAdded {id : RoleId} {role : NewRole} (furnished : Furnished before)
    (added : RoleAdded id role now before after) : Furnished after := by
  obtain ⟨newer, _, _, rfl⟩ := added
  refine ⟨?_, furnished.groups⟩
  simpa [newRoleRow, RoleRow.entry] using furnished.roles.append role.name newer

theorem groupAdded {id : GroupId} {name note : String} (furnished : Furnished before)
    (added : GroupAdded id name note now before after) : Furnished after := by
  obtain ⟨newer, _, _, rfl⟩ := added
  refine ⟨furnished.roles, ?_⟩
  simpa [newGroupRow, GroupRow.entry] using furnished.groups.append name newer

theorem listed {id : GroupId} {roles : List RoleId} (furnished : Furnished before)
    (lists : ListsExactly id roles before after) : Furnished after := by
  rw [lists.same]
  exact ⟨furnished.roles, furnished.groups⟩

/-- A builtin role that keeps its name may get another note. -/
theorem roleRelabeled {id : RoleId} {name note : Option String} (furnished : Furnished before)
    (keeps : ∀ row ∈ before.roles, row.id = id → row.builtin = true →
      name.getD row.name = row.name) :
    Furnished { before with roles := before.roles.map (relabeledRole id name note now) } := by
  have entries : (before.roles.map (relabeledRole id name note now)).map RoleRow.entry =
      (before.roles.map RoleRow.entry).map (Entry.renamed id name) := by
    rw [List.map_map, List.map_map]
    apply List.map_congr_left
    intro row _
    by_cases same : row.id = id <;> simp [RoleRow.entry, relabeledRole, Entry.renamed, same]
  refine ⟨?_, furnished.groups⟩
  show Stocked _ _ (List.map RoleRow.entry (List.map _ _))
  rw [entries]
  exact furnished.roles.renamed builtin_roleEntries (List.forall_mem_map.mpr keeps)

theorem groupRelabeled {id : GroupId} {name note : Option String} (furnished : Furnished before)
    (relabeled : Relabeled id name note now before after)
    (keeps : ∀ row ∈ before.groups, row.id = id → row.builtin = true →
      name.getD row.name = row.name) : Furnished after := by
  have entries : (before.groups.map (relabeledGroup id name note now)).map GroupRow.entry =
      (before.groups.map GroupRow.entry).map (Entry.renamed id name) := by
    rw [List.map_map, List.map_map]
    apply List.map_congr_left
    intro row _
    by_cases same : row.id = id <;> simp [GroupRow.entry, relabeledGroup, Entry.renamed, same]
  rw [relabeled.same]
  refine ⟨furnished.roles, ?_⟩
  show Stocked _ _ (List.map GroupRow.entry (List.map _ _))
  rw [entries]
  exact furnished.groups.renamed builtin_groupEntries (List.forall_mem_map.mpr keeps)

/-- A role that is not builtin may go. -/
theorem roleDeleted {id : RoleId} (furnished : Furnished before)
    (custom : ∀ row ∈ before.roles, row.id = id → row.builtin = false) :
    Furnished { before with roles := before.roles.filter (·.id != id) } := by
  have entries : (before.roles.filter (·.id != id)).map RoleRow.entry =
      (before.roles.map RoleRow.entry).filter (·.id != id) := by
    rw [List.filter_map]
    rfl
  refine ⟨?_, furnished.groups⟩
  show Stocked _ _ (List.map RoleRow.entry (List.filter _ _))
  rw [entries]
  exact furnished.roles.without builtin_roleEntries (List.forall_mem_map.mpr custom)

theorem groupDeleted {id : GroupId} (furnished : Furnished before)
    (custom : ∀ row ∈ before.groups, row.id = id → row.builtin = false) :
    Furnished { before with
      groups := before.groups.filter (·.id != id)
      groupRoles := before.groupRoles.filter (·.group != id) } := by
  have entries : (before.groups.filter (·.id != id)).map GroupRow.entry =
      (before.groups.map GroupRow.entry).filter (·.id != id) := by
    rw [List.filter_map]
    rfl
  refine ⟨furnished.roles, ?_⟩
  show Stocked _ _ (List.map GroupRow.entry (List.filter _ _))
  rw [entries]
  exact furnished.groups.without builtin_groupEntries (List.forall_mem_map.mpr custom)

end Furnished

/-! ## Levels of keys -/

/-- The roles later on: a role whose key had been given out before was there with the same level. -/
structure Continues (before after : Store) : Prop where
  counted : before.lastRole ≤ after.lastRole
  levels : ∀ row ∈ after.roles, before.lastRole < row.id ∨
    ∃ source ∈ before.roles, source.id = row.id ∧ source.level = row.level

namespace Continues

theorem of_same (roles : after.roles = before.roles) (lastRole : after.lastRole = before.lastRole) :
    Continues before after := by
  refine ⟨by rw [lastRole]; exact Int64.le_refl _, ?_⟩
  rw [roles]
  intro row member
  exact .inr ⟨row, member, rfl, rfl⟩

theorem refl (store : Store) : Continues store store :=
  of_same rfl rfl

/-- Levels stay with their keys over two changes if they do over each. -/
theorem trans {last : Store} (first : Continues before after) (second : Continues after last) :
    Continues before last := by
  refine ⟨Int64.le_trans first.counted second.counted, ?_⟩
  intro row member
  rcases second.levels row member with newer | ⟨source, sourceMember, same, level⟩
  · exact .inl (Int64.lt_of_le_of_lt first.counted newer)
  · rw [← same, ← level]
    exact first.levels source sourceMember

theorem roleAdded {id : RoleId} {role : NewRole} (added : RoleAdded id role now before after) :
    Continues before after := by
  obtain ⟨newer, _, _, rfl⟩ := added
  refine ⟨Int64.le_of_lt newer, ?_⟩
  intro row member
  rcases List.mem_append.mp member with member | listed
  · exact .inr ⟨row, member, rfl, rfl⟩
  · rw [List.mem_singleton.mp listed]
    exact .inl newer

theorem roleRelabeled (id : RoleId) (name note : Option String) :
    Continues before
      { before with roles := before.roles.map (relabeledRole id name note now) } := by
  refine ⟨Int64.le_refl _, ?_⟩
  intro row member
  obtain ⟨source, sourceMember, rfl⟩ := List.mem_map.mp member
  exact .inr ⟨source, sourceMember, by simp, by simp⟩

theorem roleDeleted (id : RoleId) :
    Continues before { before with roles := before.roles.filter (·.id != id) } := by
  refine ⟨Int64.le_refl _, ?_⟩
  intro row member
  exact .inr ⟨row, List.mem_of_mem_filter member, rfl, rfl⟩

/-- A role that is met again under its key has the level that it had. -/
theorem level_eq (continues : Continues before after) (schema : Schema before)
    (furnished : Furnished before) {row other : RoleRow} (member : row ∈ before.roles)
    (otherMember : other ∈ after.roles) (same : other.id = row.id) : other.level = row.level := by
  have reached : row.id ≤ before.lastRole :=
    furnished.roles.reached row.entry (List.mem_map_of_mem member)
  rcases continues.levels other otherMember with newer | ⟨source, sourceMember, sourceSame, level⟩
  · rw [same] at newer
    exact absurd reached (Int64.not_le.mpr newer)
  · rw [← level, schema.role_eq member sourceMember (same.symm.trans sourceSame.symm)]

end Continues

end RoleVault.Store
