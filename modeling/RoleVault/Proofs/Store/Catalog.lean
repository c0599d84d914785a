import RoleVault.Proofs.Store.Users

/-!
Contract: what the statements on roles and groups leave in the tables.

Owns:
- `nextKey_ok`: a new key lies above all that are or ever were in use;
- the tables after each statement on roles and on groups;
- that all of these keep the rules of the tables.

Does not own: what they mean to users (`RoleVault.Proofs.Store.Levels`).
-/

namespace RoleVault.Store

open RoleVault.Time

variable {before after : Store} {now : Instant}

/-! ## Keys -/

private theorem lt_succ_of_ne_maxValue {key : Int64} (last : key ≠ Int64.maxValue) :
    key < key + 1 := by
  rw [Int64.lt_iff_toInt_lt, Int64.toInt_add]
  have upper := Int64.toInt_le key
  have lower := Int64.le_toInt key
  have different : key.toInt ≠ Int64.maxValue.toInt := fun same => last (Int64.toInt_inj.mp same)
  have top : Int64.maxValue.toInt = 2 ^ 63 - 1 := by decide
  have one : (1 : Int64).toInt = 1 := by decide
  rw [one, Int.bmod_eq_of_le] <;> omega

private theorem foldl_highest_le (used : List Int64) (last : Int64) :
    let highest := used.foldl (fun highest key => if highest < key then key else highest) last
    last ≤ highest ∧ ∀ key ∈ used, key ≤ highest := by
  induction used generalizing last with
  | nil => simp
  | cons first rest inductionHypothesis =>
    simp only [List.foldl_cons]
    obtain ⟨start, others⟩ := inductionHypothesis (if last < first then first else last)
    have greater : last ≤ (if last < first then first else last) ∧
        first ≤ (if last < first then first else last) := by
      split
      · rename_i less
        exact ⟨Int64.le_of_lt less, Int64.le_refl first⟩
      · rename_i more
        exact ⟨Int64.le_refl last, Int64.not_lt.mp more⟩
    refine ⟨Int64.le_trans greater.1 start, ?_⟩
    rw [List.forall_mem_cons]
    exact ⟨Int64.le_trans greater.2 start, others⟩

/-- A new key lies above the last one given out and above all that are in use. -/
theorem nextKey_ok {last key : Int64} {used : List Int64} (next : nextKey last used = .ok key) :
    last < key ∧ ∀ other ∈ used, other < key := by
  unfold nextKey at next
  simp only at next
  split at next
  · cases next
  · rename_i room
    cases next
    obtain ⟨start, others⟩ := foldl_highest_le used last
    have above := lt_succ_of_ne_maxValue room
    exact ⟨Int64.lt_of_le_of_lt start above,
      fun other member => Int64.lt_of_le_of_lt (others other member) above⟩

/-! ## Roles -/

def newRoleRow (id : RoleId) (role : NewRole) (now : Instant) : RoleRow :=
  ⟨id, role.name, role.role.name, role.note, false, Rfc3339.renderOffset now,
    Rfc3339.renderOffset now⟩

/-- The tables after a role was added. -/
structure RoleAdded (id : RoleId) (role : NewRole) (now : Instant) (before after : Store) :
    Prop where
  newer : before.lastRole < id
  newId : ∀ row ∈ before.roles, row.id < id
  newName : ∀ row ∈ before.roles, row.name ≠ role.name
  same : after = { before with
    roles := before.roles ++ [newRoleRow id role now], lastRole := id }

/-- A role is added under a key that was never used. -/
theorem addRole_ok {id : RoleId} {role : NewRole}
    (ends : (Roles.add role now).run before = .ok (id, after)) :
    RoleAdded id role now before after := by
  simp only [Roles.add, StateT.run] at ends
  cases next : nextKey before.lastRole (before.roles.map RoleRow.id) with
  | error failure =>
    rw [next] at ends
    cases ends
  | ok key =>
    rw [next] at ends
    simp only [bind, Except.bind] at ends
    split at ends
    · cases ends
    · rename_i untaken
      cases ends
      obtain ⟨newer, newId⟩ := nextKey_ok next
      exact ⟨newer, fun row member => newId row.id (List.mem_map_of_mem member),
        by simpa using untaken, rfl⟩

def relabeledRole (id : RoleId) (name note : Option String) (now : Instant) (row : RoleRow) :
    RoleRow :=
  if row.id == id then
    { row with
      name := name.getD row.name
      note := note.getD row.note
      updatedAt := Rfc3339.renderOffset now }
  else row

/-- A role that is changed keeps its key and its level. -/
theorem updateRole_ok {id : RoleId} {name note : Option String} {found : Bool}
    (ends : (Roles.update id name note now).run before = .ok (found, after)) :
    (found = false ∧ after = before) ∨
      found = true ∧ (∃ row ∈ before.roles, row.id = id) ∧
        (∀ row ∈ before.roles, row.id ≠ id → name ≠ some row.name) ∧
        after = { before with roles := before.roles.map (relabeledRole id name note now) } := by
  simp only [Roles.update, StateT.run] at ends
  split at ends
  · cases ends
    exact .inl ⟨rfl, rfl⟩
  · rename_i present
    split at ends
    · cases ends
    · rename_i untaken
      cases ends
      exact .inr ⟨rfl, by simpa using present, by simpa using untaken, rfl⟩

/-- Only a role that no one holds and no group lists is deleted. -/
theorem deleteRole_ok {id : RoleId} {found : Bool}
    (ends : (Roles.delete id).run before = .ok (found, after)) :
    (found = false ∧ after = before) ∨
      found = true ∧ (∀ held ∈ before.userRoles, held.role ≠ id) ∧
        (∀ listed ∈ before.groupRoles, listed.role ≠ id) ∧
        after = { before with roles := before.roles.filter (·.id != id) } := by
  simp only [Roles.delete, StateT.run] at ends
  split at ends
  · cases ends
    exact .inl ⟨rfl, rfl⟩
  · split at ends
    · cases ends
    · rename_i unused
      cases ends
      obtain ⟨users, groups⟩ : (∀ held ∈ before.userRoles, held.role ≠ id) ∧
          ∀ listed ∈ before.groupRoles, listed.role ≠ id := by
        simpa [RoleReferences.inUse, roleReferences] using unused
      exact .inr ⟨rfl, users, groups, rfl⟩

/-! ## Groups -/

def newGroupRow (id : GroupId) (name note : String) (now : Instant) : GroupRow :=
  ⟨id, name, note, false, Rfc3339.renderOffset now, Rfc3339.renderOffset now⟩

/-- The tables after the list of a group was replaced. -/
structure ListsExactly (group : GroupId) (roles : List RoleId) (before after : Store) : Prop where
  same : after = { before with groupRoles := after.groupRoles }
  listed : ∀ {owner role}, ⟨owner, role⟩ ∈ after.groupRoles ↔
    if owner = group then role ∈ roles else ⟨owner, role⟩ ∈ before.groupRoles
  once : before.groupRoles.Nodup → after.groupRoles.Nodup
  known : ∀ role ∈ roles,
    (∃ row ∈ before.groups, row.id = group) ∧ ∃ row ∈ before.roles, row.id = role

theorem setListedRoles_ok {group : GroupId} {roles : List RoleId}
    (ends : (Groups.setRoles group roles).run before = .ok ((), after)) :
    ListsExactly group roles before after := by
  rw [setListedRoles_eq] at ends
  have replaced := PairTable.replace_ok isLawful_listTable ends
  refine ⟨replaced.write, ?_, replaced.once, ?_⟩
  · intro owner role
    refine replaced.mem.trans ?_
    by_cases same : owner = group
    · simp [listTable, same]
    · simp [listTable, same, Ne.symm same]
  · intro role member
    have known := replaced.known ⟨group, role⟩ (List.mem_map_of_mem member) (by simp)
    rw [listTable, Bool.and_eq_true, any_key, any_key] at known
    exact known

/-- The tables after a group with an empty list was added. -/
structure GroupAdded (id : GroupId) (name note : String) (now : Instant) (before after : Store) :
    Prop where
  newer : before.lastGroup < id
  newId : ∀ row ∈ before.groups, row.id < id
  newName : ∀ row ∈ before.groups, row.name ≠ name
  same : after = { before with
    groups := before.groups ++ [newGroupRow id name note now], lastGroup := id }

/-- A group is added under a key that was never used. -/
theorem addGroup_ok {id : GroupId} {name note : String}
    (ends : (Groups.add name note now).run before = .ok (id, after)) :
    GroupAdded id name note now before after := by
  simp only [Groups.add, StateT.run] at ends
  cases next : nextKey before.lastGroup (before.groups.map GroupRow.id) with
  | error failure =>
    rw [next] at ends
    cases ends
  | ok key =>
    rw [next] at ends
    simp only [bind, Except.bind] at ends
    split at ends
    · cases ends
    · rename_i untaken
      cases ends
      obtain ⟨newer, newId⟩ := nextKey_ok next
      exact ⟨newer, fun row member => newId row.id (List.mem_map_of_mem member),
        by simpa using untaken, rfl⟩

/-- A group is added, then it gets its list, then it is read back. -/
theorem createGroup_ok {group : NewGroup} {created : CatalogGroup}
    (ends : (Groups.create group now).run before = .ok (created, after)) :
    ∃ id between, GroupAdded id group.name group.note now before between ∧
      ListsExactly id group.roles between after ∧ created.id = id := by
  obtain ⟨id, between, adds, further⟩ := Transaction.bind_ok ends
  obtain ⟨_, listed, sets, further⟩ := Transaction.bind_ok further
  obtain ⟨found, looked, looks, returns⟩ := Transaction.bind_ok further
  obtain rfl := Transaction.view_same looks
  cases found with
  | none => cases returns
  | some found =>
    cases returns
    obtain ⟨row, located, reads⟩ := readOptional_ok.mp (Transaction.view_ok.mp looks).1
    have same : row.id = id := (mem_of_find?_key located).2
    exact ⟨id, between, addGroup_ok adds, setListedRoles_ok sets,
      (readGroup_label reads).1.trans same⟩

def relabeledGroup (id : GroupId) (name note : Option String) (now : Instant) (row : GroupRow) :
    GroupRow :=
  if row.id == id then
    { row with
      name := name.getD row.name
      note := note.getD row.note
      updatedAt := Rfc3339.renderOffset now }
  else row

/-- The tables after a group was given another name or note. -/
structure Relabeled (id : GroupId) (name note : Option String) (now : Instant)
    (before after : Store) : Prop where
  present : ∃ row ∈ before.groups, row.id = id
  newName : ∀ row ∈ before.groups, row.id ≠ id → name ≠ some row.name
  same : after = { before with groups := before.groups.map (relabeledGroup id name note now) }

private theorem relabel_ok {id : GroupId} {name note : Option String} {found : Bool}
    (ends : (Groups.relabel id name note now).run before = .ok (found, after)) :
    (found = false ∧ after = before) ∨ found = true ∧ Relabeled id name note now before after := by
  simp only [Groups.relabel, StateT.run] at ends
  split at ends
  · cases ends
    exact .inl ⟨rfl, rfl⟩
  · rename_i present
    split at ends
    · cases ends
    · rename_i untaken
      cases ends
      exact .inr ⟨rfl, by simpa using present, by simpa using untaken, rfl⟩

theorem updateGroup_ok {id : GroupId} {name note : Option String} {roles : Option (List RoleId)}
    {found : Bool} (ends : (Groups.update id name note roles now).run before = .ok (found, after)) :
    (found = false ∧ after = before) ∨
      found = true ∧ ∃ between, Relabeled id name note now before between ∧
        (after = between ∨
          ∃ listed, roles = some listed ∧ ListsExactly id listed between after) := by
  obtain ⟨there, between, relabels, further⟩ := Transaction.bind_ok ends
  obtain ⟨rfl, rfl⟩ | ⟨rfl, relabeled⟩ := relabel_ok relabels
  · cases further
    exact .inl ⟨rfl, rfl⟩
  · cases roles with
    | none =>
      cases further
      exact .inr ⟨rfl, _, relabeled, .inl rfl⟩
    | some listed =>
      obtain ⟨_, later, sets, returns⟩ := Transaction.bind_ok further
      obtain ⟨rfl, rfl⟩ := Transaction.pure_ok returns
      exact .inr ⟨rfl, between, relabeled, .inr ⟨listed, rfl, setListedRoles_ok sets⟩⟩

/-- Only a group without members is deleted. -/
theorem deleteGroup_ok {id : GroupId} {found : Bool}
    (ends : (Groups.delete id).run before = .ok (found, after)) :
    (found = false ∧ after = before) ∨
      found = true ∧ (∀ user ∈ before.users, user.group ≠ id) ∧
        after = { before with
          groups := before.groups.filter (·.id != id)
          groupRoles := before.groupRoles.filter (·.group != id) } := by
  simp only [Groups.delete, StateT.run] at ends
  split at ends
  · cases ends
    exact .inl ⟨rfl, rfl⟩
  · split at ends
    · cases ends
    · rename_i empty
      cases ends
      exact .inr ⟨rfl, by simpa [members] using empty, rfl⟩

/-! ## The rules of the tables -/

/-- The rules between rows survive a new role. -/
theorem Schema.roleAdded {id : RoleId} {role : NewRole} (schema : Schema before)
    (added : RoleAdded id role now before after) : Schema after := by
  obtain ⟨_, newId, newName, rfl⟩ := added
  exact { schema with
    roleIds := nodup_append_new schema.roleIds fun row member => Int64.ne_of_lt (newId row member)
    roleNames := nodup_append_new schema.roleNames fun row member => newName row member
    listedRole := fun listed member => exists_key_append _ (schema.listedRole listed member)
    heldRole := fun held member => exists_key_append _ (schema.heldRole held member) }

@[simp] theorem relabeledRole_id (id : RoleId) (name note : Option String) (now : Instant)
    (row : RoleRow) : (relabeledRole id name note now row).id = row.id := by
  unfold relabeledRole
  split <;> rfl

@[simp] theorem relabeledRole_level (id : RoleId) (name note : Option String) (now : Instant)
    (row : RoleRow) : (relabeledRole id name note now row).level = row.level := by
  unfold relabeledRole
  split <;> rfl

theorem Schema.roleRelabeled {id : RoleId} {name note : Option String} (schema : Schema before)
    (newName : ∀ row ∈ before.roles, row.id ≠ id → name ≠ some row.name) :
    Schema { before with roles := before.roles.map (relabeledRole id name note now) } := by
  refine { schema with roleIds := ?_, roleNames := ?_, listedRole := ?_, heldRole := ?_ }
  · simpa [Function.comp_def] using schema.roleIds
  · exact nodup_map_relabel RoleRow.id id schema.roleIds schema.roleNames
      (fun row other => by simp [relabeledRole, other])
      (fun row same => by simp [relabeledRole, same]) newName
  · exact fun listed member => exists_key_map (relabeledRole_id id name note now)
      (schema.listedRole listed member)
  · exact fun held member => exists_key_map (relabeledRole_id id name note now)
      (schema.heldRole held member)

/-- The rules between rows survive the end of a role that nothing names. -/
theorem Schema.roleDeleted {id : RoleId} (schema : Schema before)
    (unheld : ∀ held ∈ before.userRoles, held.role ≠ id)
    (unlisted : ∀ listed ∈ before.groupRoles, listed.role ≠ id) :
    Schema { before with roles := before.roles.filter (·.id != id) } := by
  have fewer : (before.roles.filter (·.id != id)).Sublist before.roles := List.filter_sublist
  have kept {wanted : RoleId} (different : wanted ≠ id)
      (known : ∃ row ∈ before.roles, row.id = wanted) :
      ∃ row ∈ before.roles.filter (·.id != id), row.id = wanted := by
    obtain ⟨row, member, same⟩ := known
    exact ⟨row, List.mem_filter.mpr ⟨member, by simpa [same] using different⟩, same⟩
  exact { schema with
    roleIds := schema.roleIds.sublist (fewer.map _)
    roleNames := schema.roleNames.sublist (fewer.map _)
    listedRole := fun listed member => kept (unlisted listed member)
      (schema.listedRole listed member)
    heldRole := fun held member => kept (unheld held member) (schema.heldRole held member) }

theorem Schema.groupAdded {id : GroupId} {name note : String} (schema : Schema before)
    (added : GroupAdded id name note now before after) : Schema after := by
  obtain ⟨_, newId, newName, rfl⟩ := added
  exact { schema with
    groupIds := nodup_append_new schema.groupIds fun row member => Int64.ne_of_lt (newId row member)
    groupNames := nodup_append_new schema.groupNames fun row member => newName row member
    listedGroup := fun listed member => exists_key_append _ (schema.listedGroup listed member)
    memberGroup := fun user member => exists_key_append _ (schema.memberGroup user member) }

/-- The rules between rows survive another list of a group. -/
theorem Schema.listed {id : GroupId} {roles : List RoleId} (schema : Schema before)
    (lists : ListsExactly id roles before after) : Schema after := by
  obtain ⟨same, listed, once, known⟩ := lists
  rw [same]
  refine { schema with listedOnce := once schema.listedOnce, listedGroup := ?_, listedRole := ?_ }
  · rintro ⟨owner, role⟩ member
    rw [listed] at member
    split at member
    · rename_i same
      rw [same]
      exact (known role member).1
    · exact schema.listedGroup _ member
  · rintro ⟨owner, role⟩ member
    rw [listed] at member
    split at member
    · exact (known role member).2
    · exact schema.listedRole _ member

@[simp] theorem relabeledGroup_id (id : GroupId) (name note : Option String) (now : Instant)
    (row : GroupRow) : (relabeledGroup id name note now row).id = row.id := by
  unfold relabeledGroup
  split <;> rfl

@[simp] theorem relabeledGroup_builtin (id : GroupId) (name note : Option String) (now : Instant)
    (row : GroupRow) : (relabeledGroup id name note now row).builtin = row.builtin := by
  unfold relabeledGroup
  split <;> rfl

theorem Schema.relabeled {id : GroupId} {name note : Option String} (schema : Schema before)
    (relabeled : Relabeled id name note now before after) : Schema after := by
  obtain ⟨_, newName, rfl⟩ := relabeled
  refine { schema with groupIds := ?_, groupNames := ?_, listedGroup := ?_, memberGroup := ?_ }
  · simpa [Function.comp_def] using schema.groupIds
  · exact nodup_map_relabel GroupRow.id id schema.groupIds schema.groupNames
      (fun row other => by simp [relabeledGroup, other])
      (fun row same => by simp [relabeledGroup, same]) newName
  · exact fun listed member => exists_key_map (relabeledGroup_id id name note now)
      (schema.listedGroup listed member)
  · exact fun user member => exists_key_map (relabeledGroup_id id name note now)
      (schema.memberGroup user member)

/-- The rules between rows survive the end of a group without members. -/
theorem Schema.groupDeleted {id : GroupId} (schema : Schema before)
    (empty : ∀ user ∈ before.users, user.group ≠ id) :
    Schema { before with
      groups := before.groups.filter (·.id != id)
      groupRoles := before.groupRoles.filter (·.group != id) } := by
  have fewer : (before.groups.filter (·.id != id)).Sublist before.groups := List.filter_sublist
  have kept {wanted : GroupId} (different : wanted ≠ id)
      (known : ∃ row ∈ before.groups, row.id = wanted) :
      ∃ row ∈ before.groups.filter (·.id != id), row.id = wanted := by
    obtain ⟨row, member, same⟩ := known
    exact ⟨row, List.mem_filter.mpr ⟨member, by simpa [same] using different⟩, same⟩
  refine { schema with
    groupIds := schema.groupIds.sublist (fewer.map _)
    groupNames := schema.groupNames.sublist (fewer.map _)
    listedOnce := schema.listedOnce.filter _
    listedGroup := ?_
    listedRole := fun listed member => schema.listedRole listed (List.mem_of_mem_filter member)
    memberGroup := fun user member => kept (empty user member) (schema.memberGroup user member) }
  intro listed member
  obtain ⟨member, different⟩ := List.mem_filter.mp member
  exact kept (by simpa using different) (schema.listedGroup listed member)

end RoleVault.Store
