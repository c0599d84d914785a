import RoleVault.Proofs.Store.Catalog
import RoleVault.Proofs.Time.Rfc3339

/-!
Contract: when the statements that add and change users and groups go through.

Owns:
- that pairs are noted where what they name is there (`PairTable.replace_of_known`);
- that a user or a group is added or changed where its name is free and all that it refers to is there,
  and refused by its name where that is taken.

Does not own: what is left in the tables then (`RoleVault.Proofs.Store.Users` and its neighbour).
-/

namespace RoleVault.Store

open RoleVault.Access (Grant)
open RoleVault.Time

variable {store : Store} {now : Instant}

/-! ## Roles -/

def KnowsRoles (store : Store) (roles : List RoleId) : Prop :=
  ∀ role ∈ roles, ∃ row ∈ store.roles, row.id = role

/-- What roles grant names roles that are there. -/
theorem Granted.knowsRoles {roles : List RoleId} {grants : List Grant}
    (granted : Granted store roles grants) : KnowsRoles store roles := by
  intro role member
  rw [← granted.ids] at member
  obtain ⟨grant, listed, rfl⟩ := List.mem_map.mp member
  obtain ⟨row, rowMember, same, _⟩ := granted.rows grant listed
  exact ⟨row, rowMember, same⟩

/-- Whether two lists name the same roles. -/
def SameRoles (one other : List RoleId) : Prop :=
  ∀ role, role ∈ one ↔ role ∈ other

/-- Lists of the same roles are known together. -/
theorem SameRoles.knows {one other : List RoleId} (same : SameRoles one other) :
    KnowsRoles store one ↔ KnowsRoles store other :=
  ⟨fun known role member => known role ((same role).mpr member),
    fun known role member => known role ((same role).mp member)⟩

/-- What roles grant is what the catalog says of those on the list. -/
theorem Granted.mem_iff {roles : List RoleId} {grants : List Grant} {grant : Grant}
    (granted : Granted store roles grants) (schema : Schema store) :
    grant ∈ grants ↔ grant.id ∈ roles ∧
      ∃ row ∈ store.roles, row.id = grant.id ∧ Role.ofName? row.level = some grant.role := by
  constructor
  · intro member
    exact ⟨granted.ids ▸ List.mem_map_of_mem member, granted.rows grant member⟩
  · rintro ⟨listed, row, member, same, level⟩
    rw [← granted.ids] at listed
    obtain ⟨other, otherMember, otherSame⟩ := List.mem_map.mp listed
    have otherLevel := granted.truthful schema other otherMember row member
      (same.trans otherSame.symm)
    rw [level, Option.some.injEq] at otherLevel
    obtain ⟨id, role⟩ := grant
    obtain ⟨otherId, otherRole⟩ := other
    obtain rfl : otherId = id := otherSame
    obtain rfl : role = otherRole := otherLevel
    exact otherMember

/-- Which grants a list of roles stands for depends on nothing but which roles are on it. -/
theorem Granted.same {one other : List RoleId} {left right : List Grant} (schema : Schema store)
    (leftGranted : Granted store one left) (rightGranted : Granted store other right)
    (same : SameRoles one other) (grant : Grant) : grant ∈ left ↔ grant ∈ right := by
  rw [leftGranted.mem_iff schema, rightGranted.mem_iff schema, same]

/-- A role that can be read is found under its key. -/
theorem find_run {row : RoleRow} {role : CatalogRole} (schema : Schema store)
    (member : row ∈ store.roles) (reads : row.read = .ok role) :
    (Roles.find row.id).run store = .ok (role, store) := by
  have looks : (Roles.find? row.id).run store = .ok (some role, store) :=
    Transaction.view_ok.mpr
      ⟨readOptional_ok.mpr ⟨row, find?_key schema.roleIds member rfl, reads⟩, rfl⟩
  rw [Roles.find, Transaction.run_bind_ok looks]
  rfl

/-- A role that is not there is not found. -/
theorem find_run_absent {id : RoleId} (absent : ∀ row ∈ store.roles, row.id ≠ id) :
    (Roles.find id).run store = .error (.notFound s!"role {id}") := by
  have looks : (Roles.find? id).run store = .ok (none, store) :=
    Transaction.view_ok.mpr ⟨by rw [find?_key_none.mpr absent]; rfl, rfl⟩
  rw [Roles.find, Transaction.run_bind_ok looks]
  rfl

section FindAll

variable {ids : List RoleId} (schema : Schema store)
  (readable : ∀ row ∈ store.roles, ∃ role, row.read = .ok role)

include schema readable

/-- A list of roles is found where all of them are there. -/
theorem findAll_of_known (known : KnowsRoles store ids) :
    ∃ roles, (Roles.findAll ids).run store = .ok (roles, store) := by
  unfold Roles.findAll
  induction ids with
  | nil => exact ⟨[], rfl⟩
  | cons id rest inductionHypothesis =>
    obtain ⟨⟨row, member, rfl⟩, others⟩ := List.forall_mem_cons.mp known
    obtain ⟨role, reads⟩ := readable row member
    obtain ⟨roles, finds⟩ := inductionHypothesis others
    refine ⟨role :: roles, ?_⟩
    rw [List.mapM_cons, Transaction.run_bind_ok (find_run schema member reads),
      Transaction.run_bind_ok finds]
    rfl

/-- A list of roles is refused where one of them is missing. -/
theorem findAll_of_unknown (unknown : ¬ KnowsRoles store ids) :
    ∃ what, (Roles.findAll ids).run store = .error (.notFound what) := by
  unfold Roles.findAll
  induction ids with
  | nil => exact absurd (List.forall_mem_nil _) unknown
  | cons id rest inductionHypothesis =>
    rw [List.mapM_cons]
    by_cases present : ∃ row ∈ store.roles, row.id = id
    · obtain ⟨row, member, rfl⟩ := present
      obtain ⟨role, reads⟩ := readable row member
      obtain ⟨what, refuses⟩ := inductionHypothesis fun others =>
        unknown (List.forall_mem_cons.mpr ⟨⟨row, member, rfl⟩, others⟩)
      refine ⟨what, ?_⟩
      rw [Transaction.run_bind_ok (find_run schema member reads),
        Transaction.run_bind_error refuses]
    · have absent : ∀ row ∈ store.roles, row.id ≠ id := fun row member same =>
        present ⟨row, member, same⟩
      exact ⟨_, Transaction.run_bind_error (find_run_absent absent)⟩

end FindAll

/-! ## Pairs -/

namespace PairTable

variable {π : Type} [BEq π] {table : PairTable π} {pairs : List π}

/-- Pairs are noted one after the other where what they name is there. -/
theorem forM_of_known (lawful : table.IsLawful)
    (known : ∀ pair ∈ pairs, table.known store pair = true) :
    ∃ after, (pairs.forM table.add).run store = .ok ((), after) := by
  induction pairs generalizing store with
  | nil => exact ⟨store, rfl⟩
  | cons pair rest inductionHypothesis =>
    obtain ⟨head, others⟩ := List.forall_mem_cons.mp known
    obtain ⟨between, adds, same⟩ : ∃ between, (table.add pair).run store = .ok ((), between) ∧
        ∀ other, table.known between other = table.known store other := by
      simp only [add, StateT.run, head, Bool.not_true]
      split
      · exact ⟨store, rfl, fun _ => rfl⟩
      · exact ⟨_, rfl, lawful.known_write store _⟩
    have known : ∀ other ∈ rest, table.known between other = true := fun other member => by
      rw [same]
      exact others other member
    obtain ⟨after, further⟩ := inductionHypothesis known
    exact ⟨after, (Transaction.run_bind_ok adds).trans further⟩

/-- The pairs of an owner are replaced by such as name what is there. -/
theorem replace_of_known (lawful : table.IsLawful) (owned : π → Bool)
    (known : ∀ pair ∈ pairs, table.known store pair = true) :
    ∃ after, (table.replace owned pairs).run store = .ok ((), after) :=
  forM_of_known lawful fun pair member => by
    rw [lawful.known_write]
    exact known pair member

end PairTable

private theorem setRoles_of_known {user : String} {roles : List RoleId}
    (there : ∃ row ∈ store.users, row.id = user) (known : KnowsRoles store roles) :
    ∃ after, (Users.setRoles user roles).run store = .ok ((), after) := by
  rw [setRoles_eq]
  refine PairTable.replace_of_known isLawful_heldTable _ (List.forall_mem_map.mpr ?_)
  intro role member
  rw [heldTable, Bool.and_eq_true, any_key, any_key]
  exact ⟨there, known role member⟩

private theorem setListedRoles_of_known {group : GroupId} {roles : List RoleId}
    (there : ∃ row ∈ store.groups, row.id = group) (known : KnowsRoles store roles) :
    ∃ after, (Groups.setRoles group roles).run store = .ok ((), after) := by
  rw [setListedRoles_eq]
  refine PairTable.replace_of_known isLawful_listTable _ (List.forall_mem_map.mpr ?_)
  intro role member
  rw [listTable, Bool.and_eq_true, any_key, any_key]
  exact ⟨there, known role member⟩

/-! ## Users -/

section Users

variable {user : NewUser}

/-- A user is not added under a name that is taken. -/
theorem create_taken (taken : ∃ row ∈ store.users, row.name = user.name) :
    (Users.create user now).run store = .error (.taken s!"user {user.name}") := by
  apply Transaction.run_bind_error
  obtain ⟨row, member, same⟩ := taken
  have clashes : (store.users.any fun other =>
      other.id == (Users.newRow user now).id || other.name == (Users.newRow user now).name) =
        true := by
    rw [List.any_eq_true]
    exact ⟨row, member, by simp [Users.newRow, same]⟩
  simp only [Users.add, StateT.run, clashes, if_true]
  rfl

/-- A user with a new key and a new name is added where its group and its roles are there. -/
theorem create_of_free (newId : ∀ row ∈ store.users, row.id ≠ user.id.text)
    (newName : ∀ row ∈ store.users, row.name ≠ user.name)
    (group : ∃ row ∈ store.groups, row.id = user.group) (known : KnowsRoles store user.roles) :
    ∃ after, (Users.create user now).run store = .ok ((), after) := by
  have free : (store.users.any fun other =>
      other.id == (Users.newRow user now).id || other.name == (Users.newRow user now).name) =
        false := by
    simpa [Users.newRow] using fun row member => ⟨newId row member, newName row member⟩
  have adds : (Users.add (Users.newRow user now)).run store =
      .ok ((), { store with users := store.users ++ [Users.newRow user now] }) := by
    have grouped : store.groups.any (·.id == (Users.newRow user now).group) = true :=
      any_key.mpr group
    simp only [Users.add, StateT.run, free, grouped]
    rfl
  rw [Users.create, Transaction.run_bind_ok adds]
  exact setRoles_of_known ⟨_, List.mem_append_right _ List.mem_cons_self, rfl⟩ known

end Users

section Save

variable {user : UserRecord} {stored : Option String}

/-- A save that finds its user has saved it. -/
theorem saved_of_found {after : Store}
    (ends : (Accounts.Users.save user stored now).run store = .ok (true, after)) :
    Saved user stored now store after :=
  ((save_ok ends).resolve_left fun refused => nomatch refused.1).2

/-- A user does not get a name that another one has. -/
theorem save_taken (present : ∃ row ∈ store.users, row.id = user.id.text)
    (taken : ∃ row ∈ store.users, row.id ≠ user.id.text ∧ row.name = user.name) :
    (Accounts.Users.save user stored now).run store = .error (.taken s!"user {user.name}") := by
  apply Transaction.run_bind_error
  apply Transaction.run_bind_error
  have clashes : (store.users.any fun row => row.id != user.id.text && row.name == user.name) =
      true := by
    simpa using taken
  simp only [Users.replaceRow, StateT.run, any_key.mpr present, clashes]
  rfl

/-- A user is changed to a record with a new name, or its own, where group and roles are there. -/
theorem save_of_free (present : ∃ row ∈ store.users, row.id = user.id.text)
    (newName : ∀ row ∈ store.users, row.id ≠ user.id.text → row.name ≠ user.name)
    (group : ∃ row ∈ store.groups, row.id = user.group)
    (known : KnowsRoles store (user.grants.map Grant.id)) :
    ∃ after, (Accounts.Users.save user stored now).run store = .ok (true, after) := by
  let between : Store := { store with
    users := Users.modifyRow user.id.text (Users.overlay user now) store.users }
  have overlays : (Users.replaceRow user now).run store = .ok (true, between) := by
    have free : (store.users.any fun row => row.id != user.id.text && row.name == user.name) =
        false := by
      simpa using newName
    simp only [Users.replaceRow, StateT.run, any_key.mpr present, free, any_key.mpr group]
    rfl
  have there : ∃ row ∈ between.users, row.id = user.id.text :=
    (exists_key_modifyRow (rewritten_id user none now)).mpr present
  obtain ⟨replaced, sets⟩ := setRoles_of_known there known
  have replaces : (Users.replace user now).run store = .ok (true, replaced) := by
    rw [Users.replace, Transaction.run_bind_ok overlays]
    exact Transaction.run_bind_ok sets
  rw [Accounts.Users.save, Transaction.run_bind_ok replaces]
  cases stored with
  | none => exact ⟨replaced, rfl⟩
  | some stored =>
    have kept : ∃ row ∈ replaced.users, row.id = user.id.text := by
      rw [(setRoles_ok sets).1]
      exact there
    let after : Store := { replaced with
      users := Users.modifyRow user.id.text (withStored stored now) replaced.users }
    have discards : (discard (Users.setStored user.id stored now)).run replaced =
        .ok ((), after) := by
      show (Users.setStored user.id stored now >>= fun _ => pure ()).run replaced = _
      exact Transaction.run_bind_ok (setStored_run kept)
    exact ⟨after, Transaction.run_bind_ok discards⟩

end Save

/-! ## Groups -/

section Groups

variable {name note : String}

def groupKey (store : Store) (name : String) : Except StoreError GroupId := do
  let id ← nextKey store.lastGroup (store.groups.map GroupRow.id)
  if store.groups.any (·.name == name) then throw (.taken s!"group {name}")
  return id

private theorem addGroup_run : (Groups.add name note now).run store =
    (groupKey store name).map fun id => (id, { store with
      groups := store.groups ++ [newGroupRow id name note now]
      lastGroup := id }) := by
  unfold Groups.add groupKey
  simp only [StateT.run]
  cases nextKey store.lastGroup (store.groups.map GroupRow.id) with
  | error failure => rfl
  | ok id => cases store.groups.any (·.name == name) <;> rfl

/-- A group that cannot get a key is refused, whenever it is to be added and whatever its list. -/
theorem createGroup_of_keyless {group : NewGroup} {failure : StoreError}
    (keyless : groupKey store group.name = .error failure) :
    (Groups.create group now).run store = .error failure := by
  apply Transaction.run_bind_error
  rw [addGroup_run, keyless]
  rfl

/-- A group that gets a key is added under it where its roles are there, if the time can be read back. -/
theorem createGroup_of_key (group : NewGroup) {id : GroupId} (dated : now.IsDated)
    (schema : Schema store) (key : groupKey store group.name = .ok id)
    (known : KnowsRoles store group.roles) :
    ∃ created between after, (Groups.create group now).run store = .ok (created, after) ∧
      GroupAdded id group.name group.note now store between ∧
      ListsExactly id group.roles between after := by
  let row := newGroupRow id group.name group.note now
  let between : Store := { store with groups := store.groups ++ [row], lastGroup := id }
  have adds : (Groups.add group.name group.note now).run store = .ok (id, between) := by
    rw [addGroup_run, key]
    rfl
  have listed : row ∈ between.groups := List.mem_append_right _ List.mem_cons_self
  have there : ∃ other ∈ between.groups, other.id = id := ⟨row, listed, rfl⟩
  obtain ⟨after, sets⟩ := setListedRoles_of_known there known
  have added := addGroup_ok adds
  have lists := setListedRoles_ok sets
  have same : after.groups = between.groups := by rw [lists.same]
  have reads := Rfc3339.parse?_renderOffset dated
  obtain ⟨created, readsRow⟩ : ∃ created, row.read after = .ok created :=
    readGroup_ok_iff.mpr ⟨⟨now, reads⟩, ⟨now, reads⟩⟩
  have looks : (Groups.find? id).run after = .ok (some created, after) := by
    have located := find?_key (schema.groupAdded added).groupIds listed rfl
    exact Transaction.view_ok.mpr
      ⟨readOptional_ok.mpr ⟨row, same.symm ▸ located, readsRow⟩, rfl⟩
  refine ⟨created, between, after, ?_, added, lists⟩
  rw [Groups.create, Transaction.run_bind_ok adds, Transaction.run_bind_ok sets,
    Transaction.run_bind_ok looks]
  rfl

section Update

variable {id : GroupId} {name note : Option String}

/-- A group does not get a name that another one has. -/
theorem updateGroup_taken {roles : Option (List RoleId)} (present : ∃ row ∈ store.groups, row.id = id)
    (taken : ∃ row ∈ store.groups, row.id ≠ id ∧ name = some row.name) :
    (Groups.update id name note roles now).run store =
      .error (.taken ("group " ++ name.getD "")) := by
  apply Transaction.run_bind_error
  have clashes : (store.groups.any fun row => row.id != id && name == some row.name) = true := by
    simpa using taken
  simp only [Groups.relabel, StateT.run, any_key.mpr present, clashes]
  rfl

/-- The tables after a group got another list, if it was given one. -/
inductive Relists (id : GroupId) : Option (List RoleId) → Store → Store → Prop where
  | kept (store : Store) : Relists id none store store
  | replaced {roles : List RoleId} {before after : Store} (lists : ListsExactly id roles before after) :
    Relists id (some roles) before after

/-- A group is changed where its new name is free and the roles of its new list are there. -/
theorem updateGroup_of_free (note : Option String) (now : Instant) {roles : Option (List RoleId)}
    (present : ∃ row ∈ store.groups, row.id = id)
    (newName : ∀ row ∈ store.groups, row.id ≠ id → name ≠ some row.name)
    (known : KnowsRoles store (roles.getD [])) :
    ∃ between after, (Groups.update id name note roles now).run store = .ok (true, after) ∧
      Relabeled id name note now store between ∧ Relists id roles between after := by
  let between : Store :=
    { store with groups := store.groups.map (relabeledGroup id name note now) }
  have relabels : (Groups.relabel id name note now).run store = .ok (true, between) := by
    have free : (store.groups.any fun row => row.id != id && name == some row.name) = false := by
      simpa using newName
    simp only [Groups.relabel, StateT.run, any_key.mpr present, free]
    rfl
  have relabeled : Relabeled id name note now store between := ⟨present, newName, rfl⟩
  rw [Groups.update, Transaction.run_bind_ok relabels]
  cases roles with
  | none => exact ⟨between, between, rfl, relabeled, .kept between⟩
  | some roles =>
    have there : ∃ row ∈ between.groups, row.id = id :=
      exists_key_map (relabeledGroup_id id name note now) present
    obtain ⟨after, sets⟩ := setListedRoles_of_known there known
    exact ⟨between, after, Transaction.run_bind_ok sets, relabeled,
      .replaced (setListedRoles_ok sets)⟩

end Update

end Groups

end RoleVault.Store
