import RoleVault.Proofs.Store.Reading
import RoleVault.Proofs.Store.Transaction

/-!
Contract: what the statements that look at the tables find.

Owns:
- the row behind a user, a role or a group that was found;
- `Granted`, what the roles with some keys grant.

Does not own: what is read of a row (`RoleVault.Proofs.Store.Reading`).
-/

namespace RoleVault.Store

open RoleVault.Access (Grant)

variable {store after : Store}

/-- An optional row is read where there is one that reads. -/
theorem readOptional_ok {ρ α : Type} {read : ρ → Except StoreError α} {row? : Option ρ}
    {value : α} :
    readOptional read row? = .ok (some value) ↔ ∃ row, row? = some row ∧ read row = .ok value := by
  cases row? with
  | none => simp [readOptional]
  | some row => cases readRow : read row <;> simp [readOptional, readRow, Except.map]

theorem readOptional_toList {ρ α : Type} (read : ρ → Except StoreError α) (row? : Option ρ) :
    (readOptional read row?).map Option.toList = row?.toList.mapM read := by
  cases row? with
  | none => rfl
  | some row =>
    rw [Option.toList, List.mapM_cons, List.mapM_nil, readOptional]
    cases read row <;> rfl

/-- A user that is found under a name is what the row of that name says. -/
theorem findNamed?_ok {name : String} {user : UserRecord}
    (ends : (Users.findNamed? name).run store = .ok (some user, after)) :
    ∃ row ∈ store.users, row.name = name ∧ Reads store row user := by
  obtain ⟨row, found, reads⟩ := readOptional_ok.mp (Transaction.view_ok.mp ends).1
  obtain ⟨member, named⟩ := mem_of_find?_key found
  exact ⟨row, member, named, read_eq_ok_iff.mp reads⟩

theorem findNamed?_run {name : String} {row : UserRow} {user : UserRecord}
    (found : store.users.find? (·.name == name) = some row) (reads : Reads store row user) :
    (Users.findNamed? name).run store = .ok (some user, store) :=
  Transaction.view_ok.mpr ⟨readOptional_ok.mpr ⟨row, found, read_eq_ok_iff.mpr reads⟩, rfl⟩

/-- A role that is found under a key is what the row with that key says. -/
theorem findRole?_ok {id : RoleId} {role : CatalogRole}
    (ends : (Roles.find? id).run store = .ok (some role, after)) :
    ∃ row ∈ store.roles, row.id = id ∧ ReadsRole row role := by
  obtain ⟨row, found, reads⟩ := readOptional_ok.mp (Transaction.view_ok.mp ends).1
  obtain ⟨member, same⟩ := mem_of_find?_key found
  exact ⟨row, member, same, readRole_eq_ok_iff.mp reads⟩

/-- A group that is found under a key is labelled as the row with that key. -/
theorem findGroup?_ok {id : GroupId} {group : CatalogGroup}
    (ends : (Groups.find? id).run store = .ok (some group, after)) :
    ∃ row ∈ store.groups, row.id = id ∧ row.name = group.name ∧ row.builtin = group.builtin := by
  obtain ⟨row, found, reads⟩ := readOptional_ok.mp (Transaction.view_ok.mp ends).1
  obtain ⟨member, same⟩ := mem_of_find?_key found
  obtain ⟨_, name, builtin⟩ := readGroup_label reads
  exact ⟨row, member, same, name.symm, builtin.symm⟩

/-! ## Grants of roles -/

structure Granted (store : Store) (roles : List RoleId) (grants : List Grant) : Prop where
  ids : grants.map Grant.id = roles
  rows : ∀ grant ∈ grants, ∃ row ∈ store.roles,
    row.id = grant.id ∧ Role.ofName? row.level = some grant.role

/-- What roles grant is the truth about them. -/
theorem Granted.truthful {roles : List RoleId} {grants : List Grant}
    (granted : Granted store roles grants) (schema : Schema store) : Truthful store grants := by
  intro grant listed row member same
  obtain ⟨source, sourceMember, sourceSame, level⟩ := granted.rows grant listed
  rw [schema.role_eq member sourceMember (same.trans sourceSame.symm)]
  exact level

private theorem find_ok {id : RoleId} {role : CatalogRole}
    (ends : (Roles.find id).run store = .ok (role, after)) :
    after = store ∧ role.id = id ∧
      ∃ row ∈ store.roles, row.id = id ∧ Role.ofName? row.level = some role.role := by
  obtain ⟨found, looked, looks, returns⟩ := Transaction.bind_ok ends
  obtain rfl := Transaction.view_same looks
  cases found with
  | none => cases returns
  | some found =>
    obtain ⟨rfl, rfl⟩ := Transaction.pure_ok returns
    obtain ⟨row, member, same, reads⟩ := findRole?_ok looks
    exact ⟨rfl, reads.id.trans same, row, member, same, reads.level⟩

/-- Roles that are looked up together are all found, and grant what the catalog says. -/
theorem findAll_ok {ids : List RoleId} {roles : List CatalogRole}
    (ends : (Roles.findAll ids).run store = .ok (roles, after)) :
    after = store ∧ Granted store ids (roles.map CatalogRole.grant) := by
  unfold Roles.findAll at ends
  induction ids generalizing roles with
  | nil =>
    rw [List.mapM_nil] at ends
    obtain ⟨rfl, rfl⟩ := Transaction.pure_ok ends
    exact ⟨rfl, rfl, by simp⟩
  | cons id rest inductionHypothesis =>
    rw [List.mapM_cons] at ends
    obtain ⟨role, between, finds, further⟩ := Transaction.bind_ok ends
    obtain ⟨rfl, same, found⟩ := find_ok finds
    obtain ⟨others, later, findsOthers, returns⟩ := Transaction.bind_ok further
    obtain ⟨rfl, rfl⟩ := Transaction.pure_ok returns
    obtain ⟨rfl, granted⟩ := inductionHypothesis findsOthers
    refine ⟨rfl, ?_, ?_⟩
    · simp [CatalogRole.grant, same, ← granted.ids]
    · rw [List.map_cons, List.forall_mem_cons]
      refine ⟨?_, granted.rows⟩
      obtain ⟨row, member, rowSame, level⟩ := found
      exact ⟨row, member, rowSame.trans same.symm, level⟩

end RoleVault.Store
