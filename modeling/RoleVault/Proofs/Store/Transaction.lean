import RoleVault.Store.Catalog
import RoleVault.Store.Users

/-!
Contract: what statements leave in the tables.

Owns:
- how one transaction after another, a look and a change end;
- `Notes` and `Replaces`, the tables after pairs were noted in one of them, each once, or replaced
  those of one owner, for the two tables of pairs.

Does not own: the rows that the statements write (`RoleVault.Proofs.Store.Users` and its neighbour).
-/

namespace RoleVault.Store

namespace Transaction

variable {α β : Type} {store after : Store}

/-- What follows another transaction is reached where that one succeeds. -/
theorem bind_ok {first : Transaction α} {following : α → Transaction β} {result : β}
    (ends : (first >>= following).run store = .ok (result, after)) :
    ∃ value between, first.run store = .ok (value, between) ∧
      (following value).run between = .ok (result, after) := by
  rw [StateT.run_bind] at ends
  cases done : first.run store with
  | error failure =>
    rw [done] at ends
    cases ends
  | ok pair =>
    rw [done] at ends
    exact ⟨pair.1, pair.2, rfl, ends⟩

/-- What follows a transaction that succeeds. -/
theorem run_bind_ok {first : Transaction α} {following : α → Transaction β} {value : α}
    {between : Store} (ended : first.run store = .ok (value, between)) :
    (first >>= following).run store = (following value).run between := by
  rw [StateT.run_bind, ended]
  rfl

/-- Nothing follows a transaction that fails. -/
theorem run_bind_error {first : Transaction α} {following : α → Transaction β}
    {failure : StoreError} (ended : first.run store = .error failure) :
    (first >>= following).run store = .error failure := by
  rw [StateT.run_bind, ended]
  rfl

/-- A look at the tables leaves them as they are. -/
theorem view_ok {read : Store → Except StoreError α} {result : α} :
    (view read).run store = .ok (result, after) ↔ read store = .ok result ∧ after = store := by
  cases done : read store with
  | error failure => simp [view, StateT.run, done, Except.map]
  | ok value => simp [view, StateT.run, done, Except.map, eq_comm]

/-- Looking at the tables leaves them alone. -/
theorem view_same {read : Store → Except StoreError α} {result : α}
    (ends : (view read).run store = .ok (result, after)) : after = store :=
  (view_ok.mp ends).2

/-- What is made of a look is a look. -/
theorem view_bind_pure (read : Store → Except StoreError α) (f : α → β) :
    (do return f (← view read) : Transaction β) = view fun store => (read store).map f := by
  funext store
  show ((read store).map (·, store) >>= fun found => .ok (f found.1, found.2)) =
    ((read store).map f).map (·, store)
  cases read store <;> rfl

theorem pure_ok {value result : α}
    (ends : (pure value : Transaction α).run store = .ok (result, after)) :
    value = result ∧ after = store := by
  cases ends
  exact ⟨rfl, rfl⟩

end Transaction

/-! ## Pairs -/

/-- A table of pairs: how it is looked at and replaced, and when a pair may be noted in it. -/
structure PairTable (π : Type) where
  rows : Store → List π
  write : Store → List π → Store
  known : Store → π → Bool
  refusal : π → StoreError

namespace PairTable

variable {π : Type} [BEq π] [LawfulBEq π]

/-- Notes a pair in a table, unless it is there. -/
def add (table : PairTable π) (pair : π) : Transaction Unit := fun store => do
  if (table.rows store).contains pair then return ((), store)
  if !table.known store pair then throw (table.refusal pair)
  return ((), table.write store (table.rows store ++ [pair]))

/-- Replacing the rows of a table does that and nothing else. -/
structure IsLawful (table : PairTable π) : Prop where
  rows_write : ∀ store rows, table.rows (table.write store rows) = rows
  write_write : ∀ store rows others,
    table.write (table.write store rows) others = table.write store others
  write_rows : ∀ store, table.write store (table.rows store) = store
  known_write : ∀ store rows pair,
    table.known (table.write store rows) pair = table.known store pair

/-- The tables after pairs were noted in one of them. -/
structure Notes (table : PairTable π) (pairs : List π) (before after : Store) : Prop where
  write : after = table.write before (table.rows after)
  mem : ∀ {pair}, pair ∈ table.rows after ↔ pair ∈ table.rows before ∨ pair ∈ pairs
  once : (table.rows before).Nodup → (table.rows after).Nodup
  known : ∀ pair ∈ pairs, pair ∈ table.rows before ∨ table.known before pair = true

variable {table : PairTable π} {before after : Store}

/-- Adding a pair notes that pair and no other. -/
theorem add_ok (lawful : table.IsLawful) {pair : π}
    (ends : (table.add pair).run before = .ok ((), after)) : Notes table [pair] before after := by
  simp only [add, StateT.run] at ends
  split at ends
  · rename_i present
    cases ends
    have member : pair ∈ table.rows before := by simpa using present
    refine ⟨(lawful.write_rows before).symm, ?_, fun once => once, ?_⟩
    · intro other
      rw [List.mem_singleton]
      exact ⟨.inl, fun noted => noted.elim id fun same => same ▸ member⟩
    · intro other listed
      rw [List.mem_singleton.mp listed]
      exact .inl member
  · rename_i present
    have absent : pair ∉ table.rows before := by simpa using present
    split at ends
    · cases ends
    · rename_i known
      cases ends
      refine ⟨by rw [lawful.rows_write], ?_, fun once => ?_, ?_⟩
      · intro other
        rw [lawful.rows_write, List.mem_append]
      · rw [lawful.rows_write, List.nodup_append]
        refine ⟨once, by simp, ?_⟩
        rintro other member _ listed rfl
        rw [List.mem_singleton.mp listed] at member
        exact absent member
      · intro other listed
        rw [List.mem_singleton.mp listed]
        exact .inr (by simpa using known)

private theorem forM_ok (lawful : table.IsLawful) {pairs : List π}
    (ends : (pairs.forM table.add).run before = .ok ((), after)) :
    Notes table pairs before after := by
  induction pairs generalizing before with
  | nil =>
    cases ends
    exact ⟨(lawful.write_rows _).symm, by simp, fun once => once, by simp⟩
  | cons pair rest inductionHypothesis =>
    obtain ⟨_, between, first, further⟩ := Transaction.bind_ok ends
    have noted := add_ok lawful first
    have later := inductionHypothesis further
    have write : after = table.write before (table.rows after) := by
      rw [later.write, noted.write, lawful.write_write, lawful.rows_write]
    refine ⟨write, ?_, fun once => later.once (noted.once once), ?_⟩
    · intro other
      rw [later.mem, noted.mem, List.mem_singleton, List.mem_cons, or_assoc]
    · intro other listed
      rcases List.mem_cons.mp listed with rfl | listed
      · exact noted.known other (List.mem_singleton.mpr rfl)
      · rcases later.known other listed with member | known
        · rcases noted.mem.mp member with member | same
          · exact .inl member
          · exact noted.known other same
        · rw [noted.write, lawful.known_write] at known
          exact .inr known

/-- Replaces the pairs of one owner. -/
def replace (table : PairTable π) (owned : π → Bool) (pairs : List π) : Transaction Unit := do
  Transaction.change fun store => table.write store ((table.rows store).filter (!owned ·))
  pairs.forM table.add

/-- The tables after the pairs of one owner were replaced. -/
structure Replaces (table : PairTable π) (owned : π → Bool) (pairs : List π)
    (before after : Store) : Prop where
  write : after = table.write before (table.rows after)
  mem : ∀ {pair},
    pair ∈ table.rows after ↔ (pair ∈ table.rows before ∧ owned pair = false) ∨ pair ∈ pairs
  once : (table.rows before).Nodup → (table.rows after).Nodup
  known : ∀ pair ∈ pairs, owned pair = true → table.known before pair = true

/-- Replacing the pairs of an owner leaves those of others. -/
theorem replace_ok (lawful : table.IsLawful) {owned : π → Bool} {pairs : List π}
    (ends : (table.replace owned pairs).run before = .ok ((), after)) :
    Replaces table owned pairs before after := by
  obtain ⟨_, cleared, clears, adds⟩ := Transaction.bind_ok ends
  cases clears
  have noted := forM_ok lawful adds
  refine ⟨?_, ?_, fun once => noted.once ?_, fun pair listed mine => ?_⟩
  · rw [← lawful.write_write]
    exact noted.write
  · intro pair
    rw [noted.mem, lawful.rows_write, List.mem_filter, Bool.not_eq_true']
  · rw [lawful.rows_write]
    exact once.filter _
  · rcases noted.known pair listed with member | known
    · rw [lawful.rows_write, List.mem_filter, mine] at member
      exact absurd member.2 (by decide)
    · rwa [lawful.known_write] at known

end PairTable

def heldTable : PairTable UserRole where
  rows := Store.userRoles
  write store rows := { store with userRoles := rows }
  known store pair := store.users.any (·.id == pair.user) && store.roles.any (·.id == pair.role)
  refusal pair := .dangling s!"role {pair.role}"

def listTable : PairTable GroupRole where
  rows := Store.groupRoles
  write store rows := { store with groupRoles := rows }
  known store pair := store.groups.any (·.id == pair.group) && store.roles.any (·.id == pair.role)
  refusal pair := .dangling s!"role {pair.role}"

theorem isLawful_heldTable : heldTable.IsLawful where
  rows_write _ _ := rfl
  write_write _ _ _ := rfl
  write_rows _ := rfl
  known_write _ _ _ := rfl

theorem isLawful_listTable : listTable.IsLawful where
  rows_write _ _ := rfl
  write_write _ _ _ := rfl
  write_rows _ := rfl
  known_write _ _ _ := rfl

/-- The statements on the two tables are the same one. -/
theorem setRoles_eq (user : String) (roles : List RoleId) : Users.setRoles user roles =
    heldTable.replace (·.user == user) (roles.map (UserRole.mk user)) := by
  rw [PairTable.replace, List.forM_eq_forM, List.forM_map]
  rfl

theorem setListedRoles_eq (group : GroupId) (roles : List RoleId) : Groups.setRoles group roles =
    listTable.replace (·.group == group) (roles.map (GroupRole.mk group)) := by
  rw [PairTable.replace, List.forM_eq_forM, List.forM_map]
  rfl

end RoleVault.Store
