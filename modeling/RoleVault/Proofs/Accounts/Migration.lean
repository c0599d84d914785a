import RoleVault.Proofs.Accounts.Integrity

/-!
Contract: what adding the builtin rows again does to tables that are in use.

Owns:
- that the statements on builtin groups and roles find all that they would add (`addGroup_present`,
  `addRole_present`);
- `migrate_furnished`: what is added again are the builtin links that were taken off their lists;
- `migration_restores_links`: so it is along every run, and a run that takes one off is given.

Does not own: that the builtin rows are always there (`RoleVault.Proofs.Accounts.Integrity`).
-/

namespace RoleVault.Store

open RoleVault.Time (Instant)

variable {store : Store} {now : Instant}

/-! ## Statements on what is there -/

/-- Adding a builtin group that is there does nothing. -/
theorem addGroup_present (furnished : Furnished store) {id : GroupId} {name : String} (note : String)
    (listed : ⟨id, name, true⟩ ∈ Seeds.groupEntries) :
    (Seeds.addGroup id name note now).run store = .ok ((), store) := by
  obtain ⟨row, member, same⟩ := List.mem_map.mp (furnished.groups.present _ listed)
  have sameId : row.id = id := congrArg Entry.id same
  have present : (store.groups.any fun row => row.id == id || row.name == name) = true := by
    rw [List.any_eq_true]
    exact ⟨row, member, by simp [sameId]⟩
  have reached : ¬ store.lastGroup < id := by
    rw [Int64.not_lt, ← sameId]
    exact furnished.groups.reached row.entry (List.mem_map_of_mem member)
  simp only [Seeds.addGroup, Transaction.change, StateT.run, present, reached, ↓reduceIte]

/-- Adding a builtin role that is there does nothing. -/
theorem addRole_present (furnished : Furnished store) (level : Role) (note : String) :
    (Seeds.addRole level note now).run store = .ok ((), store) := by
  have listed : ⟨level.builtinId, level.name, true⟩ ∈ Seeds.roleEntries := by
    cases level <;> decide
  obtain ⟨row, member, same⟩ := List.mem_map.mp (furnished.roles.present _ listed)
  have sameId : row.id = level.builtinId := congrArg Entry.id same
  have present :
      (store.roles.any fun row => row.id == level.builtinId || row.name == level.name) = true := by
    rw [List.any_eq_true]
    exact ⟨row, member, by simp [sameId]⟩
  have reached : ¬ store.lastRole < level.builtinId := by
    rw [Int64.not_lt, ← sameId]
    exact furnished.roles.reached row.entry (List.mem_map_of_mem member)
  simp only [Seeds.addRole, Transaction.change, StateT.run, present, reached, ↓reduceIte]

/-- The tables with links put on the lists that lack them. -/
def relinked (store : Store) (links : List GroupRole) : Store :=
  { store with groupRoles := store.groupRoles ++ links.filter (· ∉ store.groupRoles) }

private theorem relinked_eq_self_iff {links : List GroupRole} :
    store.relinked links = store ↔ ∀ link ∈ links, link ∈ store.groupRoles := by
  constructor
  · intro same
    have lists := congrArg Store.groupRoles same
    have none : links.filter (· ∉ store.groupRoles) = [] := List.append_right_eq_self.mp lists
    simpa using none
  · intro linked
    have none : links.filter (· ∉ store.groupRoles) = [] := by simpa using linked
    rw [relinked, none, List.append_nil]

private theorem link_present {group : GroupId} {role : RoleId}
    (grouped : ∃ row ∈ store.groups, row.id = group) (known : ∃ row ∈ store.roles, row.id = role) :
    (Seeds.link group role).run store = .ok ((), store.relinked [⟨group, role⟩]) := by
  rw [← any_key] at grouped known
  by_cases listed : ⟨group, role⟩ ∈ store.groupRoles
  · simp [Seeds.link, StateT.run, listed, relinked, pure, Except.pure]
  · simp [Seeds.link, StateT.run, listed, relinked, grouped, known, pure, Except.pure]

private theorem relinked_relinked {link other : GroupRole} (different : other ≠ link) :
    (store.relinked [link]).relinked [other] = store.relinked [link, other] := by
  by_cases listed : link ∈ store.groupRoles <;> by_cases otherListed : other ∈ store.groupRoles <;>
    simp [relinked, listed, otherListed, different]

/-! ## All statements -/

private theorem database_bind {α β : Type} (first : Database.Action α)
    (following : α → Database.Action β) (database : Database) :
    (first >>= following).run database =
      match first.run database with
      | (.ok value, between) => (following value).run between
      | (.error failure, after) => (.error failure, after) := by
  show (first.run >>= ExceptT.bindCont following) database = _
  show (ExceptT.bindCont following (first.run database).1).run (first.run database).2 = _
  cases first.run database with
  | mk outcome between => cases outcome <;> rfl

private theorem forM_transact_cons {first : Transaction Unit} {rest : List (Transaction Unit)}
    {between : Store} (runs : first.run store = .ok ((), between)) :
    ((first :: rest).forM Database.transact).run (.opened store) =
      (rest.forM Database.transact).run (.opened between) := by
  have ends : (Database.transact first).run (.opened store) = (.ok (), .opened between) := by
    simp only [Database.transact, ExceptT.run, ExceptT.mk, runs]
  show (Database.transact first >>= fun _ => rest.forM Database.transact).run (.opened store) = _
  rw [database_bind, ends]

namespace Seeds

/-- The builtin links. -/
def links : List GroupRole :=
  [⟨defaultGroup, Role.user.builtinId⟩, ⟨operatorGroup, Role.operator.builtinId⟩]

end Seeds

/-- Adding what is missing again succeeds, and all it adds are builtin links that were taken off. -/
theorem migrate_furnished (furnished : Furnished store) (again : Instant) :
    (Database.migrate again).run (.opened store) = (.ok (), .opened (store.relinked Seeds.links)) := by
  have grouped {id : GroupId} {name : String} (listed : ⟨id, name, true⟩ ∈ Seeds.groupEntries) :
      ∃ row ∈ store.groups, row.id = id := by
    obtain ⟨row, member, same⟩ := List.mem_map.mp (furnished.groups.present _ listed)
    exact ⟨row, member, congrArg Entry.id same⟩
  have known (level : Role) : ∃ row ∈ store.roles, row.id = level.builtinId := by
    have listed : ⟨level.builtinId, level.name, true⟩ ∈ Seeds.roleEntries := by
      cases level <;> decide
    obtain ⟨row, member, same⟩ := List.mem_map.mp (furnished.roles.present _ listed)
    exact ⟨row, member, congrArg Entry.id same⟩
  have defaultLink := link_present (@grouped defaultGroup "default" (by decide)) (known .user)
  have operatorLink := @link_present (store.relinked [⟨defaultGroup, Role.user.builtinId⟩]) _ _
    (@grouped operatorGroup "op_service" (by decide)) (known .operator)
  rw [relinked_relinked (by decide)] at operatorLink
  rw [Database.migrate, Seeds.statements,
    forM_transact_cons (addGroup_present furnished _ (by decide)),
    forM_transact_cons (addGroup_present furnished _ (by decide)),
    forM_transact_cons (addRole_present furnished _ _),
    forM_transact_cons (addRole_present furnished _ _),
    forM_transact_cons (addRole_present furnished _ _),
    forM_transact_cons defaultLink, forM_transact_cons operatorLink]
  rfl

end RoleVault.Store

namespace RoleVault.Accounts

open RoleVault.Store
open RoleVault.Vault (Workspace)

/-- After every run from a new installation, adding what is missing of the builtin rows succeeds and
leaves every table alone but the lists of the groups, on which it puts those builtin links that are not
there.  So it changes nothing exactly where both of them are still listed. -/
theorem migration_restores_links (installed again : Time.Instant) (workspace : Workspace)
    (events : List Event) :
    ∃ store files after, run events (State.fresh installed workspace) = ⟨.opened store, files⟩ ∧
      (Database.migrate again).run (.opened store) = (.ok (), .opened after) ∧
      after = { store with
        groupRoles := store.groupRoles ++ Seeds.links.filter (· ∉ store.groupRoles) } ∧
      (after = store ↔ ⟨defaultGroup, Role.user.builtinId⟩ ∈ store.groupRoles ∧
        ⟨operatorGroup, Role.operator.builtinId⟩ ∈ store.groupRoles) := by
  obtain ⟨store, files, leads, _, furnished⟩ := run_furnished installed workspace events
  refine ⟨store, files, store.relinked Seeds.links, leads, migrate_furnished furnished again, rfl, ?_⟩
  rw [relinked_eq_self_iff, Seeds.links, List.forall_mem_cons, List.forall_mem_cons]
  simp

/-! ## A list that was emptied -/

namespace Sample

def manager : Identity where
  id := ⟨List.replicate 16 1, List.length_replicate⟩
  name := "boss"
  displayName := "boss"
  group := operatorGroup
  roles := [.operator]

def emptying : List Event :=
  [.call context (.updateGroup manager defaultGroup { roles := some [] })]

def emptied : Store :=
  let fresh := freshTables (Time.Rfc3339.renderZulu now)
  { fresh with
    groups := fresh.groups.map (relabeledGroup defaultGroup none none now)
    groupRoles := [⟨operatorGroup, Role.operator.builtinId⟩] }

private theorem run_emptying : run emptying (State.fresh now files) = ⟨.opened emptied, files⟩ := by
  cbv

private theorem emptying_inside : ∀ event ∈ emptying, ∀ key, ¬ event.Adds key := by
  intro event listed key
  rw [List.mem_singleton.mp listed]
  exact fun adds => adds

end Sample

/-- It is not so that calls lead only to tables that adding the builtin rows again leaves alone: where
the list of the default group was emptied, the builtin link comes back. -/
theorem migration_undoes_emptied_list :
    ¬ ∀ (installed again : Time.Instant) (workspace : Workspace) (events : List Event),
      (∀ event ∈ events, ∀ key, ¬ event.Adds key) →
      ∀ store files, run events (State.fresh installed workspace) = ⟨.opened store, files⟩ →
        (Database.migrate again).run (.opened store) = (.ok (), .opened store) := by
  intro unchanging
  have unchanged := unchanging Sample.now Sample.now Sample.files Sample.emptying
    Sample.emptying_inside Sample.emptied Sample.files Sample.run_emptying
  obtain ⟨store, files, leads, _, furnished⟩ :=
    run_furnished Sample.now Sample.files Sample.emptying
  obtain rfl : Sample.emptied = store := by
    rw [Sample.run_emptying] at leads
    cases leads
    rfl
  rw [migrate_furnished furnished] at unchanged
  have same : Sample.emptied.relinked Seeds.links = Sample.emptied :=
    Database.opened.inj (congrArg Prod.snd unchanged)
  have linked : ⟨defaultGroup, Role.user.builtinId⟩ ∈ Sample.emptied.groupRoles :=
    relinked_eq_self_iff.mp same _ List.mem_cons_self
  exact absurd linked (by decide)

end RoleVault.Accounts
