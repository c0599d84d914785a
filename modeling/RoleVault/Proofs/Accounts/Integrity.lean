import RoleVault.Proofs.Accounts.Policy
import RoleVault.Proofs.Store.Furnished

/-!
Contract: whoever calls for whatever, the tables stay intact.

Owns:
- `Intact`, sound tables with a furnished catalog in which every user holds a role;
- that each call keeps tables intact and no role changes its level;
- `run_furnished`, that the catalog stays furnished even where users are added from outside;
- `run_intact`, which carries both along a run, and `tables_stay_intact`, what that comes to row by row.

Does not own: what single statements keep (`RoleVault.Proofs.Store.Furnished`).
-/

namespace RoleVault.Accounts

open RoleVault.Access (Assignment Grant)
open RoleVault.Store
open RoleVault.Vault (Workspace)

variable {before after store : Store} {context : Context}
variable {command : Command} {outcome : Except AccountsError Answer}

/-! ## The catalog -/

theorem Sweeps.catalog {users : List UserRecord} (sweeps : Sweeps context users before after) :
    SameCatalog before after := by
  induction sweeps with
  | ended users store => exact .refl store
  | skipped rest inductionHypothesis => exact inductionHypothesis
  | «sealed» kept rest inductionHypothesis =>
    exact ⟨inductionHypothesis.groups, inductionHypothesis.roles, inductionHypothesis.groupRoles,
      inductionHypothesis.lastGroup, inductionHypothesis.lastRole⟩

/-- A call that is there for users leaves the catalog alone. -/
theorem Effect.sameCatalog (effect : Effect context command before outcome after)
    (users : command.isCatalog = false) : SameCatalog before after := by
  cases effect with
  | refused => exact .refl _
  | looked => exact .refl _
  | operatorAdded _ inserts =>
    obtain ⟨_, _, added⟩ := inserts
    exact added.catalog
  | userAdded _ _ _ _ inserts =>
    obtain ⟨_, _, added⟩ := inserts
    exact added.catalog
  | userSaved _ _ _ _ _ _ _ _ _ saved => exact saved.catalog
  | userDeleted => exact ⟨rfl, rfl, rfl, rfl, rfl⟩
  | passwordSealed => exact ⟨rfl, rfl, rfl, rfl, rfl⟩
  | swept _ sweeps => exact sweeps.catalog
  | _ => cases users

/-- A name that is not changed is the one that is kept. -/
theorem getD_of_not_renames {present : String} {name : Option String}
    (keeps : Catalog.renames present name = false) : name.getD present = present := by
  cases name with
  | none => rfl
  | some given => simpa [Catalog.renames] using keeps

/-- No call takes away what is builtin in the catalog. -/
theorem Effect.furnished (schema : Schema before) (furnished : Furnished before)
    (effect : Effect context command before outcome after) : Furnished after := by
  have sameCatalog := effect.sameCatalog
  cases effect with
  | refused => exact furnished
  | roleAdded _ added => exact furnished.roleAdded added
  | roleRelabeled _ member same reads _ keeps =>
    apply furnished.roleRelabeled
    intro row rowMember rowSame builtin
    obtain rfl := schema.role_eq rowMember member (rowSame.trans same.symm)
    rw [← reads.name]
    exact getD_of_not_renames (keeps (reads.builtin.trans builtin))
  | roleDeleted _ _ _ custom =>
    obtain ⟨other, otherMember, same, custom⟩ := custom
    apply furnished.roleDeleted
    intro row member rowSame
    rw [schema.role_eq member otherMember (rowSame.trans same.symm)]
    exact custom
  | groupAdded _ added lists => exact (furnished.groupAdded added).listed lists
  | @groupRelabeled _ _ _ _ _ between _ _ found relabeled lists keeps =>
    obtain ⟨other, otherMember, same, name, marked⟩ := findGroup?_ok found
    have between : Furnished between := by
      apply furnished.groupRelabeled relabeled
      intro row member rowSame builtin
      obtain rfl := schema.group_eq member otherMember (rowSame.trans same.symm)
      rw [name]
      exact getD_of_not_renames (keeps (marked.symm.trans builtin))
    obtain rfl | ⟨_, _, lists⟩ := lists
    · exact between
    · exact between.listed lists
  | groupDeleted _ _ otherMember same custom =>
    apply furnished.groupDeleted
    intro row member rowSame
    rw [schema.group_eq member otherMember (rowSame.trans same.symm)]
    exact custom
  | _ => exact furnished.same (sameCatalog rfl)

/-- Nothing that happens takes away what is builtin in the catalog. -/
theorem Event.Changes.furnished {event : Event} (changes : event.Changes before after)
    (sound : Sound before) (furnished : Furnished before) : Furnished after := by
  cases changes with
  | called effect => exact effect.furnished sound.schema furnished
  | inserted added => exact furnished.same added.catalog
  | refused => exact furnished
  | moved => exact furnished

/-- Every run from a new installation leads to sound tables with a furnished catalog. -/
theorem run_furnished (installed : Time.Instant) (workspace : Workspace) (events : List Event) :
    ∃ store files, run events (State.fresh installed workspace) = ⟨.opened store, files⟩ ∧
      Sound store ∧ Furnished store := by
  rw [State.fresh, fresh_eq]
  exact run_tables (fun store => Sound store ∧ Furnished store) (fun _ => True)
    (fun _ _ _ _ changes kept => ⟨changes.sound kept.1, changes.furnished kept.1 kept.2⟩)
    (fun _ _ => trivial) ⟨sound_freshTables _, furnished_freshTables _⟩ workspace

/-- No call changes the level of a role. -/
theorem Effect.continues (effect : Effect context command before outcome after) :
    Continues before after := by
  have sameCatalog := effect.sameCatalog
  cases effect with
  | refused => exact .refl _
  | roleAdded _ added => exact .roleAdded added
  | roleRelabeled => exact .roleRelabeled _ _ _
  | roleDeleted => exact .roleDeleted _
  | groupAdded _ added lists =>
    apply Continues.of_same
    · rw [lists.same, added.same]
    · rw [lists.same, added.same]
  | @groupRelabeled _ _ _ _ _ between _ _ _ relabeled lists =>
    have between : Continues before between := by
      apply Continues.of_same
      · rw [relabeled.same]
      · rw [relabeled.same]
    obtain rfl | ⟨_, _, lists⟩ := lists
    · exact between
    · apply between.trans
      apply Continues.of_same
      · rw [lists.same]
      · rw [lists.same]
  | groupDeleted => exact .of_same rfl rfl
  | _ => exact .of_same (sameCatalog rfl).roles (sameCatalog rfl).lastRole

/-! ## Roles of users -/

def AllHold (store : Store) : Prop :=
  ∀ row ∈ store.users, ∃ role, ⟨row.id, role⟩ ∈ store.userRoles

namespace AllHold

private theorem of_ids (all : AllHold before)
    (ids : ∀ row ∈ after.users, ∃ source ∈ before.users, source.id = row.id)
    (userRoles : after.userRoles = before.userRoles) : AllHold after := by
  intro row member
  obtain ⟨source, sourceMember, same⟩ := ids row member
  rw [userRoles, ← same]
  exact all source sourceMember

theorem added {user : NewUser} {now : Time.Instant} (all : AllHold before)
    (added : Added user now before after) (some : user.roles ≠ []) : AllHold after := by
  intro row member
  rw [added.users, List.mem_append, List.mem_singleton] at member
  rcases member with member | rfl
  · obtain ⟨role, held⟩ := all row member
    refine ⟨role, ?_⟩
    rw [added.holds.held, if_neg (added.newId row member)]
    exact held
  · obtain ⟨role, listed⟩ := List.exists_mem_of_ne_nil _ some
    refine ⟨role, ?_⟩
    rw [added.holds.held]
    exact (if_pos rfl).mpr listed

theorem saved {user : UserRecord} {stored : Option String} {now : Time.Instant}
    (all : AllHold before) (saved : Saved user stored now before after) (some : user.grants ≠ []) :
    AllHold after := by
  intro row member
  by_cases same : row.id = user.id.text
  · obtain ⟨grant, listed⟩ := List.exists_mem_of_ne_nil _ some
    refine ⟨grant.id, ?_⟩
    rw [saved.holds.held, if_pos same]
    exact List.mem_map_of_mem listed
  · obtain ⟨source, sourceMember, sourceSame⟩ := saved.exists_key.mp ⟨row, member, rfl⟩
    obtain ⟨role, held⟩ := all source sourceMember
    refine ⟨role, ?_⟩
    rw [saved.holds.held, if_neg same, ← sourceSame]
    exact held

theorem without (all : AllHold store) (user : String) : AllHold (store.without user) := by
  intro row member
  obtain ⟨member, other⟩ := List.mem_filter.mp member
  obtain ⟨role, held⟩ := all row member
  exact ⟨role, List.mem_filter.mpr ⟨held, other⟩⟩

theorem storedChanged {id stored : String} {now : Time.Instant} (all : AllHold store) :
    AllHold { store with users := Users.modifyRow id (withStored stored now) store.users } := by
  refine all.of_ids ?_ rfl
  intro row member
  exact (exists_key_modifyRow (withStored_id stored now)).mp ⟨row, member, rfl⟩

theorem sweeps {users : List UserRecord} (all : AllHold before)
    (sweeps : Sweeps context users before after) : AllHold after := by
  induction sweeps with
  | ended users store => exact all
  | skipped rest inductionHypothesis => exact inductionHypothesis all
  | «sealed» kept rest inductionHypothesis => exact inductionHypothesis all.storedChanged

/-- What is read of a user grants something. -/
theorem grants_ne_nil {row : UserRow} {user : UserRecord} (all : AllHold store)
    (schema : Schema store) (member : row ∈ store.users) (reads : Reads store row user) :
    user.grants ≠ [] := by
  obtain ⟨role, held⟩ := all row member
  obtain ⟨roleRow, roleMember, rfl⟩ := schema.heldRole _ held
  intro none
  have described := reads.grants
  rw [none] at described
  have listed := mem_heldRoles.mpr ⟨roleMember, held⟩
  rw [List.map_eq_nil_iff.mp described] at listed
  cases listed

end AllHold

private theorem forCreate_ne_nil (caller : Identity) (grants : List Grant)
    (group : Option GroupId) :
    (Assignment.forCreate caller grants group).grants ≠ [] := by
  rw [Assignment.grants_forCreate]
  split
  · exact List.cons_ne_nil _ _
  · rename_i filled
    simpa using filled

private theorem forUpdate_ne_nil {current : Assignment} (filled : current.grants ≠ [])
    (grants : List Grant)
    (group : Option GroupId) : (Assignment.forUpdate current grants group).grants ≠ [] := by
  rw [Assignment.grants_forUpdate]
  split
  · exact filled
  · rename_i given
    simpa using given

private theorem Effect.allHold (sound : Sound before) (all : AllHold before)
    (effect : Effect context command before outcome after) : AllHold after := by
  have unnoticed := fun catalog => (effect.catalog sound catalog).2
  cases effect with
  | refused => exact all
  | looked => exact all
  | operatorAdded _ inserts =>
    obtain ⟨_, _, added⟩ := inserts
    exact all.added added (List.cons_ne_nil _ _)
  | userAdded _ _ _ _ inserts =>
    obtain ⟨_, _, added⟩ := inserts
    apply all.added added
    rw [CreateRequest.newUser, Ne, List.map_eq_nil_iff]
    exact forCreate_ne_nil _ _ _
  | userSaved _ member _ reads _ _ assigned _ _ saved =>
    subst assigned
    exact all.saved saved (forUpdate_ne_nil (all.grants_ne_nil sound.schema member reads) _ _)
  | userDeleted => exact all.without _
  | passwordSealed => exact all.storedChanged
  | swept _ sweeps => exact all.sweeps sweeps
  | _ =>
    have same := unnoticed rfl
    refine all.of_ids ?_ same.userRoles
    rw [same.users]
    exact fun row member => ⟨row, member, rfl⟩

/-! ## Intact tables -/

/-- Sound tables with a furnished catalog, in which every user holds a role. -/
structure Intact (store : Store) : Prop where
  sound : Sound store
  furnished : Furnished store
  holders : AllHold store

private theorem intact_freshTables (stamp : String) : Intact (freshTables stamp) :=
  ⟨sound_freshTables stamp, furnished_freshTables stamp, nofun⟩

/-- An event keeps tables intact, and no role changes its level. -/
theorem Event.Changes.intact {event : Event} (inside : ∀ key, ¬ event.Adds key)
    (changes : event.Changes before after) (intact : Intact before) :
    Intact after ∧ Continues before after := by
  have sound := intact.sound
  have after := changes.sound sound
  cases changes with
  | called effect =>
    exact ⟨⟨after, effect.furnished sound.schema intact.furnished,
      effect.allHold sound intact.holders⟩, effect.continues⟩
  | @inserted user _ _ _ _ => exact absurd rfl (inside user.id.text)
  | refused => exact ⟨intact, .refl _⟩
  | moved => exact ⟨intact, .refl _⟩

/-- As long as no user is added from outside, a run keeps tables intact, and levels stay with their
keys. -/
theorem run_intact {events : List Event} (inside : ∀ event ∈ events, ∀ key, ¬ event.Adds key)
    (intact : Intact store) (workspace : Workspace) :
    ∃ after files, run events ⟨.opened store, workspace⟩ = ⟨.opened after, files⟩ ∧
      Intact after ∧ Continues store after := by
  apply run_tables (fun after => Intact after ∧ Continues store after)
    (fun event => ∀ key, ¬ event.Adds key) _ inside ⟨intact, .refl store⟩ workspace
  rintro event before after inside changes ⟨intact, continues⟩
  obtain ⟨afterIntact, further⟩ := changes.intact inside intact
  exact ⟨afterIntact, continues.trans further⟩

/-! ## Row by row -/

namespace Intact

/-- Intact tables have each builtin role under its own key and name, and with its own level. -/
theorem role (intact : Intact store) (level : Role) :
    ∃ row ∈ store.roles, row.id = level.builtinId ∧ row.name = level.name ∧ row.builtin = true ∧
      row.level = level.name ∧ row.readGrant = .ok (Grant.builtin level) := by
  have listed : ⟨level.builtinId, level.name, true⟩ ∈ Seeds.roleEntries := by
    cases level <;> decide
  obtain ⟨row, member, same⟩ := List.mem_map.mp (intact.furnished.roles.present _ listed)
  obtain ⟨sameId, sameName, builtin⟩ := Entry.mk.inj same
  have known := intact.sound.leveled.builtin row member level sameId
  exact ⟨row, member, sameId, sameName, builtin, Role.ofName?_eq_some_iff.mp known,
    readGrant_ok.mpr ⟨sameId, known⟩⟩

private theorem customRole (intact : Intact store) {row : RoleRow} (member : row ∈ store.roles)
    (other : ∀ level : Role, row.id ≠ level.builtinId) : row.builtin = false ∧ 999 < row.id := by
  rcases intact.furnished.roles.others _ (List.mem_map_of_mem member) with listed | custom
  · obtain ⟨level, _, same⟩ := List.mem_map.mp listed
    exact absurd (congrArg Entry.id same).symm (other level)
  · exact custom

theorem group (intact : Intact store) {id : GroupId} {name : String}
    (listed : ⟨id, name, true⟩ ∈ Seeds.groupEntries) :
    ∃ row ∈ store.groups, row.id = id ∧ row.name = name ∧ row.builtin = true := by
  obtain ⟨row, member, same⟩ := List.mem_map.mp (intact.furnished.groups.present _ listed)
  exact ⟨row, member, Entry.mk.inj same⟩

private theorem customGroup (intact : Intact store) {row : GroupRow} (member : row ∈ store.groups)
    (notDefault : row.id ≠ defaultGroup) (notOperator : row.id ≠ operatorGroup) :
    row.builtin = false ∧ 999 < row.id := by
  rcases intact.furnished.groups.others _ (List.mem_map_of_mem member) with listed | custom
  · simp only [Seeds.groupEntries, List.mem_cons, List.not_mem_nil, or_false] at listed
    rcases listed with same | same
    · exact absurd (congrArg Entry.id same) notDefault
    · exact absurd (congrArg Entry.id same) notOperator
  · exact custom

end Intact

/-- After every run from a new installation to which no one adds users from outside, the tables keep
their rules; the builtin roles are there under their names and grant the levels that the builtin grants
name; so are the builtin groups; all other roles and groups are not builtin and lie above the builtin
keys; every user holds a role; and wherever the run goes on to, a role that is still or again found
under its key has the level that it had. -/
theorem tables_stay_intact (installed : Time.Instant) (workspace : Workspace) {events : List Event}
    (inside : ∀ event ∈ events, ∀ key, ¬ event.Adds key) :
    ∃ store files, run events (State.fresh installed workspace) = ⟨.opened store, files⟩ ∧
      Sound store ∧
      (∀ level : Role, ∃ row ∈ store.roles, row.id = level.builtinId ∧ row.name = level.name ∧
        row.builtin = true ∧ row.level = level.name ∧
        row.readGrant = .ok (Grant.builtin level)) ∧
      (∀ row ∈ store.roles, (∀ level : Role, row.id ≠ level.builtinId) →
        row.builtin = false ∧ 999 < row.id) ∧
      (∃ row ∈ store.groups, row.id = defaultGroup ∧ row.name = "default" ∧ row.builtin = true) ∧
      (∃ row ∈ store.groups, row.id = operatorGroup ∧ row.name = "op_service" ∧
        row.builtin = true) ∧
      (∀ row ∈ store.groups, row.id ≠ defaultGroup → row.id ≠ operatorGroup →
        row.builtin = false ∧ 999 < row.id) ∧
      (∀ user ∈ store.users, ∃ role, ⟨user.id, role⟩ ∈ store.userRoles) ∧
      ∀ later : List Event, (∀ event ∈ later, ∀ key, ¬ event.Adds key) →
        ∃ last files, run (events ++ later) (State.fresh installed workspace) =
            ⟨.opened last, files⟩ ∧
          ∀ row ∈ store.roles, ∀ other ∈ last.roles, other.id = row.id →
            other.level = row.level := by
  rw [State.fresh, fresh_eq]
  obtain ⟨store, files, leads, intact, -⟩ :=
    run_intact inside (intact_freshTables (Time.Rfc3339.renderZulu installed.truncate)) workspace
  refine ⟨store, files, leads, intact.sound, intact.role, fun row => intact.customRole,
    intact.group (by decide), intact.group (by decide), fun row => intact.customGroup,
    intact.holders, ?_⟩
  intro later laterInside
  obtain ⟨last, lastFiles, leadsOn, -, continues⟩ := run_intact laterInside intact files
  refine ⟨last, lastFiles, ?_, ?_⟩
  · rw [run_append, leads, leadsOn]
  · intro row member other otherMember same
    exact continues.level_eq intact.sound.schema intact.furnished member otherMember same

/-- A first operator is added to tables that stay intact: it holds a role, and the builtin role of
group administrators still grants what its key stands for. -/
theorem first_operator_leaves_tables_intact :
    (∀ event ∈ [Event.call Sample.context (.createOperator Sample.request)],
      ∀ key, ¬ event.Adds key) ∧
      ∃ store files, run [.call Sample.context (.createOperator Sample.request)]
          (State.fresh Sample.now Sample.files) = ⟨.opened store, files⟩ ∧
        (∃ user ∈ store.users, user.name = "root" ∧ ∃ role, ⟨user.id, role⟩ ∈ store.userRoles) ∧
        ∃ row ∈ store.roles, row.id = 888 ∧ row.name = "admin" ∧
          row.readGrant = .ok ⟨888, .admin⟩ := by
  have inside : ∀ event ∈ [Event.call Sample.context (.createOperator Sample.request)],
      ∀ key, ¬ event.Adds key := by
    intro event listed key
    rw [List.mem_singleton.mp listed]
    exact id
  obtain ⟨store, files, leads, _, roles, _, _, _, _, holders, _⟩ :=
    tables_stay_intact Sample.now Sample.files inside
  obtain ⟨later, created⟩ := Sample.exec_createOperator
  have same : Sample.tables = store := by
    rw [run_cons, run_nil, Event.apply, created] at leads
    cases leads
    rfl
  subst same
  obtain ⟨row, member, rowId, rowName, _, _, grant⟩ := roles .admin
  exact ⟨inside, Sample.tables, files, leads,
    ⟨Sample.row, List.mem_cons_self, rfl, holders Sample.row List.mem_cons_self⟩,
    row, member, rowId, rowName, grant⟩

end RoleVault.Accounts
