import RoleVault.Proofs.Accounts.Policy

/-!
Contract: service operators live in the operator group.

Owns:
- `Settled`, tables with the operator group, in which no operator belongs to another group;
- `operators_in_operator_group`: whoever calls for whatever, every run leads to such tables.

Does not own: who may make a user an operator (`RoleVault.Proofs.Accounts.Escalation`).

A role of any key counts by the level that its row names, so that roles of the catalog that were added
later are operator roles too.
-/

namespace RoleVault.Accounts

open RoleVault.Access (Assignment Grant)
open RoleVault.Store
open RoleVault.Vault (Workspace)

variable {before after store : Store} {context : Context}

/-- Sound tables with the operator group, to which every service operator belongs. -/
structure Settled (store : Store) : Prop where
  sound : Sound store
  group : ∃ row ∈ store.groups, row.id = operatorGroup ∧ row.builtin = true
  operators : ∀ row ∈ store.users, Role.operator ∈ store.levelsHeld row.id →
    row.group = operatorGroup

namespace Settled

theorem freshTables (stamp : String) : Settled (freshTables stamp) where
  sound := sound_freshTables stamp
  group := ⟨_, List.mem_cons_of_mem _ List.mem_cons_self, rfl, rfl⟩
  operators := nofun

/-! ## Changes of the catalog -/

/-- Groups may come and get other names, but the builtin ones stay. -/
theorem catalog (settled : Settled before) (sound : Sound after)
    (unnoticed : Unnoticed before after)
    (groups : ∀ row ∈ before.groups, row.builtin = true →
      ∃ other ∈ after.groups, other.id = row.id ∧ other.builtin = true) : Settled after := by
  refine ⟨sound, ?_, ?_⟩
  · obtain ⟨row, member, same, builtin⟩ := settled.group
    obtain ⟨other, otherMember, otherSame, otherBuiltin⟩ := groups row member builtin
    exact ⟨other, otherMember, otherSame.trans same, otherBuiltin⟩
  · intro row member operator
    rw [unnoticed.users] at member
    exact settled.operators row member ((unnoticed.levels row.id .operator).mp operator)

/-! ## Changes of users -/

/-- The catalog stays, and so do the group and the roles of every user that is not written. -/
theorem users (settled : Settled before) (sound : Sound after)
    (catalog : SameCatalog before after)
    (operators : ∀ row ∈ after.users, Role.operator ∈ after.levelsHeld row.id →
      row.group = operatorGroup) : Settled after where
  sound := sound
  group := catalog.groups ▸ settled.group
  operators := operators

/-- A user that is given grants is settled where the assignment is. -/
theorem written {row : UserRow} {assignment : Assignment}
    (holds : HoldsExactly row.id (assignment.grants.map Grant.id) before after)
    (catalog : SameCatalog before after) (truthful : Truthful before assignment.grants)
    (isSettled : assignment.IsSettled) (group : row.group = assignment.group)
    (operator : Role.operator ∈ after.levelsHeld row.id) : row.group = operatorGroup := by
  rw [holds.mem_levels catalog truthful] at operator
  rw [group]
  exact isSettled (Role.highest_eq_operator_iff.mpr operator)

/-- A user that is added under a settled assignment belongs where it should. -/
theorem inserted {request : CreateRequest} {assignment : Assignment} (settled : Settled before)
    (truthful : Truthful before assignment.grants) (isSettled : assignment.IsSettled)
    (inserts : Inserts context request assignment before after) : Settled after := by
  obtain ⟨stored, _, added⟩ := inserts
  refine settled.users (settled.sound.added added) added.catalog ?_
  intro row member operator
  rw [added.users, List.mem_append, List.mem_singleton] at member
  rcases member with member | rfl
  · have different := added.newId row member
    rw [added.holds.others added.catalog different] at operator
    exact settled.operators row member operator
  · exact written added.holds added.catalog truthful isSettled rfl operator

/-- A user that is changed under a settled assignment belongs where it should. -/
theorem saved {user : UserRecord} {request : UpdateRequest} {assignment : Assignment}
    {stored : Option String} (settled : Settled before)
    (truthful : Truthful before assignment.grants) (isSettled : assignment.IsSettled)
    (saved : Saved (request.applyTo user assignment) stored context.now before after) :
    Settled after := by
  refine settled.users (settled.sound.saved saved) saved.catalog ?_
  intro row member operator
  rw [saved.users, mem_modifyRow] at member
  obtain ⟨source, sourceMember, ⟨same, rfl⟩ | ⟨different, rfl⟩⟩ := member
  · rw [rewritten_id] at operator
    have holds := same ▸ saved.holds
    exact written holds saved.catalog truthful isSettled rfl operator
  · rw [saved.holds.others saved.catalog different] at operator
    exact settled.operators row sourceMember operator

theorem without (settled : Settled store) (user : String) : Settled (store.without user) := by
  refine settled.users settled.sound.without ⟨rfl, rfl, rfl, rfl, rfl⟩ ?_
  intro row member operator
  obtain ⟨role, roleMember, held, named⟩ := mem_levelsHeld.mp operator
  exact settled.operators row (List.mem_of_mem_filter member)
    (mem_levelsHeld.mpr ⟨role, roleMember, List.mem_of_mem_filter held, named⟩)

theorem storedChanged {id stored : String} {now : Time.Instant} (settled : Settled store) :
    Settled { store with users := Users.modifyRow id (withStored stored now) store.users } := by
  refine settled.users settled.sound.storedChanged ⟨rfl, rfl, rfl, rfl, rfl⟩ ?_
  intro row member operator
  obtain ⟨source, sourceMember, ⟨_, rfl⟩ | ⟨_, rfl⟩⟩ := mem_modifyRow.mp member
  · exact settled.operators source sourceMember operator
  · exact settled.operators row sourceMember operator

theorem sweeps {users : List UserRecord} (settled : Settled before)
    (sweeps : Sweeps context users before after) : Settled after := by
  induction sweeps with
  | ended users store => exact settled
  | skipped rest inductionHypothesis => exact inductionHypothesis settled
  | «sealed» kept rest inductionHypothesis => exact inductionHypothesis settled.storedChanged

end Settled

/-! ## Calls -/

/-- A call on the catalog leaves builtin groups builtin. -/
theorem Effect.groups {command : Command} {outcome : Except AccountsError Answer}
    (schema : Schema before) (effect : Effect context command before outcome after)
    (catalog : command.isCatalog = true) :
    ∀ row ∈ before.groups, row.builtin = true →
      ∃ other ∈ after.groups, other.id = row.id ∧ other.builtin = true := by
  intro row member builtin
  cases effect with
  | refused => exact ⟨row, member, rfl, builtin⟩
  | roleAdded _ added =>
    rw [added.same]
    exact ⟨row, member, rfl, builtin⟩
  | roleRelabeled => exact ⟨row, member, rfl, builtin⟩
  | roleDeleted => exact ⟨row, member, rfl, builtin⟩
  | groupAdded _ added lists =>
    rw [lists.same, added.same]
    exact ⟨row, List.mem_append_left _ member, rfl, builtin⟩
  | @groupRelabeled _ id request _ _ between _ _ _ relabeled lists =>
    have groups : after.groups = between.groups := by
      obtain rfl | ⟨_, _, lists⟩ := lists
      · rfl
      · rw [lists.same]
    rw [groups, relabeled.same]
    exact ⟨relabeledGroup id request.name request.note context.now row,
      List.mem_map_of_mem member, by simp, by simpa using builtin⟩
  | groupDeleted _ _ deletedMember same custom =>
    refine ⟨row, List.mem_filter.mpr ⟨member, ?_⟩, rfl, builtin⟩
    rw [bne_iff_ne]
    intro deleted
    obtain rfl := schema.group_eq member deletedMember (deleted.trans same.symm)
    rw [builtin] at custom
    cases custom
  | _ => cases catalog

/-- After a call all service operators still belong to the operator group. -/
theorem Effect.settled {command : Command} {outcome : Except AccountsError Answer}
    (settled : Settled before) (effect : Effect context command before outcome after) :
    Settled after := by
  have sound := settled.sound
  have catalog := effect.catalog sound
  have groups := effect.groups sound.schema
  cases effect with
  | refused => exact settled
  | looked => exact settled
  | operatorAdded _ inserts =>
    exact settled.inserted (sound.leveled.truthful_builtin .operator) (fun _ => rfl) inserts
  | userAdded _ _ granted _ inserts =>
    exact settled.inserted (truthful_forCreate sound granted) Assignment.isSettled_forCreate inserts
  | userSaved _ _ _ reads _ granted assigned _ _ saved =>
    subst assigned
    exact settled.saved (truthful_forUpdate sound.schema reads granted)
      (Assignment.isSettled_forUpdate _) saved
  | userDeleted _ _ _ _ => exact settled.without _
  | passwordSealed _ _ _ _ => exact settled.storedChanged
  | swept _ sweeps => exact settled.sweeps sweeps
  | _ => exact settled.catalog (catalog rfl).1 (catalog rfl).2 (groups rfl)

/-- An event that adds no user from outside leaves service operators in their group. -/
theorem Event.Changes.settled {event : Event} (inside : ∀ key, ¬ event.Adds key)
    (changes : event.Changes before after) (settled : Settled before) : Settled after := by
  cases changes with
  | called effect => exact effect.settled settled
  | @inserted user _ _ _ _ => exact absurd rfl (inside user.id.text)
  | refused => exact settled
  | moved => exact settled

/-- After every run from a new installation to which no one adds users from outside, the operator
group is there, and every user that holds a role of the operator level, be it builtin or not, belongs
to it. -/
theorem operators_in_operator_group (installed : Time.Instant) (workspace : Workspace)
    {events : List Event} (inside : ∀ event ∈ events, ∀ key, ¬ event.Adds key) :
    ∃ store files, run events (State.fresh installed workspace) = ⟨.opened store, files⟩ ∧
      (∃ group ∈ store.groups, group.id = operatorGroup) ∧
      ∀ row ∈ store.users, ∀ role ∈ store.roles, ⟨row.id, role.id⟩ ∈ store.userRoles →
        Role.ofName? role.level = some .operator → row.group = operatorGroup := by
  rw [State.fresh, fresh_eq]
  obtain ⟨store, files, leads, settled⟩ := run_tables Settled (fun event => ∀ key, ¬ event.Adds key)
    (fun event before after inside changes settled => changes.settled inside settled) inside
    (Settled.freshTables _) workspace
  refine ⟨store, files, leads, ?_, ?_⟩
  · obtain ⟨row, member, same, _⟩ := settled.group
    exact ⟨row, member, same⟩
  · intro row member role roleMember held named
    exact settled.operators row member (mem_levelsHeld.mpr ⟨role, roleMember, held, named⟩)

/-- A first service operator belongs to the operator group, whatever its request says. -/
theorem first_operator_in_operator_group :
    (∀ event ∈ [Event.call Sample.context (.createOperator Sample.request)],
      ∀ key, ¬ event.Adds key) ∧
      ∃ store files, run [.call Sample.context (.createOperator Sample.request)]
          (State.fresh Sample.now Sample.files) = ⟨.opened store, files⟩ ∧
        ∃ row ∈ store.users, ⟨row.id, Role.operator.builtinId⟩ ∈ store.userRoles ∧
          row.group = operatorGroup := by
  have inside : ∀ event ∈ [Event.call Sample.context (.createOperator Sample.request)],
      ∀ key, ¬ event.Adds key := by
    intro event listed key
    rw [List.mem_singleton.mp listed]
    exact id
  obtain ⟨store, files, leads, _, operators⟩ :=
    operators_in_operator_group Sample.now Sample.files inside
  obtain ⟨later, created⟩ := Sample.exec_createOperator
  have same : Sample.tables = store := by
    rw [run_cons, run_nil, Event.apply, created] at leads
    cases leads
    rfl
  subst same
  refine ⟨inside, Sample.tables, files, leads, Sample.row, List.mem_cons_self,
    List.mem_cons_self, ?_⟩
  obtain ⟨role, roleMember, held, named⟩ := mem_levelsHeld.mp
    (Role.highest_eq_operator_iff.mp Sample.highestHeld_row)
  exact operators Sample.row List.mem_cons_self role roleMember held named

end RoleVault.Accounts
