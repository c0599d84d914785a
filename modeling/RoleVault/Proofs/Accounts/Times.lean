import RoleVault.Proofs.Accounts.Integrity
import RoleVault.Proofs.Accounts.Login

/-!
Contract: the times that the rows of the tables carry can be read.

Owns:
- that every run leads to users of which the times can be read (`run_timed`);
- `CatalogFits`, that the times of all roles and groups are as a property of times says, and
  `Effect.catalogFits`, that every call keeps it that writes fitting times;
- `Readable`, tables of which every row can be read, and `run_readable`, that every run leads to such
  where the builtin entries can be read.

Does not own: what is read of a row (`RoleVault.Proofs.Store.Reading`).
-/

namespace RoleVault.Accounts

open RoleVault.Store
open RoleVault.Time
open RoleVault.Vault (Workspace)

variable {before after store : Store} {now : Instant}

/-! ## Users -/

/-- At a time that can be read back no event makes times of users unreadable. -/
theorem Event.Changes.timed {event : Event} {before after : Store} (dated : event.IsDated)
    (changes : event.Changes before after) (sound : Sound before) (timed : Timed before) :
    Timed after := by
  cases changes with
  | called effect => exact effect.timed sound timed dated
  | inserted added => exact timed.added dated added
  | refused => exact timed
  | moved => exact timed

/-- Every run from a new installation leads to tables that can be read. -/
theorem run_timed (installed : Instant) (workspace : Workspace) {events : List Event}
    (dated : ∀ event ∈ events, event.IsDated) :
    ∃ store files, run events (State.fresh installed workspace) = ⟨.opened store, files⟩ ∧
      Sound store ∧ Timed store := by
  rw [State.fresh, fresh_eq]
  apply run_tables (fun store => Sound store ∧ Timed store) Event.IsDated ?_ dated
    ⟨sound_freshTables _, timed_freshTables _⟩ workspace
  intro event before after admits changes readable
  exact ⟨changes.sound readable.1, changes.timed admits readable.1 readable.2⟩

/-! ## The catalog -/

/-- A property of an entry of the catalog: whether it is builtin, when it was created and when it was
changed. -/
abbrev TimesProperty := Bool → String → String → Prop

/-- The property allows to write at a time, and keeps what it says of the creation of an entry. -/
structure TimesProperty.Admits (fits : TimesProperty) (now : Instant) : Prop where
  new : fits false (Rfc3339.renderOffset now) (Rfc3339.renderOffset now)
  touched : ∀ {builtin : Bool} {createdAt updatedAt : String}, fits builtin createdAt updatedAt →
    fits builtin createdAt (Rfc3339.renderOffset now)

structure CatalogFits (fits : TimesProperty) (store : Store) : Prop where
  roles : ∀ row ∈ store.roles, fits row.builtin row.createdAt row.updatedAt
  groups : ∀ row ∈ store.groups, fits row.builtin row.createdAt row.updatedAt

namespace CatalogFits

variable {fits : TimesProperty}

/-- A property of the times in the catalog depends on roles and groups alone. -/
theorem of_same (catalog : CatalogFits fits before) (roles : after.roles = before.roles)
    (groups : after.groups = before.groups) : CatalogFits fits after := by
  constructor
  · rw [roles]
    exact catalog.roles
  · rw [groups]
    exact catalog.groups

variable (catalog : CatalogFits fits before) (admits : fits.Admits now)

include catalog admits

theorem roleAdded {id : RoleId} {role : NewRole} (added : RoleAdded id role now before after) :
    CatalogFits fits after := by
  rw [added.same]
  refine ⟨List.forall_mem_append.mpr ⟨catalog.roles, ?_⟩, catalog.groups⟩
  intro row member
  rw [List.mem_singleton.mp member]
  exact admits.new

theorem groupAdded {id : GroupId} {name note : String}
    (added : GroupAdded id name note now before after) : CatalogFits fits after := by
  rw [added.same]
  refine ⟨catalog.roles, List.forall_mem_append.mpr ⟨catalog.groups, ?_⟩⟩
  intro row member
  rw [List.mem_singleton.mp member]
  exact admits.new

theorem roleRelabeled (id : RoleId) (name note : Option String) :
    CatalogFits fits
      { before with roles := before.roles.map (relabeledRole id name note now) } := by
  refine ⟨List.forall_mem_map.mpr fun row member => ?_, catalog.groups⟩
  unfold relabeledRole
  split
  · exact admits.touched (catalog.roles row member)
  · exact catalog.roles row member

theorem groupRelabeled {id : GroupId} {name note : Option String}
    (relabeled : Relabeled id name note now before after) : CatalogFits fits after := by
  rw [relabeled.same]
  refine ⟨catalog.roles, List.forall_mem_map.mpr fun row member => ?_⟩
  unfold relabeledGroup
  split
  · exact admits.touched (catalog.groups row member)
  · exact catalog.groups row member

end CatalogFits

/-- No call spoils a property of the times in the catalog that its own time has. -/
theorem Effect.catalogFits {fits : TimesProperty} {context : Context} {command : Command}
    {outcome : Except AccountsError Answer} (catalog : CatalogFits fits before)
    (admits : fits.Admits context.now) (effect : Effect context command before outcome after) :
    CatalogFits fits after := by
  have sameCatalog := effect.sameCatalog
  cases effect with
  | refused => exact catalog
  | roleAdded _ added => exact catalog.roleAdded admits added
  | roleRelabeled => exact catalog.roleRelabeled admits _ _ _
  | roleDeleted =>
    exact ⟨fun row member => catalog.roles row (List.mem_of_mem_filter member), catalog.groups⟩
  | groupAdded _ added lists =>
    refine (catalog.groupAdded admits added).of_same ?_ ?_ <;> rw [lists.same]
  | groupRelabeled _ _ relabeled lists =>
    obtain rfl | ⟨_, _, lists⟩ := lists
    · exact catalog.groupRelabeled admits relabeled
    · refine (catalog.groupRelabeled admits relabeled).of_same ?_ ?_ <;> rw [lists.same]
  | groupDeleted =>
    exact ⟨catalog.roles, fun row member => catalog.groups row (List.mem_of_mem_filter member)⟩
  | _ => exact catalog.of_same (sameCatalog rfl).roles (sameCatalog rfl).groups

/-- Events keep a property of the catalog that allows to write at all times that can be read. -/
theorem Event.Changes.catalogFits {fits : TimesProperty} {event : Event}
    (admits : ∀ now : Instant, now.IsDated → fits.Admits now) (dated : event.IsDated)
    (changes : event.Changes before after) (catalog : CatalogFits fits before) :
    CatalogFits fits after := by
  cases changes with
  | called effect => exact effect.catalogFits catalog (admits _ dated)
  | inserted added => exact catalog.of_same added.catalog.roles added.catalog.groups
  | refused => exact catalog
  | moved => exact catalog

/-! ## Readable tables -/

/-- Sound tables in which the times of all users, roles and groups can be read. -/
structure Readable (store : Store) : Prop where
  sound : Sound store
  users : Timed store
  catalog : CatalogFits (fun _ => AreTimes) store

private theorem readable_freshTables {installed : Instant} (dated : installed.IsDated) :
    Readable (freshTables (Rfc3339.renderZulu installed.truncate)) := by
  have times : AreTimes (Rfc3339.renderZulu installed.truncate)
      (Rfc3339.renderZulu installed.truncate) := by
    have whole : installed.truncate.IsDated := dated
    have reads := Rfc3339.parse?_renderZulu whole
    exact ⟨⟨_, reads⟩, ⟨_, reads⟩⟩
  refine ⟨sound_freshTables _, timed_freshTables _, ?_, ?_⟩
  · simp [freshTables, times]
  · simp [freshTables, times]

private theorem admits_areTimes {now : Instant} (dated : now.IsDated) :
    TimesProperty.Admits (fun _ => AreTimes) now :=
  ⟨areTimes_new dated, fun times => times.touched dated⟩

/-- At a time that can be read back no event makes the tables unreadable. -/
theorem Event.Changes.readable {event : Event} (dated : event.IsDated)
    (changes : event.Changes before after) (readable : Readable before) : Readable after :=
  ⟨changes.sound readable.sound, changes.timed dated readable.sound readable.users,
    changes.catalogFits (fun _ => admits_areTimes) dated readable.catalog⟩

/-- Every run from a new installation, on clocks that can be read back, leads to tables of which every
row can be read. -/
theorem run_readable {installed : Instant} (installedDated : installed.IsDated)
    (workspace : Workspace) {events : List Event} (dated : ∀ event ∈ events, event.IsDated) :
    ∃ store files, run events (State.fresh installed workspace) = ⟨.opened store, files⟩ ∧
      Readable store := by
  rw [State.fresh, fresh_eq]
  exact run_tables Readable Event.IsDated
    (fun _ _ _ dated changes readable => changes.readable dated readable) dated
    (readable_freshTables installedDated) workspace

end RoleVault.Accounts
