import Mathlib
import RoleVault.Proofs.Accounts.Patch
import RoleVault.Proofs.Accounts.Times
import RoleVault.Proofs.Store.Alike

/-!
Contract: the roles that a request lists are a set.

Owns:
- `EndAlike`, that two operations end the same in one state, and its rules for the kinds of steps;
- `Alike`, assignments with the same grants, which the gate and the vault do not tell apart;
- that an update may as well ask the gate for an assignment that stays (`exec_checked`);
- `role_lists_are_sets`, that neither the order of the roles in a request nor their repetition matters.

Does not own: what is written in either case (`RoleVault.Proofs.Accounts.Patch` for updates).
-/

namespace RoleVault.Accounts

open RoleVault.Access (Assignment Grant)
open RoleVault.Store
open RoleVault.Accounts.Action
open RoleVault.Time
open RoleVault.Vault (Workspace)

variable {store : Store}

/-! ## Two operations in one state -/

/-- Whether two failures are of the same kind, whatever they say. -/
def SameKind (left right : AccountsError) : Prop :=
  left.ctorIdx = right.ctorIdx

/-- Whether two operations both fail, in the same way, or both succeed. -/
inductive SameOutcome {α β : Type} : Except AccountsError α → Except AccountsError β → Prop where
  | failed {left right : AccountsError} (kind : SameKind left right) :
    SameOutcome (.error left) (.error right)
  | succeeded (left : α) (right : β) : SameOutcome (.ok left) (.ok right)

/-- Whether two operations, each by itself in a state, both fail, in the same way, or both succeed, and
the tables that they leave are alike. -/
def EndAlike {α β : Type} (alike : Store → Store → Prop) (left : Action α) (right : Action β)
    (state : State) : Prop :=
  ∃ leftOutcome leftStore leftFiles rightOutcome rightStore rightFiles,
    exec left state = (leftOutcome, ⟨.opened leftStore, leftFiles⟩) ∧
      exec right state = (rightOutcome, ⟨.opened rightStore, rightFiles⟩) ∧
      SameOutcome leftOutcome rightOutcome ∧ alike leftStore rightStore

/-- Whether two operations end the same on some tables, whatever the files. -/
def Together {α β : Type} (alike : Store → Store → Prop) (left : Action α) (right : Action β)
    (store : Store) : Prop :=
  ∀ files, EndAlike alike left right ⟨.opened store, files⟩

section Rules

variable {α β γ δ : Type} {alike : Store → Store → Prop}

namespace Together

variable {left : Action α} {right : Action β}

/-- Two operations that both fail, with failures of one kind, end alike. -/
theorem refused {leftFailure rightFailure : AccountsError} (self : alike store store)
    (kind : SameKind leftFailure rightFailure)
    (leftEnds : ∀ files, exec left ⟨.opened store, files⟩ =
      (.error leftFailure, ⟨.opened store, files⟩))
    (rightEnds : ∀ files, exec right ⟨.opened store, files⟩ =
      (.error rightFailure, ⟨.opened store, files⟩)) : Together alike left right store :=
  fun files => ⟨_, _, _, _, _, _, leftEnds files, rightEnds files, .failed kind, self⟩

/-- Two operations that leave tables alike end alike. -/
theorem written {leftAfter rightAfter : Store} {leftValue : α} {rightValue : β}
    (same : alike leftAfter rightAfter)
    (leftEnds : ∀ files, exec left ⟨.opened store, files⟩ =
      (.ok leftValue, ⟨.opened leftAfter, files⟩))
    (rightEnds : ∀ files, exec right ⟨.opened store, files⟩ =
      (.ok rightValue, ⟨.opened rightAfter, files⟩)) : Together alike left right store :=
  fun files => ⟨_, _, _, _, _, _, leftEnds files, rightEnds files, .succeeded _ _, same⟩

/-- The operations begin with transactions that are refused. -/
theorem bind_refused {leftWork : Transaction γ} {rightWork : Transaction δ}
    {leftNext : γ → Action α} {rightNext : δ → Action β} {leftFailure rightFailure : StoreError}
    (self : alike store store)
    (kind : SameKind (.ofStore leftFailure) (.ofStore rightFailure))
    (leftRefuses : leftWork.run store = .error leftFailure)
    (rightRefuses : rightWork.run store = .error rightFailure) :
    Together alike (transact leftWork >>= leftNext) (transact rightWork >>= rightNext) store :=
  .refused self kind (fun _ => exec_bind_error (exec_transact_error leftRefuses _))
    fun _ => exec_bind_error (exec_transact_error rightRefuses _)

/-- Both operations begin with the same look. -/
theorem bind_looking {first : Action γ} {leftNext : γ → Action α} {rightNext : γ → Action β}
    (self : alike store store) (looks : LooksOnly first)
    (next : ∀ value, Gives first store value →
      Together alike (leftNext value) (rightNext value) store) :
    Together alike (first >>= leftNext) (first >>= rightNext) store := by
  intro files
  have same := looks ⟨.opened store, files⟩
  rw [EndAlike, exec_bind, exec_bind]
  match ended : exec first ⟨.opened store, files⟩ with
  | (outcome, ⟨database, later⟩) =>
    rw [ended] at same
    obtain rfl : database = .opened store := same
    cases outcome with
    | error failure => exact ⟨_, _, _, _, _, _, rfl, rfl, .failed rfl, self⟩
    | ok value => exact next value ⟨files, later, ended⟩ later

/-- The operations begin with looks of their own that give something. -/
theorem bind_given {leftFirst : Action γ} {rightFirst : Action δ} {leftNext : γ → Action α}
    {rightNext : δ → Action β} {leftValue : γ} {rightValue : δ}
    (leftGives : ∀ files, exec leftFirst ⟨.opened store, files⟩ =
      (.ok leftValue, ⟨.opened store, files⟩))
    (rightGives : ∀ files, exec rightFirst ⟨.opened store, files⟩ =
      (.ok rightValue, ⟨.opened store, files⟩))
    (next : Together alike (leftNext leftValue) (rightNext rightValue) store) :
    Together alike (leftFirst >>= leftNext) (rightFirst >>= rightNext) store := by
  intro files
  rw [EndAlike, exec_bind_ok (leftGives files), exec_bind_ok (rightGives files)]
  exact next files

theorem congr {leftOther : Action α} {rightOther : Action β}
    (leftSame : ∀ files, exec left ⟨.opened store, files⟩ = exec leftOther ⟨.opened store, files⟩)
    (rightSame : ∀ files,
      exec right ⟨.opened store, files⟩ = exec rightOther ⟨.opened store, files⟩)
    (together : Together alike leftOther rightOther store) : Together alike left right store := by
  intro files
  rw [EndAlike, leftSame, rightSame]
  exact together files

end Together

end Rules

/-! ## Lists of roles -/

/-- In readable tables every role can be read. -/
theorem Readable.roles (readable : Readable store) :
    ∀ row ∈ store.roles, ∃ role, row.read = .ok role := by
  intro row member
  obtain ⟨role, reads⟩ :=
    readsRole_of_times readable.sound member (readable.catalog.roles row member)
  exact ⟨role, readRole_eq_ok_iff.mpr reads⟩

section Roles

variable {α β : Type} {alike : Store → Store → Prop} {one other : List RoleId}

/-- Both operations begin by looking up the roles that they are given: these are there for both, or
some are missing for both. -/
theorem Together.bind_findAll {leftNext : List CatalogRole → Action α}
    {rightNext : List CatalogRole → Action β} (readable : Readable store) (self : alike store store)
    (same : SameRoles one other)
    (next : ∀ leftRoles rightRoles, Granted store one (leftRoles.map CatalogRole.grant) →
      Granted store other (rightRoles.map CatalogRole.grant) →
      Together alike (leftNext leftRoles) (rightNext rightRoles) store) :
    Together alike (transact (Roles.findAll one) >>= leftNext)
      (transact (Roles.findAll other) >>= rightNext) store := by
  have schema := readable.sound.schema
  by_cases known : KnowsRoles store one
  · obtain ⟨leftRoles, leftFinds⟩ := findAll_of_known schema readable.roles known
    obtain ⟨rightRoles, rightFinds⟩ := findAll_of_known schema readable.roles (same.knows.mp known)
    exact .bind_given (exec_transact_ok leftFinds) (exec_transact_ok rightFinds)
      (next _ _ (findAll_ok leftFinds).2 (findAll_ok rightFinds).2)
  · obtain ⟨leftWhat, leftRefuses⟩ := findAll_of_unknown schema readable.roles known
    obtain ⟨rightWhat, rightRefuses⟩ :=
      findAll_of_unknown schema readable.roles (mt same.knows.mpr known)
    have kind : SameKind (.ofStore (.notFound leftWhat)) (.ofStore (.notFound rightWhat)) := rfl
    exact .bind_refused self kind leftRefuses rightRefuses

private theorem Together.bind_grantsOf {leftNext : List Grant → Action α}
    {rightNext : List Grant → Action β}
    (readable : Readable store) (self : alike store store) (same : SameRoles one other)
    (next : ∀ leftGrants rightGrants, Granted store one leftGrants →
      Granted store other rightGrants →
      Together alike (leftNext leftGrants) (rightNext rightGrants) store) :
    Together alike (Users.grantsOf one >>= leftNext) (Users.grantsOf other >>= rightNext) store := by
  simp only [Users.grantsOf, bind_assoc, pure_bind]
  exact .bind_findAll readable self same fun _ _ leftGranted rightGranted =>
    next _ _ leftGranted rightGranted

private theorem Together.bind_requireRoles {leftNext : Unit → Action α}
    {rightNext : Unit → Action β}
    (readable : Readable store) (self : alike store store) (same : SameRoles one other)
    (next : KnowsRoles store one → Together alike (leftNext ()) (rightNext ()) store) :
    Together alike (Catalog.requireRoles one >>= leftNext)
      (Catalog.requireRoles other >>= rightNext) store := by
  simp only [Catalog.requireRoles, bind_assoc, pure_bind]
  exact .bind_findAll readable self same fun _ _ granted _ => next granted.knowsRoles

end Roles

/-! ## Assignments -/

/-- Assignments to the same group with the same grants, in whatever order and however often each is
named. -/
structure Alike (left right : Assignment) : Prop where
  grants : ∀ grant, grant ∈ left.grants ↔ grant ∈ right.grants
  group : left.group = right.group

namespace Alike

variable {left right : Assignment}

/-- Assignments that are alike grant the same highest level. -/
theorem highest (alike : Alike left right) : left.highest = right.highest := by
  refine Role.highest_congr fun level => ?_
  simp only [Assignment.roles, List.mem_map, alike.grants]

theorem ids (alike : Alike left right) :
    SameRoles (left.grants.map Grant.id) (right.grants.map Grant.id) := by
  intro role
  simp only [List.mem_map, alike.grants]

/-- What is alike stays alike when operators are moved into their group. -/
theorem settleOperator (alike : Alike left right) :
    Alike left.settleOperator right.settleOperator := by
  constructor
  · simpa using alike.grants
  · rw [Assignment.group_settleOperator, Assignment.group_settleOperator, alike.highest, alike.group]

/-- The gate does not tell them apart. -/
theorem assign (alike : Alike left right) (caller : Identity) :
    Access.Gate.assign caller left = Access.Gate.assign caller right := by
  rw [Access.Gate.assign, Access.Gate.assign, alike.highest, alike.group]

/-- What is used in place of no grants does not depend on their order. -/
theorem of_supplied {group : GroupId} {leftGrants rightGrants otherwise : List Grant}
    (same : ∀ grant, grant ∈ leftGrants ↔ grant ∈ rightGrants) :
    Alike ⟨if leftGrants.isEmpty then otherwise else leftGrants, group⟩
      ⟨if rightGrants.isEmpty then otherwise else rightGrants, group⟩ := by
  have empty : leftGrants.isEmpty = rightGrants.isEmpty := by
    rw [Bool.eq_iff_iff, List.isEmpty_iff, List.isEmpty_iff, List.eq_nil_iff_forall_not_mem,
      List.eq_nil_iff_forall_not_mem]
    simp only [same]
  refine ⟨fun grant => ?_, rfl⟩
  rw [empty]
  split
  · exact Iff.rfl
  · exact same grant

end Alike

private theorem alike_forCreate {caller : Identity} {leftGrants rightGrants : List Grant}
    {group : Option GroupId} (same : ∀ grant, grant ∈ leftGrants ↔ grant ∈ rightGrants) :
    Alike (Assignment.forCreate caller leftGrants group)
      (Assignment.forCreate caller rightGrants group) :=
  (Alike.of_supplied same).settleOperator

private theorem alike_forUpdate {current : Assignment} {leftGrants rightGrants : List Grant}
    {group : Option GroupId} (same : ∀ grant, grant ∈ leftGrants ↔ grant ∈ rightGrants) :
    Alike (Assignment.forUpdate current leftGrants group)
      (Assignment.forUpdate current rightGrants group) :=
  (Alike.of_supplied same).settleOperator

/-! ## Creating users -/

/-- A user that was added is read back at once. -/
theorem exec_created {user : NewUser} {now : Instant} {after : Store} (dated : now.IsDated)
    (sound : Sound store) (creates : (Store.Users.create user now).run store = .ok ((), after)) :
    ∃ profile, ∀ files, exec (do
      transact (Store.Users.create user now)
      Users.writtenProfile user.id) ⟨.opened store, files⟩ =
        (.ok profile, ⟨.opened after, files⟩) := by
  have added := create_ok creates
  obtain ⟨profile, found⟩ := profileAfter_added dated (sound.added added) added
  refine ⟨profile, fun files => ?_⟩
  rw [exec_bind_ok (exec_transact_ok creates files), exec_writtenProfile, found]

/-- The roles of a new user are there: those that were looked up, or else the builtin one. -/
theorem knowsRoles_forCreate {caller : Identity} {roles : List RoleId} {grants : List Grant}
    {group : Option GroupId} (furnished : Furnished store) (granted : Granted store roles grants) :
    KnowsRoles store ((Assignment.forCreate caller grants group).grants.map Grant.id) := by
  rw [Assignment.grants_forCreate]
  split
  · have listed : ⟨Role.user.builtinId, Role.user.name, true⟩ ∈ Seeds.roleEntries := by decide
    obtain ⟨row, member, same⟩ := List.mem_map.mp (furnished.roles.present _ listed)
    intro role named
    obtain rfl := List.mem_singleton.mp named
    exact ⟨row, member, congrArg Entry.id same⟩
  · rw [granted.ids]
    exact granted.knowsRoles

section Insert

variable {left right : Context} {request : CreateRequest} {leftRoles rightRoles : List RoleId}
variable {leftAssignment rightAssignment : Assignment}

/-- The tables after an insertion, up to times, to the order of pairs and to the key of the new user. -/
abbrev SameButKey (left right : Context) (leftStore rightStore : Store) : Prop :=
  SameButTimes (leftStore.renamed left.freshId.text right.freshId.text) rightStore

private theorem sameButKey_self (schema : Schema store)
    (unused : ∀ row ∈ store.users, row.id ≠ left.freshId.text) :
    SameButKey left right store store := by
  rw [SameButKey, renamed_of_unused _ schema unused]
  exact .refl store

private theorem together_insert (readable : Readable store) (sameVault : left.vault = right.vault)
    (leftDated : left.now.IsDated) (rightDated : right.now.IsDated)
    (leftUnused : ∀ row ∈ store.users, row.id ≠ left.freshId.text)
    (rightUnused : ∀ row ∈ store.users, row.id ≠ right.freshId.text)
    (alike : Alike leftAssignment rightAssignment)
    (group : ∃ row ∈ store.groups, row.id = leftAssignment.group)
    (known : KnowsRoles store (leftAssignment.grants.map Grant.id)) :
    Together (SameButKey left right)
      (Users.insert left { request with roles := leftRoles } leftAssignment)
      (Users.insert right { request with roles := rightRoles } rightAssignment) store := by
  have sound := readable.sound
  have self : SameButKey left right store store := sameButKey_self sound.schema leftUnused
  unfold Users.insert
  rw [← sameVault, ← alike.highest]
  refine .bind_looking self (.vault _) fun stored _ => ?_
  let one := request.newUser left.freshId leftAssignment stored
  let other := request.newUser right.freshId rightAssignment stored
  by_cases taken : ∃ row ∈ store.users, row.name = request.name
  · have leftRefused : (Store.Users.create one left.now).run store = _ := create_taken taken
    have rightRefused : (Store.Users.create other right.now).run store = _ := create_taken taken
    exact .bind_refused self rfl leftRefused rightRefused
  · have free : ∀ row ∈ store.users, row.name ≠ request.name := fun row member same =>
      taken ⟨row, member, same⟩
    obtain ⟨leftAfter, leftCreates⟩ : ∃ after,
        (Store.Users.create one left.now).run store = .ok ((), after) :=
      create_of_free leftUnused free group known
    obtain ⟨rightAfter, rightCreates⟩ : ∃ after,
        (Store.Users.create other right.now).run store = .ok ((), after) := by
      rw [alike.group] at group
      exact create_of_free rightUnused free group (alike.ids.knows.mp known)
    obtain ⟨leftProfile, leftEnds⟩ := exec_created leftDated sound leftCreates
    obtain ⟨rightProfile, rightEnds⟩ := exec_created rightDated sound rightCreates
    have fields : other = { one with id := other.id, roles := other.roles } := by
      simp only [one, other, CreateRequest.newUser, alike.group]
    have same := (create_ok leftCreates).sameButTimes sound.schema (create_ok rightCreates) fields
      alike.ids
    exact .written same leftEnds rightEnds

/-- Creating a user, where the catalog has the builtin role that a user gets without others. -/
theorem together_create {caller : Identity} (readable : Readable store) (furnished : Furnished store)
    (sameVault : left.vault = right.vault) (leftDated : left.now.IsDated)
    (rightDated : right.now.IsDated)
    (leftUnused : ∀ row ∈ store.users, row.id ≠ left.freshId.text)
    (rightUnused : ∀ row ∈ store.users, row.id ≠ right.freshId.text)
    (same : SameRoles leftRoles rightRoles) :
    Together (SameButKey left right)
      (Users.create left caller { request with roles := leftRoles })
      (Users.create right caller { request with roles := rightRoles }) store := by
  have schema := readable.sound.schema
  have self : SameButKey left right store store := sameButKey_self schema leftUnused
  refine .bind_looking self (.check _) fun _ _ => ?_
  refine .bind_looking self (.check _) fun _ _ => ?_
  refine .bind_grantsOf readable self same fun leftGrants rightGrants leftGranted rightGranted => ?_
  have alike : Alike (Assignment.forCreate caller leftGrants request.group)
      (Assignment.forCreate caller rightGrants request.group) :=
    alike_forCreate (leftGranted.same schema rightGranted same)
  dsimp only
  rw [← alike.group, ← alike.assign caller]
  refine .bind_looking self (looks_requireGroup _) fun _ grouped => ?_
  refine .bind_looking self (.check _) fun _ _ => ?_
  exact together_insert readable sameVault leftDated rightDated leftUnused rightUnused alike
    (gives_requireGroup grouped) (knowsRoles_forCreate furnished leftGranted)

end Insert

/-! ## Updating users -/

section Update

variable {left right : Context} {caller : Identity} {request : UpdateRequest}
variable {leftRoles rightRoles : List RoleId} {leftAssignment rightAssignment : Assignment}
variable {row : UserRow} {user : UserRecord}

/-- What an update does once the assignment is settled. -/
def finishUpdate (context : Context) (request : UpdateRequest) (user : UserRecord)
    (assignment : Assignment) : Action Profile := do
  let stored ← Users.newStored context.vault user request.password assignment.highest
  let found ← transact (Users.save (request.applyTo user assignment) stored context.now)
  require found (.notFound s!"user {request.name}")
  Users.writtenProfile user.id

/-- Who may update a user may assign it the roles and the group that it has, if its own level and
group are those that are kept. -/
theorem assign_allow_of_update (allowed : Access.Gate.updateUser caller (Users.target user) = .allow)
    (current : caller.id = user.id →
      caller.highest = user.assignment.highest ∧ caller.group = user.assignment.group) :
    Access.Gate.assign caller user.assignment = .allow := by
  rw [Access.Gate.assign_allow]
  rcases Access.Gate.updateUser_allow.mp allowed with self | other
  · obtain ⟨level, group⟩ := current self
    rw [level]
    exact ⟨Role.atLeast_self _, .inr group⟩
  · refine ⟨Access.Gate.actOnOther_reaches other, ?_⟩
    rcases Access.Gate.actOnOther_allow.mp other with operator | ⟨_, group, _⟩
    · exact .inl operator
    · exact .inr group

/-- An update may as well check an assignment that is the present one: it passes. -/
theorem exec_checked {α : Type} {next : Action α} {assignment : Assignment}
    (readable : Readable store)
    (there : ∃ row ∈ store.groups, row.id = user.assignment.group)
    (allowed : Access.Gate.assign caller user.assignment = .allow) (files : Workspace) :
    exec (if assignment ≠ user.assignment then do
      Users.requireGroup assignment.group
      check (Access.Gate.assign caller assignment).toExcept
      next
    else next) ⟨.opened store, files⟩ = exec (do
      Users.requireGroup assignment.group
      check (Access.Gate.assign caller assignment).toExcept
      next) ⟨.opened store, files⟩ := by
  obtain ⟨row, member, same⟩ := there
  have times := readable.catalog.groups row member
  obtain ⟨group, reads⟩ : ∃ group, row.read store = .ok group :=
    readGroup_ok_iff.mpr ⟨times.created, times.updated⟩
  have located := find?_key readable.sound.schema.groupIds member same
  have passes : (Access.Gate.assign caller user.assignment).toExcept = .ok () := by
    rw [allowed]
    rfl
  split
  · rfl
  · rename_i present
    rw [not_not.mp present, exec_bind_ok (exec_requireGroup located reads files),
      exec_bind_ok (exec_check_ok passes _)]

/-- The roles of an updated user are there: those that were looked up, or else the present ones. -/
theorem knowsRoles_forUpdate {roles : List RoleId} {grants : List Grant} {group : Option GroupId}
    (schema : Schema store) (reads : Reads store row user) (granted : Granted store roles grants) :
    KnowsRoles store ((Assignment.forUpdate user.assignment grants group).grants.map Grant.id) := by
  rw [Assignment.grants_forUpdate]
  split
  · intro role held
    exact schema.heldRole _ ((mem_grants schema reads role).mp held)
  · rw [granted.ids]
    exact granted.knowsRoles

/-- A user that was saved is read back at once. -/
theorem exec_saved {changed : UserRecord} {stored : Option String} {now : Instant} {after : Store}
    {missing : AccountsError} (dated : now.IsDated) (sound : Sound store) (member : row ∈ store.users)
    (reads : Reads store row user) (same : changed.id = user.id)
    (saves : (Users.save changed stored now).run store = .ok (true, after)) :
    ∃ profile, ∀ files, exec (do
      let found ← transact (Users.save changed stored now)
      require found missing
      Users.writtenProfile user.id) ⟨.opened store, files⟩ =
        (.ok profile, ⟨.opened after, files⟩) := by
  have saved := saved_of_found saves
  obtain ⟨profile, found⟩ :=
    profileAfter_saved dated sound (sound.saved saved) member reads saved same
  refine ⟨profile, fun files => ?_⟩
  rw [exec_bind_ok (exec_transact_ok saves files), ← found]
  exact exec_writtenProfile _ _ _

private theorem together_finishUpdate (readable : Readable store)
    (sameVault : left.vault = right.vault)
    (leftDated : left.now.IsDated) (rightDated : right.now.IsDated) (member : row ∈ store.users)
    (reads : Reads store row user) (alike : Alike leftAssignment rightAssignment)
    (group : ∃ row ∈ store.groups, row.id = leftAssignment.group)
    (known : KnowsRoles store (leftAssignment.grants.map Grant.id)) :
    Together SameButTimes
      (finishUpdate left { request with roles := leftRoles } user leftAssignment)
      (finishUpdate right { request with roles := rightRoles } user rightAssignment) store := by
  have sound := readable.sound
  have self : SameButTimes store store := .refl store
  unfold finishUpdate
  rw [← sameVault, ← alike.highest]
  refine .bind_looking self (looks_newStored _ _ _ _) fun stored _ => ?_
  let one := request.applyTo user leftAssignment
  let other := request.applyTo user rightAssignment
  have present : ∃ row ∈ store.users, row.id = user.id.text :=
    ⟨row, member, sound.text_eq member reads⟩
  by_cases taken : ∃ row ∈ store.users, row.id ≠ user.id.text ∧ row.name = one.name
  · have leftRefused : (Users.save one stored left.now).run store = _ := save_taken present taken
    have rightRefused : (Users.save other stored right.now).run store = _ :=
      save_taken present taken
    exact .bind_refused self rfl leftRefused rightRefused
  · have free : ∀ row ∈ store.users, row.id ≠ user.id.text → row.name ≠ one.name :=
      fun row member different same => taken ⟨row, member, different, same⟩
    obtain ⟨leftAfter, leftSaves⟩ : ∃ after,
        (Users.save one stored left.now).run store = .ok (true, after) :=
      save_of_free present free group known
    obtain ⟨rightAfter, rightSaves⟩ : ∃ after,
        (Users.save other stored right.now).run store = .ok (true, after) := by
      rw [alike.group] at group
      exact save_of_free present free group (alike.ids.knows.mp known)
    have leftKey : one.id = user.id := rfl
    have rightKey : other.id = user.id := rfl
    obtain ⟨leftProfile, leftEnds⟩ := exec_saved leftDated sound member reads leftKey leftSaves
    obtain ⟨rightProfile, rightEnds⟩ := exec_saved rightDated sound member reads rightKey rightSaves
    have fields : other = { one with grants := other.grants } := by
      simp only [one, other, UpdateRequest.applyTo, alike.group]
    have same := (saved_of_found leftSaves).sameButTimes sound.schema.heldOnce
      (saved_of_found rightSaves) fields alike.ids
    exact .written same leftEnds rightEnds

private theorem together_update (readable : Readable store) (sameVault : left.vault = right.vault)
    (leftDated : left.now.IsDated) (rightDated : right.now.IsDated)
    (current : ∀ row ∈ store.users, row.name = request.name → row.id = caller.id.text →
      caller.highest = store.highestHeld row.id ∧ caller.group = row.group)
    (same : SameRoles leftRoles rightRoles) :
    Together SameButTimes
      (Users.update left caller { request with roles := leftRoles })
      (Users.update right caller { request with roles := rightRoles }) store := by
  have schema := readable.sound.schema
  have self : SameButTimes store store := .refl store
  refine .bind_looking self (.check _) fun _ _ => ?_
  refine .bind_looking self (looks_find _) fun user found => ?_
  refine .bind_looking self (.check _) fun _ allowed => ?_
  refine .bind_grantsOf readable self same fun leftGrants rightGrants leftGranted rightGranted => ?_
  obtain ⟨row, member, named, reads⟩ := gives_find found
  have alike : Alike (Assignment.forUpdate user.assignment leftGrants request.group)
      (Assignment.forUpdate user.assignment rightGrants request.group) :=
    alike_forUpdate (leftGranted.same schema rightGranted same)
  have there : ∃ other ∈ store.groups, other.id = user.assignment.group := by
    obtain ⟨other, otherMember, otherSame⟩ := schema.memberGroup row member
    exact ⟨other, otherMember, otherSame.trans reads.group.symm⟩
  have passes : Access.Gate.assign caller user.assignment = .allow := by
    refine assign_allow_of_update (gives_decision allowed) fun self => ?_
    have key : row.id = caller.id.text := by rw [readable.sound.text_eq member reads, self]
    obtain ⟨level, group⟩ := current row member named key
    rw [level, group, ← reads.group]
    exact ⟨congrArg Role.highest reads.roles.symm, rfl⟩
  refine .congr (exec_checked readable there passes) (exec_checked readable there passes) ?_
  rw [← alike.group, ← alike.assign caller]
  refine .bind_looking self (looks_requireGroup _) fun _ grouped => ?_
  refine .bind_looking self (.check _) fun _ _ => ?_
  exact together_finishUpdate readable sameVault leftDated rightDated member reads alike
    (gives_requireGroup grouped) (knowsRoles_forUpdate schema reads leftGranted)

end Update

/-! ## Groups -/

section Groups

variable {leftNow rightNow : Instant} {caller : Identity} {leftRoles rightRoles : List RoleId}

private theorem together_createGroup {request : CreateGroupRequest} (readable : Readable store)
    (leftDated : leftNow.IsDated) (rightDated : rightNow.IsDated)
    (same : SameRoles leftRoles rightRoles) :
    Together SameButTimes
      (Catalog.createGroup leftNow caller { request with roles := leftRoles })
      (Catalog.createGroup rightNow caller { request with roles := rightRoles }) store := by
  have schema := readable.sound.schema
  have self : SameButTimes store store := .refl store
  refine .bind_looking self (looks_checkNew _ _) fun _ _ => ?_
  refine .bind_looking self (.check _) fun _ _ => ?_
  refine .bind_requireRoles readable self same fun known => ?_
  let one : NewGroup := ⟨request.name, request.note, leftRoles⟩
  let other : NewGroup := ⟨request.name, request.note, rightRoles⟩
  cases key : groupKey store request.name with
  | error failure =>
    have leftRefused : (Groups.create one leftNow).run store = _ := createGroup_of_keyless key
    have rightRefused : (Groups.create other rightNow).run store = _ := createGroup_of_keyless key
    exact .refused self rfl (exec_transact_error leftRefused) (exec_transact_error rightRefused)
  | ok id =>
    obtain ⟨leftGroup, leftBetween, leftAfter, leftCreates, leftAdded, leftLists⟩ :=
      createGroup_of_key one leftDated schema key known
    obtain ⟨rightGroup, rightBetween, rightAfter, rightCreates, rightAdded, rightLists⟩ :=
      createGroup_of_key other rightDated schema key (same.knows.mp known)
    have once : leftBetween.groupRoles.Nodup := (schema.groupAdded leftAdded).listedOnce
    have pairs : leftBetween.groupRoles = rightBetween.groupRoles := by
      rw [leftAdded.same, rightAdded.same]
    exact .written (leftLists.sameButTimes once (leftAdded.sameButTimes rightAdded) pairs rightLists
      same) (exec_transact_ok leftCreates) (exec_transact_ok rightCreates)

/-- A group that was changed is read back at once. -/
theorem exec_updatedGroup {id : GroupId} {name note : Option String} {roles : Option (List RoleId)}
    {group : CatalogGroup} {now : Instant} {between after : Store} {missing : AccountsError}
    (dated : now.IsDated) (sound : Sound store)
    (found : (Groups.find? id).run store = .ok (some group, store))
    (updates : (Groups.update id name note roles now).run store = .ok (true, after))
    (relabeled : Relabeled id name note now store between)
    (relists : Relists id roles between after) :
    ∃ answer, ∀ files, exec (do
      let found ← transact (Groups.update id name note roles now)
      require found missing
      Catalog.getGroup id) ⟨.opened store, files⟩ = (.ok answer, ⟨.opened after, files⟩) := by
  have soundBetween : Sound between := by
    refine sound.of_unnoticed (sound.schema.relabeled relabeled) ?_ relabeled.unnoticed
    rw [relabeled.same]
    exact sound.leveled.of_same rfl rfl
  obtain ⟨soundAfter, groups⟩ : Sound after ∧ after.groups = between.groups := by
    cases relists with
    | kept => exact ⟨soundBetween, rfl⟩
    | replaced lists =>
      refine ⟨soundBetween.of_unnoticed (soundBetween.schema.listed lists) ?_ lists.unnoticed, ?_⟩
      · rw [lists.same]
        exact soundBetween.leveled.of_same rfl rfl
      · rw [lists.same]
  obtain ⟨answer, readsBack⟩ := readBack_relabeledGroup dated (.notFound s!"group {id}") found
    relabeled groups soundAfter
  refine ⟨answer, fun files => ?_⟩
  rw [exec_bind_ok (exec_transact_ok updates files), ← readsBack]
  exact exec_readBack _ _ _

private theorem together_updateGroup {id : GroupId} {request : UpdateGroupRequest}
    {leftRoles rightRoles : Option (List RoleId)} (readable : Readable store)
    (leftDated : leftNow.IsDated) (rightDated : rightNow.IsDated)
    (same : Option.Rel SameRoles leftRoles rightRoles) :
    Together SameButTimes
      (Catalog.updateGroup leftNow caller id { request with roles := leftRoles })
      (Catalog.updateGroup rightNow caller id { request with roles := rightRoles }) store := by
  have schema := readable.sound.schema
  have self : SameButTimes store store := .refl store
  have listed : SameRoles (leftRoles.getD []) (rightRoles.getD []) := by
    cases same with
    | none => exact fun _ => Iff.rfl
    | some same => exact same
  refine .bind_looking self (looks_checkChange _ _) fun _ _ => ?_
  refine .bind_looking self (.check _) fun _ _ => ?_
  refine .bind_looking self (looks_getGroup _) fun group gives => ?_
  refine .bind_looking self (.require _ _) fun _ _ => ?_
  refine .bind_requireRoles readable self listed fun known => ?_
  have found := gives_getGroup gives
  have there : ∃ row ∈ store.groups, row.id = id := by
    obtain ⟨row, member, key, _⟩ := findGroup?_ok found
    exact ⟨row, member, key⟩
  by_cases taken : ∃ row ∈ store.groups, row.id ≠ id ∧ request.name = some row.name
  · have refused {now : Instant} {roles : Option (List RoleId)} :
        (Groups.update id request.name request.note roles now).run store = _ :=
      updateGroup_taken there taken
    exact .bind_refused self rfl refused refused
  · have free : ∀ row ∈ store.groups, row.id ≠ id → request.name ≠ some row.name :=
      fun row member different same => taken ⟨row, member, different, same⟩
    obtain ⟨leftBetween, leftAfter, leftUpdates, leftRelabeled, leftRelists⟩ :=
      updateGroup_of_free request.note leftNow there free known
    obtain ⟨rightBetween, rightAfter, rightUpdates, rightRelabeled, rightRelists⟩ :=
      updateGroup_of_free request.note rightNow there free (listed.knows.mp known)
    obtain ⟨leftGroup, leftEnds⟩ := exec_updatedGroup leftDated readable.sound found leftUpdates
      leftRelabeled leftRelists
    obtain ⟨rightGroup, rightEnds⟩ := exec_updatedGroup rightDated readable.sound found rightUpdates
      rightRelabeled rightRelists
    have once : leftBetween.groupRoles.Nodup := (schema.relabeled leftRelabeled).listedOnce
    have pairs : leftBetween.groupRoles = rightBetween.groupRoles := by
      rw [leftRelabeled.same, rightRelabeled.same]
    exact .written (leftRelists.sameButTimes once (leftRelabeled.sameButTimes rightRelabeled) pairs
      rightRelists same) leftEnds rightEnds

end Groups

/-! ## Every run -/

/-- After every run from a new installation on clocks that can be read back, the roles that a request
lists are a set.  Two requests that differ in nothing but the order and the repetition of these both
fail, in the same way, or both succeed and leave the same tables, up to times and to the key of a user
that is created.  For an update this takes a caller other than the one updated, or one whose level and
group are those that are kept.  The order of a list decides whether the gate is asked for an assignment
that stays; such a caller passes it either way. -/
theorem role_lists_are_sets {installed : Instant} (installedDated : installed.IsDated)
    (workspace : Workspace) {events : List Event} (dated : ∀ event ∈ events, event.IsDated)
    (left right : Context) (sameVault : left.vault = right.vault) (leftDated : left.now.IsDated)
    (rightDated : right.now.IsDated) (caller : Identity) :
    ∃ store files, run events (State.fresh installed workspace) = ⟨.opened store, files⟩ ∧
      let state := run events (State.fresh installed workspace)
      (∀ one other : List RoleId, SameRoles one other →
        (∀ request : CreateRequest, (∀ row ∈ store.users, row.id ≠ left.freshId.text) →
          (∀ row ∈ store.users, row.id ≠ right.freshId.text) →
          EndAlike (SameButKey left right)
            (Users.create left caller { request with roles := one })
            (Users.create right caller { request with roles := other }) state) ∧
        (∀ request : UpdateRequest,
          (∀ row ∈ store.users, row.name = request.name → row.id = caller.id.text →
            caller.highest = store.highestHeld row.id ∧ caller.group = row.group) →
          EndAlike SameButTimes
            (Users.update left caller { request with roles := one })
            (Users.update right caller { request with roles := other }) state) ∧
        ∀ request : CreateGroupRequest, EndAlike SameButTimes
          (Catalog.createGroup left.now caller { request with roles := one })
          (Catalog.createGroup right.now caller { request with roles := other }) state) ∧
      ∀ one other : Option (List RoleId), Option.Rel SameRoles one other →
        ∀ (id : GroupId) (request : UpdateGroupRequest), EndAlike SameButTimes
          (Catalog.updateGroup left.now caller id { request with roles := one })
          (Catalog.updateGroup right.now caller id { request with roles := other }) state := by
  obtain ⟨store, files, leads, readable⟩ := run_readable installedDated workspace dated
  obtain ⟨_, _, leadsAlso, _, furnished⟩ := run_furnished installed workspace events
  rw [leads] at leadsAlso
  cases leadsAlso
  refine ⟨store, files, leads, ?_⟩
  rw [leads]
  refine ⟨fun one other same => ⟨fun request leftUnused rightUnused => ?_,
    fun request current => ?_, fun request => ?_⟩, fun one other same id request => ?_⟩
  · exact together_create readable furnished sameVault leftDated rightDated leftUnused rightUnused
      same files
  · exact together_update readable sameVault leftDated rightDated current same files
  · exact together_createGroup readable leftDated rightDated same files
  · exact together_updateGroup readable leftDated rightDated same files

namespace Sample

/-- An hour after the beginning of the year 1970, with a key of its own for a new user. -/
def morning : Context := ⟨vault, ⟨3600, 0, by decide, by decide⟩, ⟨List.replicate 16 8, rfl⟩⟩

/-- A second later, with yet another key. -/
def secondLater : Context := ⟨vault, ⟨3601, 0, by decide, by decide⟩, ⟨List.replicate 16 9, rfl⟩⟩

def assistant : CreateRequest where
  name := "ada"
  password := ⟨"password2"⟩

private theorem unused_morning : ∀ row ∈ tables.users, row.id ≠ morning.freshId.text := by
  intro row member same
  rw [List.mem_singleton.mp member] at same
  exact absurd (UserId.text_injective same) (by decide)

private theorem unused_secondLater : ∀ row ∈ tables.users, row.id ≠ secondLater.freshId.text := by
  intro row member same
  rw [List.mem_singleton.mp member] at same
  exact absurd (UserId.text_injective same) (by decide)

private theorem sameRoles_twice (first second : RoleId) :
    SameRoles [first, second] [second, first, second] := by
  intro role
  simp only [List.mem_cons, List.not_mem_nil, or_false]
  tauto

end Sample

/-- The first operator creates a user, updates itself, and adds and changes a group.  Its own role is
named twice in one of the updates: the gate for the assignment is asked in that one alone. -/
theorem first_operator_role_lists_are_sets :
    Sample.now.IsDated ∧ (∀ event ∈ Sample.events, event.IsDated) ∧
      Sample.morning.vault = Sample.secondLater.vault ∧ Sample.morning.now.IsDated ∧
      Sample.secondLater.now.IsDated ∧
      let state := run Sample.events (State.fresh Sample.now Sample.files)
      EndAlike (SameButKey Sample.morning Sample.secondLater)
        (Users.create Sample.morning Sample.self { Sample.assistant with roles := [1, 888] })
        (Users.create Sample.secondLater Sample.self
          { Sample.assistant with roles := [888, 1, 888] }) state ∧
      EndAlike SameButTimes
        (Users.update Sample.morning Sample.self { name := "root", roles := [999] })
        (Users.update Sample.secondLater Sample.self { name := "root", roles := [999, 999] })
        state ∧
      EndAlike SameButTimes
        (Catalog.createGroup Sample.morning.now Sample.self ⟨"staff", "", [1, 888]⟩)
        (Catalog.createGroup Sample.secondLater.now Sample.self ⟨"staff", "", [888, 1, 888]⟩)
        state ∧
      EndAlike SameButTimes
        (Catalog.updateGroup Sample.morning.now Sample.self defaultGroup
          { roles := some [1, 888] })
        (Catalog.updateGroup Sample.secondLater.now Sample.self defaultGroup
          { roles := some [888, 1, 888] }) state := by
  have dated : ∀ event ∈ Sample.events, event.IsDated :=
    fun event member => (Sample.regular_events event member).2
  have morning : Sample.morning.now.IsDated := by decide
  have later : Sample.secondLater.now.IsDated := by decide
  have installed : Sample.now.IsDated := by decide
  obtain ⟨store, files, leads, lists, groups⟩ := role_lists_are_sets installed Sample.files dated
    Sample.morning Sample.secondLater rfl morning later Sample.self
  obtain rfl : store = Sample.tables := by
    rw [Sample.run_events] at leads
    cases leads
    rfl
  have twice : SameRoles [1, 888] [888, 1, 888] := Sample.sameRoles_twice 1 888
  have again : SameRoles [999] [999, 999] := fun role => by simp
  have current : ∀ row ∈ Sample.tables.users, row.name = "root" → row.id = Sample.self.id.text →
      Sample.self.highest = Sample.tables.highestHeld row.id ∧ Sample.self.group = row.group := by
    intro row member _ _
    obtain rfl : row = Sample.row := List.mem_singleton.mp member
    exact ⟨Sample.highestHeld_row.symm, rfl⟩
  exact ⟨installed, dated, rfl, morning, later,
    (lists _ _ twice).1 Sample.assistant Sample.unused_morning Sample.unused_secondLater,
    (lists _ _ again).2.1 { name := "root" } current,
    (lists _ _ twice).2.2 ⟨"staff", "", []⟩,
    groups (some [1, 888]) (some [888, 1, 888]) (.some twice) defaultGroup {}⟩

end RoleVault.Accounts
