import RoleVault.Proofs.Accounts.Effect

/-!
Contract: every call ends in one of the ways of `Effect`.

Owns:
- what looking up users, roles and groups can give;
- `perform_effect`, whatever the engine and the files are like.

Does not own: what follows for runs (`RoleVault.Proofs.Accounts.Invariant` and its neighbours).
-/

namespace RoleVault.Accounts

open RoleVault.Access (Assignment Gate.assign Gate.createUser Gate.updateUser Gate.deleteUser Grant)
open RoleVault.Store
open RoleVault.Accounts.Action
open RoleVault.Vault (Attempt)

variable {store : Store} {context : Context}

/-! ## Looking up -/

private theorem looks_view {α : Type} (read : Store → Except StoreError α) :
    LooksOnly (transact (.view read)) :=
  .transact fun ended => Transaction.view_same ended

theorem looks_find (name : String) : LooksOnly (Users.find name) :=
  .bind (looks_view _) fun _ => .found _ _

/-- A user that is found is what a row with its name says. -/
theorem gives_find {name : String} {user : UserRecord}
    (gives : Gives (Users.find name) store user) :
    ∃ row ∈ store.users, row.name = name ∧ Reads store row user := by
  obtain ⟨found, looks, finds⟩ := gives_bind (looks_view _) gives
  obtain rfl := gives_found finds
  exact findNamed?_ok (gives_transact looks)

theorem exec_find {name : String} {row : UserRow} {user : UserRecord}
    (found : store.users.find? (·.name == name) = some row) (reads : Reads store row user)
    (workspace : Vault.Workspace) :
    exec (Users.find name) ⟨.opened store, workspace⟩ = (.ok user, ⟨.opened store, workspace⟩) := by
  rw [Users.find, exec_bind_ok (exec_transact_ok (findNamed?_run found reads) workspace)]
  rfl

/-- Without a row of that name the lookup fails, and names the user it did not find. -/
theorem exec_find_absent {name : String} (absent : store.users.find? (·.name == name) = none)
    (workspace : Vault.Workspace) :
    exec (Users.find name) ⟨.opened store, workspace⟩ =
      (.error (.notFound s!"user {name}"), ⟨.opened store, workspace⟩) := by
  have looks : (Store.Users.findNamed? name).run store = .ok (none, store) :=
    Transaction.view_ok.mpr ⟨by rw [absent]; rfl, rfl⟩
  rw [Users.find, exec_bind_ok (exec_transact_ok looks workspace)]
  rfl

private theorem looks_grantsOf (roles : List RoleId) : LooksOnly (Users.grantsOf roles) :=
  .bind (.transact fun ended => (findAll_ok ended).1) fun _ => .pure _

private theorem gives_grantsOf {roles : List RoleId} {grants : List Grant}
    (gives : Gives (Users.grantsOf roles) store grants) : Granted store roles grants := by
  obtain ⟨found, looks, returns⟩ := gives_bind (.transact fun ended => (findAll_ok ended).1) gives
  obtain rfl := gives_pure returns
  exact (findAll_ok (gives_transact looks)).2

theorem looks_requireGroup (id : GroupId) : LooksOnly (Users.requireGroup id) :=
  .bind (looks_view _) fun _ => .bind (.found _ _) fun _ => .pure _

theorem gives_requireGroup {id : GroupId} (gives : Gives (Users.requireGroup id) store ()) :
    ∃ row ∈ store.groups, row.id = id := by
  obtain ⟨found, looks, gives⟩ := gives_bind (looks_view _) gives
  obtain ⟨group, finds, _⟩ := gives_bind (.found _ _) gives
  obtain rfl := gives_found finds
  obtain ⟨row, member, same, _⟩ := findGroup?_ok (gives_transact looks)
  exact ⟨row, member, same⟩

theorem exec_requireGroup {id : GroupId} {row : GroupRow} {group : CatalogGroup}
    (found : store.groups.find? (·.id == id) = some row) (reads : row.read store = .ok group)
    (workspace : Vault.Workspace) :
    exec (Users.requireGroup id) ⟨.opened store, workspace⟩ =
      (.ok (), ⟨.opened store, workspace⟩) := by
  have looks : (Groups.find? id).run store = .ok (some group, store) :=
    Transaction.view_ok.mpr ⟨readOptional_ok.mpr ⟨row, found, reads⟩, rfl⟩
  rw [Users.requireGroup, exec_bind_ok (exec_transact_ok looks workspace)]
  rfl

/-- A read that is to find something ends as the read of the tables by itself. -/
theorem exec_readBack {α : Type} {read : Store → Except StoreError (Option α)}
    (missing : AccountsError) (store : Store) (workspace : Vault.Workspace) :
    exec (do found missing (← transact (.view read))) ⟨.opened store, workspace⟩ =
      (readBack (.view read) missing store, ⟨.opened store, workspace⟩) := by
  have same {result : Option α} {after : Store}
      (ended : (Transaction.view read).run store = .ok (result, after)) : after = store :=
    Transaction.view_same ended
  rw [exec_bind, exec_transact, readBack]
  cases ended : (Transaction.view read).run store with
  | error failure => rfl
  | ok result =>
    obtain ⟨value?, after⟩ := result
    obtain rfl := same ended
    cases value? <;> rfl

/-- The profile of a user that was written is read from the tables as they are. -/
theorem exec_writtenProfile (id : UserId) (store : Store) (workspace : Vault.Workspace) :
    exec (Users.writtenProfile id) ⟨.opened store, workspace⟩ =
      (profileAfter store id, ⟨.opened store, workspace⟩) := by
  rw [Users.writtenProfile, exec_bind, exec_transact, profileAfter, readBack]
  cases ended : (Store.Users.find? id).run store with
  | error failure => rfl
  | ok result =>
    obtain ⟨value?, after⟩ := result
    obtain rfl : after = store := Transaction.view_same ended
    cases value? <;> rfl

/-- Adding a user where the password is sealed and the tables take it. -/
theorem exec_insert {request : CreateRequest} {assignment : Assignment} {stored : String}
    {after : Store} {workspace : Vault.Workspace}
    (seals : (Attempt.exec (context.vault.sealFor assignment.highest request.password)
      workspace).1 = .ok stored)
    (created : (Store.Users.create (request.newUser context.freshId assignment stored)
      context.now).run store = .ok ((), after)) :
    exec (Users.insert context request assignment) ⟨.opened store, workspace⟩ =
      (profileAfter after context.freshId, ⟨.opened after, (Attempt.exec
        (context.vault.sealFor assignment.highest request.password) workspace).2⟩) := by
  rw [Users.insert, exec_bind_ok (exec_vault_ok seals)]
  exact (exec_bind_ok (exec_transact_ok created _)).trans (exec_writtenProfile _ _ _)

/-- A creation that passes every check is an insertion. -/
theorem exec_create {caller : Identity} {request : CreateRequest} {grants : List Grant}
    {state : State}
    (valid : request.fields.validate = .ok ())
    (allowed : (Access.Gate.createUser caller).toExcept = .ok ())
    (granted : exec (Users.grantsOf request.roles) state = (.ok grants, state))
    (listed : exec (Users.requireGroup (Assignment.forCreate caller grants request.group).group)
      state = (.ok (), state))
    (assigned : (Access.Gate.assign caller
      (Assignment.forCreate caller grants request.group)).toExcept = .ok ()) :
    exec (Users.create context caller request) state =
      exec (Users.insert context request (Assignment.forCreate caller grants request.group))
        state := by
  rw [Users.create, exec_bind_ok (exec_check_ok valid _), exec_bind_ok (exec_check_ok allowed _),
    exec_bind_ok granted]
  dsimp only
  rw [exec_bind_ok listed, exec_bind_ok (exec_check_ok assigned _)]

/-! ## Looking at the vault -/

private theorem looks_reseal (vault : Vault) (user : UserRecord) (role : Role) :
    LooksOnly (Users.reseal vault user role) := by
  unfold Users.reseal
  split
  · exact .pure _
  · exact .bind (.vault _) fun _ => .bind (.vault _) fun _ => .pure _

theorem looks_newStored (vault : Vault) (user : UserRecord) (password : Option Secret)
    (role : Role) : LooksOnly (Users.newStored vault user password role) := by
  unfold Users.newStored
  split
  · exact .bind (.vault _) fun _ => .pure _
  · split
    · exact .pure _
    · exact looks_reseal vault user role

private theorem gives_newStored {vault : Vault} {user : UserRecord} {password : Option Secret}
    {role : Role}
    {stored : Option String}
    (gives : Gives (Users.newStored vault user password role) store stored) :
    Restores vault user role password stored := by
  unfold Users.newStored at gives
  split at gives
  · obtain ⟨sealed, seals, returns⟩ := gives_bind (.vault _) gives
    obtain rfl := gives_pure returns
    exact .supplied (gives_vault seals)
  · split at gives
    · rename_i same
      obtain rfl := gives_pure gives
      exact .kept same
    · rename_i changes
      unfold Users.reseal at gives
      split at gives
      · rename_i plain
        obtain rfl := gives_pure gives
        exact .plaintext plain
      · rename_i closed
        obtain ⟨opened, opens, gives⟩ := gives_bind (.vault _) gives
        obtain ⟨sealed, seals, returns⟩ := gives_bind (.vault _) gives
        obtain rfl := gives_pure returns
        exact .resealed closed (gives_vault opens) (gives_vault seals) changes

/-! ## Queries -/

private theorem looks_getRole (id : RoleId) : LooksOnly (Catalog.getRole id) :=
  .bind (looks_view _) fun _ => .found _ _

theorem looks_getGroup (id : GroupId) : LooksOnly (Catalog.getGroup id) :=
  .bind (looks_view _) fun _ => .found _ _

private theorem looks_matchesStored (vault : Vault) (user : UserRecord) (password : Secret) :
    LooksOnly (Users.matchesStored vault user password) := by
  unfold Users.matchesStored
  split
  · exact .pure _
  · refine .bind (.outcome (.vault _)) fun result => ?_
    split
    · exact .pure _
    · exact .pure _
    · exact .throw _

private theorem looks_candidates (caller : Identity) :
    LooksOnly (transact (Users.candidates caller)) := by
  refine .transact fun {store result after} ended => ?_
  unfold Users.candidates at ended
  split at ended
  · exact Transaction.view_same ended
  · exact Transaction.view_same ended
  · obtain ⟨_, looked, looks, returns⟩ := Transaction.bind_ok ended
    obtain rfl := Transaction.view_same looks
    exact (Transaction.pure_ok returns).2

/-- No query changes the tables. -/
theorem looks_query (context : Context) (query : Query) : LooksOnly (query.answer context) := by
  cases query with
  | user caller name =>
    exact .map _ (.bind (looks_find _) fun _ => .bind (.check _) fun _ => .pure _)
  | users caller => exact .map _ (.bind (looks_candidates _) fun _ => .pure _)
  | reveal caller name =>
    refine .map _ (.bind (looks_find _) fun user => .bind (.check _) fun _ => ?_)
    split
    · exact .throw _
    · exact .vault _
  | login name password =>
    exact .map _ (.bind (looks_view _) fun _ => .bind (.found _ _) fun _ =>
      .bind (looks_matchesStored _ _ _) fun _ => .bind (.require _ _) fun _ => .pure _)
  | role id => exact .map _ (looks_getRole id)
  | roles => exact .map _ (looks_view _)
  | group id => exact .map _ (looks_getGroup id)
  | groups => exact .map _ (looks_view _)

/-! ## Changing users -/

/-- Where the gate lets an operation go on, it has allowed it. -/
theorem gives_decision {decision : Access.Decision}
    (gives : Gives (check decision.toExcept) store ()) : decision = .allow := by
  have checked := gives_check gives
  cases decision with
  | allow => rfl
  | deny refusal => cases checked

section Ends

variable {holds : Except AccountsError Profile → Store → Prop}

private theorem ends_insert {request : CreateRequest} {assignment : Assignment}
    (refused : ∀ failure, holds (.error failure) store)
    (inserted : ∀ after, Inserts context request assignment store after →
      holds (profileAfter after context.freshId) after) :
    Ends (Users.insert context request assignment) store holds :=
  .bind_looking (.vault _) refused fun stored seals =>
    .bind_transact refused fun _ after created =>
      .of_exec (exec_writtenProfile _ _)
        (inserted after ⟨stored, gives_vault seals, create_ok created⟩)

end Ends

private theorem ends_createOperator (request : CreateRequest) :
    Ends (Command.perform context (.createOperator request)) store
      (Effect context (.createOperator request) store) := by
  refine .map (.bind_looking (.check _) (fun _ => .refused) fun _ valid => ?_)
  exact ends_insert (fun _ => .refused) fun after inserts =>
    .operatorAdded (gives_check valid) inserts

private theorem ends_createUser (caller : Identity) (request : CreateRequest) :
    Ends (Command.perform context (.createUser caller request)) store
      (Effect context (.createUser caller request) store) := by
  refine .map (.bind_looking (.check _) (fun _ => .refused) fun _ valid => ?_)
  refine .bind_looking (.check _) (fun _ => .refused) fun _ allowed => ?_
  refine .bind_looking (looks_grantsOf _) (fun _ => .refused) fun grants granted => ?_
  refine .bind_looking (looks_requireGroup _) (fun _ => .refused) fun _ _ => ?_
  refine .bind_looking (.check _) (fun _ => .refused) fun _ assigned => ?_
  exact ends_insert (fun _ => .refused) fun after inserts =>
    .userAdded (gives_check valid) (gives_decision allowed) (gives_grantsOf granted)
      (gives_decision assigned) inserts

private theorem ends_updateUser (caller : Identity) (request : UpdateRequest) :
    Ends (Command.perform context (.updateUser caller request)) store
      (Effect context (.updateUser caller request) store) := by
  refine .map (.bind_looking (.check _) (fun _ => .refused) fun _ valid => ?_)
  refine .bind_looking (looks_find _) (fun _ => .refused) fun user found => ?_
  refine .bind_looking (.check _) (fun _ => .refused) fun _ allowed => ?_
  refine .bind_looking (looks_grantsOf _) (fun _ => .refused) fun grants granted => ?_
  obtain ⟨row, member, named, reads⟩ := gives_find found
  let assignment := Assignment.forUpdate user.assignment grants request.group
  -- what follows the check of the assignment, whether or not it was made
  have writes (assigned : assignment ≠ user.assignment → Gate.assign caller assignment = .allow) :
      Ends (do
        let stored ← Users.newStored context.vault user request.password assignment.highest
        let found ← transact (Users.save (request.applyTo user assignment) stored context.now)
        require found (.notFound s!"user {request.name}")
        Users.writtenProfile user.id) store
          fun outcome after => Effect context (.updateUser caller request) store
            (outcome.map .profile) after := by
    refine .bind_looking (looks_newStored _ _ _ _) (fun _ => .refused) fun stored restores => ?_
    refine .bind_transact (fun _ => .refused) fun found after saves => ?_
    obtain ⟨rfl, rfl⟩ | ⟨rfl, saved⟩ := save_ok saves
    · exact .of_exec (fun _ => rfl) .refused
    · exact .of_exec (exec_writtenProfile _ _) (.userSaved (gives_check valid) member named reads
        (gives_decision allowed) (gives_grantsOf granted) rfl assigned (gives_newStored restores)
        saved)
  show Ends (if assignment ≠ user.assignment then _ else _) _ _
  split
  · refine .bind_looking (looks_requireGroup _) (fun _ => .refused) fun _ _ => ?_
    refine .bind_looking (.check _) (fun _ => .refused) fun _ assigned => ?_
    exact writes fun _ => gives_decision assigned
  · rename_i same
    exact writes fun different => absurd different same

private theorem ends_deleteUser (caller : Identity) (name : String) :
    Ends (Command.perform context (.deleteUser caller name)) store
      (Effect context (.deleteUser caller name) store) := by
  refine .map (.bind_looking (looks_find _) (fun _ => .refused) fun user found => ?_)
  refine .bind_looking (.check _) (fun _ => .refused) fun _ allowed => ?_
  obtain ⟨row, member, named, reads⟩ := gives_find found
  refine .bind_transact (fun _ => .refused) fun there after deletes => ?_
  obtain ⟨rfl, rfl⟩ | ⟨rfl, rfl⟩ := delete_ok deletes
  · exact .of_exec (fun _ => rfl) .refused
  · exact .of_exec (fun _ => rfl) (.userDeleted member named reads (gives_decision allowed))

/-! ## Sealing -/

/-- Sealing the password of one user fails and writes nothing, or it writes the sealed password. -/
theorem ends_sealRecord (user : UserRecord) :
    Ends (Users.sealRecord context user) store fun outcome after =>
      ((∃ failure, outcome = .error failure) ∧ after = store) ∨
        outcome = .ok () ∧ ∃ stored, SealsKept context.vault user stored ∧
          after = { store with
            users := Users.modifyRow user.id.text
              (withStored stored context.now) store.users } := by
  unfold Users.sealRecord
  split
  · exact .of_exec (fun _ => rfl) (.inl ⟨⟨_, rfl⟩, rfl⟩)
  · rename_i plain
    refine .bind_looking (.require _ _) (fun _ => .inl ⟨⟨_, rfl⟩, rfl⟩) fun _ shaped => ?_
    refine .bind_looking (.vault _) (fun _ => .inl ⟨⟨_, rfl⟩, rfl⟩) fun stored seals => ?_
    refine .bind_transact (fun _ => .inl ⟨⟨_, rfl⟩, rfl⟩) fun found after sets => ?_
    obtain ⟨rfl, _, rfl⟩ | ⟨rfl, _, rfl⟩ := setStored_ok sets
    · exact .of_exec (fun _ => rfl) (.inl ⟨⟨_, rfl⟩, rfl⟩)
    · exact .of_exec (fun _ => rfl)
        (.inr ⟨rfl, stored, ⟨plain, gives_require shaped, gives_vault seals⟩, rfl⟩)

private theorem ends_sealNamed (name : String) :
    Ends (Command.perform context (.sealNamed name)) store
      (Effect context (.sealNamed name) store) := by
  refine .map (.bind_looking (looks_find _) (fun _ => .refused) fun user found => ?_)
  obtain ⟨row, member, named, reads⟩ := gives_find found
  refine (ends_sealRecord user).mono ?_
  rintro outcome after (⟨⟨failure, rfl⟩, rfl⟩ | ⟨rfl, stored, kept, rfl⟩)
  · exact .refused
  · exact .passwordSealed member named reads kept

private theorem ends_sealEach (users : List UserRecord) (report : SealReport) :
    Ends (Users.sealEach context users report) store fun _ after =>
      Sweeps context users store after := by
  induction users generalizing store report with
  | nil => exact .of_exec (fun _ => rfl) (.ended _ _)
  | cons user rest inductionHypothesis =>
    rw [Users.sealEach]
    refine .bind_outcome (ends_sealRecord user) fun outcome after sealing => ?_
    obtain ⟨⟨failure, rfl⟩, rfl⟩ | ⟨rfl, stored, kept, rfl⟩ := sealing
    · split
      · exact (inductionHypothesis _).mono fun _ _ => .skipped
      · exact .of_exec (fun _ => rfl) (.ended _ _)
    · exact (inductionHypothesis _).mono fun _ _ => .sealed kept

private theorem ends_sealAll :
    Ends (Command.perform context .sealAll) store (Effect context .sealAll store) := by
  refine .map (.bind_looking (looks_view _) (fun _ => .refused) fun users listed => ?_)
  exact (ends_sealEach users {}).mono fun _ _ => .swept (gives_transact listed)

/-! ## Changing the catalog -/

private theorem gives_requireManager {caller : Identity}
    (gives : Gives (Catalog.requireManager caller) store ()) :
    caller.isOperator = true := by
  have allowed := gives_decision gives
  unfold Access.Gate.manageCatalog at allowed
  split at allowed
  · assumption
  · cases allowed

theorem looks_checkNew (name note : String) : LooksOnly (Catalog.checkNew name note) :=
  .bind (.check _) fun _ => .check _

theorem looks_checkChange (name note : Option String) : LooksOnly (Catalog.checkChange name note) :=
  .bind (.check _) fun _ => .check _

theorem looks_requireRoles (roles : List RoleId) : LooksOnly (Catalog.requireRoles roles) :=
  .bind (.transact fun ended => (findAll_ok ended).1) fun _ => .pure _

theorem gives_getRole {id : RoleId} {role : CatalogRole}
    (gives : Gives (Catalog.getRole id) store role) :
    ∃ row ∈ store.roles, row.id = id ∧ ReadsRole row role := by
  obtain ⟨found, looks, finds⟩ := gives_bind (looks_view _) gives
  obtain rfl := gives_found finds
  exact findRole?_ok (gives_transact looks)

theorem gives_getGroup {id : GroupId} {group : CatalogGroup}
    (gives : Gives (Catalog.getGroup id) store group) :
    (Groups.find? id).run store = .ok (some group, store) := by
  obtain ⟨found, looks, finds⟩ := gives_bind (looks_view _) gives
  obtain rfl := gives_found finds
  exact gives_transact looks

/-- A role is added in one transaction and read back in another. -/
theorem exec_createRole (role : NewRole) (now : Time.Instant) (store : Store)
    (workspace : Vault.Workspace) :
    exec (Action.store (Database.createRole role now)) ⟨.opened store, workspace⟩ =
      match (Roles.add role now).run store with
      | .error failure => (.error (AccountsError.ofStore failure), ⟨.opened store, workspace⟩)
      | .ok (id, after) =>
        (readBack (Roles.find? id) (.internal (StoreError.internal
          s!"role {id} vanished after insert").message) after, ⟨.opened after, workspace⟩) := by
  unfold exec Action.store Database.createRole
  simp only [ExceptT.run, ExceptT.mk, bind, ExceptT.bind, StateT.bind, StateT.run,
    Database.transact, ExceptT.bindCont]
  cases Roles.add role now store with
  | error failure => rfl
  | ok added =>
    obtain ⟨id, after⟩ := added
    simp only [readBack, StateT.run, StateT.bind]
    cases finds : Roles.find? id after with
    | error failure => rfl
    | ok result =>
      obtain ⟨role?, looked⟩ := result
      obtain rfl : looked = after := Transaction.view_same finds
      cases role? <;> rfl

private theorem ends_createRole (caller : Identity) (request : CreateRoleRequest) :
    Ends (Command.perform context (.createRole caller request)) store
      (Effect context (.createRole caller request) store) := by
  refine .map (.bind_looking (looks_checkNew _ _) (fun _ => .refused) fun _ _ => ?_)
  refine .bind_looking (.check _) (fun _ => .refused) fun _ manager => ?_
  intro workspace
  rw [exec_createRole]
  cases adds : (Roles.add ⟨request.name, request.role, request.note⟩ context.now).run store with
  | error failure => exact ⟨_, store, workspace, rfl, .refused⟩
  | ok added =>
    exact ⟨_, added.2, workspace, rfl,
      .roleAdded (gives_requireManager manager) (addRole_ok adds)⟩

/-- What is builtin keeps its name where a change is let through. -/
theorem keepsName {builtin renames : Bool} (passes : (!(builtin && renames)) = true) :
    builtin = true → renames = false := by
  cases builtin <;> cases renames <;> simp_all

private theorem ends_updateRole (caller : Identity) (id : RoleId) (request : UpdateRoleRequest) :
    Ends (Command.perform context (.updateRole caller id request)) store
      (Effect context (.updateRole caller id request) store) := by
  refine .map (.bind_looking (looks_checkChange _ _) (fun _ => .refused) fun _ _ => ?_)
  refine .bind_looking (.check _) (fun _ => .refused) fun _ manager => ?_
  refine .bind_looking (looks_getRole _) (fun _ => .refused) fun role found => ?_
  refine .bind_looking (.require _ _) (fun _ => .refused) fun _ keeps => ?_
  obtain ⟨row, member, same, reads⟩ := gives_getRole found
  refine .bind_transact (fun _ => .refused) fun there after updates => ?_
  obtain ⟨rfl, rfl⟩ | ⟨rfl, _, newName, rfl⟩ := updateRole_ok updates
  · exact .of_exec (fun _ => rfl) .refused
  · exact .of_exec (exec_readBack _ _)
      (.roleRelabeled (gives_requireManager manager) member same reads newName
        (keepsName (gives_require keeps)))

private theorem ends_deleteRole (caller : Identity) (id : RoleId) :
    Ends (Command.perform context (.deleteRole caller id)) store
      (Effect context (.deleteRole caller id) store) := by
  refine .map (.bind_looking (.check _) (fun _ => .refused) fun _ manager => ?_)
  refine .bind_looking (looks_getRole _) (fun _ => .refused) fun role found => ?_
  refine .bind_looking (.require _ _) (fun _ => .refused) fun _ custom => ?_
  obtain ⟨row, member, same, reads⟩ := gives_getRole found
  refine .bind_looking (looks_view _) (fun _ => .refused) fun references _ => ?_
  refine .bind_looking (.require _ _) (fun _ => .refused) fun _ _ => ?_
  refine .bind_transact (fun _ => .refused) fun there after deletes => ?_
  obtain ⟨rfl, rfl⟩ | ⟨rfl, unheld, unlisted, rfl⟩ := deleteRole_ok deletes
  · exact .of_exec (fun _ => rfl) .refused
  · exact .of_exec (fun _ => rfl) (.roleDeleted (gives_requireManager manager) unheld unlisted
      ⟨row, member, same, by simpa [reads.builtin] using gives_require custom⟩)

private theorem ends_createGroup (caller : Identity) (request : CreateGroupRequest) :
    Ends (Command.perform context (.createGroup caller request)) store
      (Effect context (.createGroup caller request) store) := by
  refine .map (.bind_looking (looks_checkNew _ _) (fun _ => .refused) fun _ _ => ?_)
  refine .bind_looking (.check _) (fun _ => .refused) fun _ manager => ?_
  refine .bind_looking (looks_requireRoles _) (fun _ => .refused) fun _ _ => ?_
  refine .transact (fun _ => .refused) fun created after creates => ?_
  obtain ⟨id, between, added, lists, _⟩ := createGroup_ok creates
  exact .groupAdded (gives_requireManager manager) added lists

private theorem ends_updateGroup (caller : Identity) (id : GroupId) (request : UpdateGroupRequest) :
    Ends (Command.perform context (.updateGroup caller id request)) store
      (Effect context (.updateGroup caller id request) store) := by
  refine .map (.bind_looking (looks_checkChange _ _) (fun _ => .refused) fun _ _ => ?_)
  refine .bind_looking (.check _) (fun _ => .refused) fun _ manager => ?_
  refine .bind_looking (looks_getGroup _) (fun _ => .refused) fun group found => ?_
  refine .bind_looking (.require _ _) (fun _ => .refused) fun _ keeps => ?_
  refine .bind_looking (looks_requireRoles _) (fun _ => .refused) fun _ _ => ?_
  refine .bind_transact (fun _ => .refused) fun there after updates => ?_
  obtain ⟨rfl, rfl⟩ | ⟨rfl, between, relabeled, lists⟩ := updateGroup_ok updates
  · exact .of_exec (fun _ => rfl) .refused
  · exact .of_exec (exec_readBack _ _)
      (.groupRelabeled (gives_requireManager manager) (gives_getGroup found) relabeled lists
        (keepsName (gives_require keeps)))

private theorem ends_deleteGroup (caller : Identity) (id : GroupId) :
    Ends (Command.perform context (.deleteGroup caller id)) store
      (Effect context (.deleteGroup caller id) store) := by
  refine .map (.bind_looking (.check _) (fun _ => .refused) fun _ manager => ?_)
  refine .bind_looking (looks_getGroup _) (fun _ => .refused) fun group found => ?_
  refine .bind_looking (.require _ _) (fun _ => .refused) fun _ custom => ?_
  obtain ⟨row, member, same, _, builtin⟩ := findGroup?_ok (gives_getGroup found)
  refine .bind_looking (looks_view _) (fun _ => .refused) fun members _ => ?_
  refine .bind_looking (.require _ _) (fun _ => .refused) fun _ _ => ?_
  refine .bind_transact (fun _ => .refused) fun there after deletes => ?_
  obtain ⟨rfl, rfl⟩ | ⟨rfl, empty, rfl⟩ := deleteGroup_ok deletes
  · exact .of_exec (fun _ => rfl) .refused
  · exact .of_exec (fun _ => rfl) (.groupDeleted (gives_requireManager manager) empty member same
      (by simpa [builtin] using gives_require custom))

/-- Every call ends in one of the ways of `Effect`. -/
theorem perform_effect (context : Context) (command : Command) (store : Store) :
    Ends (command.perform context) store (Effect context command store) := by
  cases command with
  | createOperator request => exact ends_createOperator request
  | createUser caller request => exact ends_createUser caller request
  | updateUser caller request => exact ends_updateUser caller request
  | deleteUser caller name => exact ends_deleteUser caller name
  | sealNamed name => exact ends_sealNamed name
  | sealAll => exact ends_sealAll
  | createRole caller request => exact ends_createRole caller request
  | updateRole caller id request => exact ends_updateRole caller id request
  | deleteRole caller id => exact ends_deleteRole caller id
  | createGroup caller request => exact ends_createGroup caller request
  | updateGroup caller id request => exact ends_updateGroup caller id request
  | deleteGroup caller id => exact ends_deleteGroup caller id
  | look query =>
    exact .looking (looks_query context query) (fun _ => .refused) fun _ _ => .looked

end RoleVault.Accounts
