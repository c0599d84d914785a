import RoleVault.Proofs.Accounts.Run
import RoleVault.Proofs.Store.Levels

/-!
Contract: all that a call can do to the tables.

Owns:
- `Effect`, the ways in which a call can end, with all that has to hold where it writes;
- the parts that several of them share: sealing, adding a user, reading back what was written.

Does not own: that calls end in these ways and no other (`RoleVault.Proofs.Accounts.Perform`).
-/

namespace RoleVault.Accounts

open RoleVault.Access (Assignment Gate.assign Gate.createUser Gate.updateUser Gate.deleteUser Grant)
open RoleVault.Store
open RoleVault.Vault (Attempt)

/-! ## Sealing and opening -/

def Seals (vault : Vault) (role : Role) (password : Secret) (stored : String) : Prop :=
  ∃ before after, Attempt.exec (vault.sealFor role password) before = (.ok stored, after)

def Opens (vault : Vault) (role : Role) (stored : String) (password : Secret) : Prop :=
  ∃ before after, Attempt.exec (vault.openWith role stored) before = (.ok password, after)

/-- The password that a change writes, if it writes one. -/
inductive Restores (vault : Vault) (user : UserRecord) (role : Role) :
    Option Secret → Option String → Prop where
  | supplied {password : Secret} {stored : String} (sealing : Seals vault role password stored) :
    Restores vault user role (some password) (some stored)
  | kept (same : role = user.assignment.highest) : Restores vault user role none none
  | plaintext (plain : Vault.classify user.stored = .plaintext) : Restores vault user role none none
  | resealed {password : Secret} {stored : String} (closed : Vault.classify user.stored = .sealed)
    (opening : Opens vault .operator user.stored password)
    (sealing : Seals vault role password stored) (changes : role ≠ user.assignment.highest) :
    Restores vault user role none (some stored)

/-- What sealing the password of a user that is kept as it is needs and gives. -/
structure SealsKept (vault : Vault) (user : UserRecord) (stored : String) : Prop where
  plain : Vault.classify user.stored = .plaintext
  shaped : Access.isPasswordShaped user.stored = true
  sealing : Seals vault (Role.highest user.roles) ⟨user.stored⟩ stored

/-! ## Effects -/

/-- What is found again after it was written. -/
def readBack {α : Type} (find : Transaction (Option α)) (missing : AccountsError) (store : Store) :
    Except AccountsError α :=
  match find.run store with
  | .ok (some value, _) => .ok value
  | .ok (none, _) => .error missing
  | .error failure => .error (AccountsError.ofStore failure)

def profileAfter (store : Store) (id : UserId) : Except AccountsError Profile :=
  (readBack (Store.Users.find? id) (.internal s!"user {id} vanished after write") store).map
    Profile.ofRecord

def CreateRequest.newUser (request : CreateRequest) (id : UserId) (assignment : Assignment)
    (stored : String) : NewUser where
  id := id
  name := request.name
  stored := stored
  displayName := request.displayName.getD request.name
  email := request.email
  phone := request.phone
  group := assignment.group
  roles := assignment.grants.map Grant.id

/-- The tables after the password was sealed and the user was added. -/
def Inserts (context : Context) (request : CreateRequest) (assignment : Assignment)
    (before after : Store) : Prop :=
  ∃ stored, Seals context.vault assignment.highest request.password stored ∧
    Added (request.newUser context.freshId assignment stored) context.now before after

/-- The tables after the passwords of some of these users were sealed, one after the other. -/
inductive Sweeps (context : Context) : List UserRecord → Store → Store → Prop where
  | ended (users : List UserRecord) (store : Store) : Sweeps context users store store
  | skipped {user : UserRecord} {users : List UserRecord} {before after : Store}
    (rest : Sweeps context users before after) : Sweeps context (user :: users) before after
  | sealed {user : UserRecord} {users : List UserRecord} {before after : Store} {stored : String}
    (kept : SealsKept context.vault user stored)
    (rest : Sweeps context users { before with
      users := Users.modifyRow user.id.text (withStored stored context.now) before.users } after) :
    Sweeps context (user :: users) before after

/-- The ways in which a call can end, from the tables before it to those after it. -/
inductive Effect (context : Context) :
    Command → Store → Except AccountsError Answer → Store → Prop where
  /-- Nothing was written. -/
  | refused {command : Command} {store : Store} {failure : AccountsError} :
    Effect context command store (.error failure) store
  | looked {query : Query} {store : Store} {answer : Answer} :
    Effect context (.look query) store (.ok answer) store
  | operatorAdded {request : CreateRequest} {before after : Store}
    (valid : request.fields.validate = .ok ())
    (inserts : Inserts context request Users.operatorAssignment before after) :
    Effect context (.createOperator request) before
      ((profileAfter after context.freshId).map .profile) after
  | userAdded {caller : Identity} {request : CreateRequest} {grants : List Grant}
    {before after : Store} (valid : request.fields.validate = .ok ())
    (allowed : Gate.createUser caller = .allow) (granted : Granted before request.roles grants)
    (assigned : Gate.assign caller (Assignment.forCreate caller grants request.group) = .allow)
    (inserts :
      Inserts context request (Assignment.forCreate caller grants request.group) before after) :
    Effect context (.createUser caller request) before
      ((profileAfter after context.freshId).map .profile) after
  | userSaved {caller : Identity} {request : UpdateRequest} {row : UserRow} {user : UserRecord}
    {grants : List Grant} {assignment : Assignment} {stored : Option String} {before after : Store}
    (valid : request.fields.validate = .ok ()) (member : row ∈ before.users)
    (named : row.name = request.name) (reads : Reads before row user)
    (allowed : Gate.updateUser caller (Users.target user) = .allow)
    (granted : Granted before request.roles grants)
    (assignment_eq : assignment = Assignment.forUpdate user.assignment grants request.group)
    (assigned : assignment ≠ user.assignment → Gate.assign caller assignment = .allow)
    (restores : Restores context.vault user assignment.highest request.password stored)
    (saved : Saved (request.applyTo user assignment) stored context.now before after) :
    Effect context (.updateUser caller request) before
      ((profileAfter after user.id).map .profile) after
  | userDeleted {caller : Identity} {name : String} {row : UserRow} {user : UserRecord}
    {before : Store} (member : row ∈ before.users) (named : row.name = name)
    (reads : Reads before row user)
    (allowed : Gate.deleteUser caller (Users.target user) = .allow) :
    Effect context (.deleteUser caller name) before (.ok .done) (before.without user.id.text)
  | passwordSealed {name : String} {row : UserRow} {user : UserRecord} {stored : String}
    {before : Store} (member : row ∈ before.users) (named : row.name = name)
    (reads : Reads before row user) (kept : SealsKept context.vault user stored) :
    Effect context (.sealNamed name) before (.ok .done) { before with
      users := Users.modifyRow user.id.text (withStored stored context.now) before.users }
  | swept {users : List UserRecord} {outcome : Except AccountsError Answer} {before after : Store}
    (listed : Store.Users.list.run before = .ok (users, before))
    (sweeps : Sweeps context users before after) :
    Effect context .sealAll before outcome after
  | roleAdded {caller : Identity} {request : CreateRoleRequest} {id : RoleId} {before after : Store}
    (manager : caller.isOperator = true)
    (added : RoleAdded id ⟨request.name, request.role, request.note⟩ context.now before after) :
    Effect context (.createRole caller request) before
      ((readBack (Roles.find? id) (.internal (StoreError.internal
        s!"role {id} vanished after insert").message) after).map .role) after
  | roleRelabeled {caller : Identity} {id : RoleId} {request : UpdateRoleRequest}
      {role : CatalogRole}
    {row : RoleRow} {before : Store} (manager : caller.isOperator = true)
    (member : row ∈ before.roles) (same : row.id = id) (reads : ReadsRole row role)
    (newName : ∀ row ∈ before.roles, row.id ≠ id → request.name ≠ some row.name)
    (keeps : role.builtin = true → Catalog.renames role.name request.name = false) :
    Effect context (.updateRole caller id request) before
      ((readBack (Roles.find? id) (.notFound s!"role {id}") { before with
        roles := before.roles.map (relabeledRole id request.name request.note context.now) }).map
          .role)
      { before with
        roles := before.roles.map (relabeledRole id request.name request.note context.now) }
  | roleDeleted {caller : Identity} {id : RoleId} {before : Store}
    (manager : caller.isOperator = true) (unheld : ∀ held ∈ before.userRoles, held.role ≠ id)
    (unlisted : ∀ listed ∈ before.groupRoles, listed.role ≠ id)
    (custom : ∃ row ∈ before.roles, row.id = id ∧ row.builtin = false) :
    Effect context (.deleteRole caller id) before (.ok .done)
      { before with roles := before.roles.filter (·.id != id) }
  | groupAdded {caller : Identity} {request : CreateGroupRequest} {id : GroupId}
    {group : CatalogGroup} {before between after : Store} (manager : caller.isOperator = true)
    (added : GroupAdded id request.name request.note context.now before between)
    (lists : ListsExactly id request.roles between after) :
    Effect context (.createGroup caller request) before (.ok (.group group)) after
  | groupRelabeled {caller : Identity} {id : GroupId} {request : UpdateGroupRequest}
    {group : CatalogGroup} {before between after : Store} (manager : caller.isOperator = true)
    (found : (Groups.find? id).run before = .ok (some group, before))
    (relabeled : Relabeled id request.name request.note context.now before between)
    (lists : after = between ∨
      ∃ listed, request.roles = some listed ∧ ListsExactly id listed between after)
    (keeps : group.builtin = true → Catalog.renames group.name request.name = false) :
    Effect context (.updateGroup caller id request) before
      ((readBack (Groups.find? id) (.notFound s!"group {id}") after).map .group) after
  | groupDeleted {caller : Identity} {id : GroupId} {row : GroupRow} {before : Store}
    (manager : caller.isOperator = true) (empty : ∀ user ∈ before.users, user.group ≠ id)
    (member : row ∈ before.groups) (same : row.id = id) (custom : row.builtin = false) :
    Effect context (.deleteGroup caller id) before (.ok .done) { before with
      groups := before.groups.filter (·.id != id)
      groupRoles := before.groupRoles.filter (·.group != id) }

end RoleVault.Accounts
