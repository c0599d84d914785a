import RoleVault.Accounts.Catalog
import RoleVault.Accounts.Users
import RoleVault.Proofs.Accounts.Action
import RoleVault.Store.Catalog
import RoleVault.Vault.InProcess

/-!
Contract: runs of the services.

Owns:
- `Command`, the operations that a service is called for, and `Command.perform`;
- `Event`, what happens to the state: a call, a user added with its password as it is kept, or a
  change of the files behind the services; `Event.Adds`, the key that a user is added under; and `run`,
  events one after the other;
- `Sample`, a small installation for runs on fixed inputs;
- `run_induction`, by which an invariant of the steps holds along every run.

Does not own: what a call does (`RoleVault.Proofs.Accounts.Effect`).
-/

namespace RoleVault.Accounts

open RoleVault.Store (NewUser)
open RoleVault.Vault (Workspace)

/-- A call that is not there to change anything. -/
inductive Query where
  | user (caller : Identity) (name : String)
  | users (caller : Identity)
  | reveal (caller : Identity) (name : String)
  | login (name : String) (password : Secret)
  | role (id : RoleId)
  | roles
  | group (id : GroupId)
  | groups

/-- A call of one of the services. -/
inductive Command where
  | createOperator (request : CreateRequest)
  | createUser (caller : Identity) (request : CreateRequest)
  | updateUser (caller : Identity) (request : UpdateRequest)
  | deleteUser (caller : Identity) (name : String)
  | sealNamed (name : String)
  | sealAll
  | createRole (caller : Identity) (request : CreateRoleRequest)
  | updateRole (caller : Identity) (id : RoleId) (request : UpdateRoleRequest)
  | deleteRole (caller : Identity) (id : RoleId)
  | createGroup (caller : Identity) (request : CreateGroupRequest)
  | updateGroup (caller : Identity) (id : GroupId) (request : UpdateGroupRequest)
  | deleteGroup (caller : Identity) (id : GroupId)
  | look (query : Query)

/-- What a call answers. -/
inductive Answer where
  | done
  | profile (profile : Profile)
  | profiles (profiles : List Profile)
  | report (report : SealReport)
  | password (password : Secret)
  | identity (identity : Identity)
  | role (role : Store.CatalogRole)
  | roles (roles : List Store.CatalogRole)
  | group (group : Store.CatalogGroup)
  | groups (groups : List Store.CatalogGroup)

def Query.answer (context : Context) : Query → Action Answer
  | user caller name => Answer.profile <$> Users.get caller name
  | users caller => Answer.profiles <$> Users.list caller
  | reveal caller name => Answer.password <$> Users.reveal context caller name
  | login name password => Answer.identity <$> Users.authenticate context name password
  | role id => Answer.role <$> Catalog.getRole id
  | roles => Answer.roles <$> Catalog.listRoles
  | group id => Answer.group <$> Catalog.getGroup id
  | groups => Answer.groups <$> Catalog.listGroups

/-- Does what a call asks for. -/
def Command.perform (context : Context) : Command → Action Answer
  | createOperator request => Answer.profile <$> Users.createOperator context request
  | createUser caller request => Answer.profile <$> Users.create context caller request
  | updateUser caller request => Answer.profile <$> Users.update context caller request
  | deleteUser caller name => (fun _ => Answer.done) <$> Users.delete caller name
  | sealNamed name => (fun _ => Answer.done) <$> Users.sealNamed context name
  | sealAll => Answer.report <$> Users.sealAll context
  | createRole caller request => Answer.role <$> Catalog.createRole context.now caller request
  | updateRole caller id request =>
    Answer.role <$> Catalog.updateRole context.now caller id request
  | deleteRole caller id => (fun _ => Answer.done) <$> Catalog.deleteRole caller id
  | createGroup caller request => Answer.group <$> Catalog.createGroup context.now caller request
  | updateGroup caller id request =>
    Answer.group <$> Catalog.updateGroup context.now caller id request
  | deleteGroup caller id => (fun _ => Answer.done) <$> Catalog.deleteGroup caller id
  | look query => query.answer context

/-- How a call ends. -/
def Command.outcome (context : Context) (command : Command) (state : State) :
    Except AccountsError Answer :=
  (Action.exec (command.perform context) state).1

/-- Something that happens to the state. -/
inductive Event where
  /-- A call of a service. -/
  | call (context : Context) (command : Command)
  /-- A user is added to the tables with its password in the form that is kept. -/
  | insert (user : NewUser) (now : Time.Instant)
  /-- The files change behind the services. -/
  | files (change : Workspace → Workspace)

namespace Event

/-- The state after an event. -/
def apply : Event → State → State
  | call context command, state => (Action.exec (command.perform context) state).2
  | insert user now, state => (Action.exec (Action.transact (Store.Users.create user now)) state).2
  | files change, state => { state with workspace := change state.workspace }

/-- Whether a user is added from outside under a key. -/
def Adds (key : String) : Event → Prop
  | insert user _ => user.id.text = key
  | _ => False

end Event

/-- The state after some events. -/
def run (events : List Event) (state : State) : State :=
  events.foldl (fun state event => event.apply state) state

/-- The state of a new installation. -/
def State.fresh (now : Time.Instant) (workspace : Workspace) : State :=
  ⟨Database.fresh now, workspace⟩

@[simp] theorem run_nil (state : State) : run [] state = state := rfl

@[simp] theorem run_cons (event : Event) (events : List Event) (state : State) :
    run (event :: events) state = run events (event.apply state) := rfl

/-- A run may be cut in two at any event. -/
theorem run_append (events later : List Event) (state : State) :
    run (events ++ later) state = run later (run events state) :=
  List.foldl_append

/-- What holds at first and after each step where it held before, holds after a run. -/
theorem run_induction (holds : State → Prop) (admitted : Event → Prop)
    (step : ∀ event state, admitted event → holds state → holds (event.apply state))
    {events : List Event} (allAdmitted : ∀ event ∈ events, admitted event) {state : State}
    (start : holds state) : holds (run events state) := by
  induction events generalizing state with
  | nil => exact start
  | cons event rest inductionHypothesis =>
    rw [run_cons]
    exact inductionHypothesis
      (fun other member => allAdmitted other (List.mem_cons_of_mem _ member))
      (step event state (allAdmitted event List.mem_cons_self) start)

/-! ## A small installation -/

namespace Sample

def now : Time.Instant := default

def id : UserId := ⟨List.replicate 16 7, rfl⟩

def vault : Vault where
  engine := .inProcess false
  keys := .inDirectory ⟨"", []⟩
  scratchRoot := ⟨"", []⟩
  timeout := 1000

def context : Context := ⟨vault, now, id⟩

/-- The files, both keys among them. -/
def files : Workspace where
  disk := { entries := [(["pub_key"], .file [1]), (["master_key"], .file [1])] }

def request : CreateRequest where
  name := "root"
  password := ⟨"password1"⟩

end Sample

end RoleVault.Accounts
