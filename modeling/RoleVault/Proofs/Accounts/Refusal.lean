import RoleVault.Proofs.Access.Fields
import RoleVault.Proofs.Access.Gate
import RoleVault.Proofs.Accounts.Run

/-!
Contract: a request that is refused for its fields or its caller is refused the same everywhere.

Owns:
- `Rejects`, the operations that end with one failure whatever the state, and leave the state as it
  is;
- `Command.fields`, what a call supplies, `Command.askedBy`, the call as another caller makes it, and
  `Command.barrier?`, the barrier below whose level it is refused outright;
- `refused_alike_everywhere`, for every call, every caller, every vault and every state.

Does not own: the rules of fields (`RoleVault.Proofs.Access.Fields`) and levels
(`RoleVault.Access.Gate`).

The vault is part of what varies.  An engine is any function of the files, one that leaves a mark
with each call among them, so that the files are as before says that it is never called.
-/

namespace RoleVault.Accounts

open RoleVault.Access (Field FieldProblem Refusal firstProblem? reportOf)

/-! ## Operations that only refuse -/

namespace Action

variable {α β : Type} {action : Action α} {first : Action α} {following : α → Action β}
variable {failure : AccountsError}

/-- Whether an operation ends with a failure in every state, and changes nothing. -/
def Rejects (action : Action α) (failure : AccountsError) : Prop :=
  ∀ state, exec action state = (.error failure, state)

namespace Rejects

theorem check (failure : AccessError) :
    Rejects (Action.check (.error failure) : Action α) (AccountsError.ofAccess failure) :=
  fun _ => rfl

/-- What would follow is not looked at. -/
theorem bind (rejects : Rejects first failure) : Rejects (first >>= following) failure := by
  intro state
  rw [exec_bind, rejects state]

/-- A check that holds lets the next step refuse. -/
theorem after {outcome : Except AccessError α} {value : α} (holds : outcome = .ok value)
    (rejects : Rejects (following value) failure) :
    Rejects (Action.check outcome >>= following) failure := by
  intro state
  rw [exec_bind_ok (exec_check_ok holds state), rejects state]

theorem map (f : α → β) (rejects : Rejects action failure) : Rejects (f <$> action) failure := by
  intro state
  rw [exec_map, rejects state]
  rfl

end Rejects

end Action

open RoleVault.Accounts.Action (Rejects)

/-! ## What a call supplies, and what it asks of its caller -/

/-- The name and the note of an entry of the catalog, as far as they are supplied. -/
def entryFields (name note : Option String) : List Field :=
  (name.map Field.name).toList ++ (note.map Field.note).toList

/-- A level that a call asks for before anything is looked up, and the refusal of those below. -/
structure Barrier where
  level : Role
  refusal : Refusal

/-- Whether a caller is below the level of a barrier. -/
def Barrier.Stops (barrier : Barrier) (caller : Identity) : Prop :=
  caller.highest.atLeast barrier.level = false

/-- The same question of another caller. -/
def Query.askedBy (caller : Identity) : Query → Query
  | user _ name => user caller name
  | users _ => users caller
  | reveal _ name => reveal caller name
  | query => query

namespace Command

/-- The same call of another caller. -/
def askedBy (caller : Identity) : Command → Command
  | createUser _ request => createUser caller request
  | updateUser _ request => updateUser caller request
  | deleteUser _ name => deleteUser caller name
  | createRole _ request => createRole caller request
  | updateRole _ id request => updateRole caller id request
  | deleteRole _ id => deleteRole caller id
  | createGroup _ request => createGroup caller request
  | updateGroup _ id request => updateGroup caller id request
  | deleteGroup _ id => deleteGroup caller id
  | look query => look (query.askedBy caller)
  | command => command

/-- The fields that a call supplies, in the order in which they are looked at. -/
def fields : Command → List Field
  | createOperator request | createUser _ request => request.fields.supplied
  | updateUser _ request => request.fields.supplied
  | createRole _ request => entryFields (some request.name) (some request.note)
  | createGroup _ request => entryFields (some request.name) (some request.note)
  | updateRole _ _ request => entryFields request.name request.note
  | updateGroup _ _ request => entryFields request.name request.note
  | _ => []

/-- Creating users is for admins, and changing the catalog for service operators.  Who may update or
delete a user hangs on that user too. -/
def barrier? : Command → Option Barrier
  | createUser _ _ => some ⟨.admin, .creation⟩
  | createRole _ _ | updateRole _ _ _ | deleteRole _ _ => some ⟨.operator, .catalog⟩
  | createGroup _ _ | updateGroup _ _ _ | deleteGroup _ _ => some ⟨.operator, .catalog⟩
  | _ => none

end Command

/-! ## The checks of a call -/

variable {α : Type} {following : Unit → Action α} {caller : Identity} {problem : FieldProblem}
variable {failure : AccountsError}

private theorem rejects_invalid {fields : List Field}
    (first : firstProblem? fields = some problem) :
    Rejects (Action.check (reportOf (firstProblem? fields)) >>= following)
      (.invalidInput problem.message) := by
  rw [first]
  exact (Rejects.check problem.toError).bind

private theorem rejects_after_valid {fields : List Field} (valid : firstProblem? fields = none)
    (rejects : Rejects (following ()) failure) :
    Rejects (Action.check (reportOf (firstProblem? fields)) >>= following) failure :=
  rejects.after (congrArg reportOf valid)

/-- The two checks of an entry of the catalog are one check of both fields. -/
theorem checkChange_eq (name note : Option String) :
    Catalog.checkChange name note =
      Action.check (reportOf (firstProblem? (entryFields name note))) := by
  rw [Catalog.checkChange, Access.whenSupplied_eq Access.validateName_eq,
    Access.whenSupplied_eq Access.validateNote_eq, entryFields, ← Access.reportOf_append]
  cases reportOf (firstProblem? (name.map Field.name).toList) <;> rfl

private theorem checkNew_eq (name note : String) :
    Catalog.checkNew name note =
      Action.check (reportOf (firstProblem? (entryFields (some name) (some note)))) :=
  checkChange_eq (some name) (some note)

private theorem requireManager_rejects (below : (Barrier.mk .operator .catalog).Stops caller) :
    Rejects (Catalog.requireManager caller) (.permissionDenied Refusal.catalog.message) := by
  rw [Catalog.requireManager, Access.Gate.manageCatalog_deny below]
  exact Rejects.check _

private theorem requireCreator_rejects (below : (Barrier.mk .admin .creation).Stops caller) :
    Rejects (Action.check (Access.Gate.createUser caller).toExcept)
      (.permissionDenied Refusal.creation.message) := by
  rw [Access.Gate.createUser_deny below]
  exact Rejects.check _

/-! ## Whole calls -/

variable {context : Context}

/-- A call with an invalid field is rejected for the first of them. -/
theorem perform_rejects_invalid (command : Command)
    (first : firstProblem? command.fields = some problem) :
    Rejects ((command.askedBy caller).perform context) (.invalidInput problem.message) := by
  -- One case for each kind of call: each starts with its check of fields, or supplies none.
  cases command with
  | createOperator request =>
    refine Rejects.map _ ?_
    rw [Users.createOperator, Access.UserFields.validate_eq]
    exact rejects_invalid first
  | createUser _ request =>
    refine Rejects.map _ ?_
    rw [Users.create, Access.UserFields.validate_eq]
    exact rejects_invalid first
  | updateUser _ request =>
    refine Rejects.map _ ?_
    rw [Users.update, Access.UserFields.validate_eq]
    exact rejects_invalid first
  | createRole _ request =>
    refine Rejects.map _ ?_
    rw [Catalog.createRole, checkNew_eq]
    exact rejects_invalid first
  | updateRole _ id request =>
    refine Rejects.map _ ?_
    rw [Catalog.updateRole, checkChange_eq]
    exact rejects_invalid first
  | createGroup _ request =>
    refine Rejects.map _ ?_
    rw [Catalog.createGroup, checkNew_eq]
    exact rejects_invalid first
  | updateGroup _ id request =>
    refine Rejects.map _ ?_
    rw [Catalog.updateGroup, checkChange_eq]
    exact rejects_invalid first
  | deleteUser _ _ | deleteRole _ _ | deleteGroup _ _ | sealNamed _ | sealAll | look _ =>
    cases first

/-- A call with valid fields of a caller below its barrier is rejected there. -/
theorem perform_rejects_below (command : Command) (valid : firstProblem? command.fields = none)
    {barrier : Barrier} (stands : command.barrier? = some barrier) (below : barrier.Stops caller) :
    Rejects ((command.askedBy caller).perform context)
      (.permissionDenied barrier.refusal.message) := by
  cases command with
  | createUser _ request =>
    cases stands
    refine Rejects.map _ ?_
    rw [Users.create, Access.UserFields.validate_eq]
    exact rejects_after_valid valid (requireCreator_rejects below).bind
  | createRole _ request =>
    cases stands
    refine Rejects.map _ ?_
    rw [Catalog.createRole, checkNew_eq]
    exact rejects_after_valid valid (requireManager_rejects below).bind
  | updateRole _ id request =>
    cases stands
    refine Rejects.map _ ?_
    rw [Catalog.updateRole, checkChange_eq]
    exact rejects_after_valid valid (requireManager_rejects below).bind
  | deleteRole _ id =>
    cases stands
    exact Rejects.map _ (requireManager_rejects below).bind
  | createGroup _ request =>
    cases stands
    refine Rejects.map _ ?_
    rw [Catalog.createGroup, checkNew_eq]
    exact rejects_after_valid valid (requireManager_rejects below).bind
  | updateGroup _ id request =>
    cases stands
    refine Rejects.map _ ?_
    rw [Catalog.updateGroup, checkChange_eq]
    exact rejects_after_valid valid (requireManager_rejects below).bind
  | deleteGroup _ id =>
    cases stands
    exact Rejects.map _ (requireManager_rejects below).bind
  | createOperator _ | updateUser _ _ | deleteUser _ _ | sealNamed _ | sealAll | look _ =>
    cases stands

/-- A request with an invalid field is refused for the first of them, and one with valid fields of a
caller below its barrier is refused there.  Caller or level, clock, vault and state make no
difference to the failure, and the state stays as it is. -/
theorem refused_alike_everywhere (command : Command) :
    (∀ problem, firstProblem? command.fields = some problem → ∀ caller context,
      Rejects ((command.askedBy caller).perform context) (.invalidInput problem.message)) ∧
    (firstProblem? command.fields = none → ∀ barrier, command.barrier? = some barrier →
      ∀ caller, barrier.Stops caller → ∀ context,
        Rejects ((command.askedBy caller).perform context)
          (.permissionDenied barrier.refusal.message)) :=
  ⟨fun _ first _ _ => perform_rejects_invalid command first,
    fun valid _ stands _ below _ => perform_rejects_below command valid stands below⟩

namespace Sample

def visitor : Identity := ⟨id, "ada", "Ada", defaultGroup, [.user]⟩

def operator : Identity := ⟨id, "root", "Root", operatorGroup, [.operator]⟩

/-- Two of the fields break their rules, and there is no such user. -/
def misaddressed : Command :=
  .updateUser visitor { name := "nobody", email := some "ada@home", phone := some "call me" }

def newGroup : Command :=
  .createGroup operator ⟨"builders", "", [7]⟩

end Sample

open Sample in
/-- The address is reported, neither the phone number nor that there is no such user, and a visitor
hears nothing of the missing role of a group. -/
theorem misaddressed_refused_alike :
    (firstProblem? misaddressed.fields = some (.email "ada@home") ∧
      Rejects ((misaddressed.askedBy operator).perform context)
        (.invalidInput (FieldProblem.email "ada@home").message)) ∧
    (firstProblem? newGroup.fields = none ∧
      newGroup.barrier? = some ⟨.operator, .catalog⟩ ∧
      (Barrier.mk .operator .catalog).Stops visitor ∧
      Rejects ((newGroup.askedBy visitor).perform context)
        (.permissionDenied "only op_service may create, update or delete roles and groups")) := by
  have misaddressed_first : firstProblem? misaddressed.fields = some (.email "ada@home") := by decide
  have newGroup_valid : firstProblem? newGroup.fields = none := by decide
  have visitor_stopped : (Barrier.mk .operator .catalog).Stops visitor := rfl
  exact ⟨⟨misaddressed_first,
      (refused_alike_everywhere misaddressed).1 _ misaddressed_first operator context⟩,
    ⟨newGroup_valid, rfl, visitor_stopped,
      (refused_alike_everywhere newGroup).2 newGroup_valid _ rfl visitor visitor_stopped context⟩⟩

end RoleVault.Accounts
