import RoleVault.Proofs.Accounts.Patch

/-!
Contract: no call ever writes a password as it is.

Owns:
- `Retains`, changes after which a password is sealed or is, byte for byte, the one that its user had;
- `sealed_never_plaintext_again`: along every run, what is once sealed stays sealed.

Does not own: what a sealed password opens to (`RoleVault.Proofs.Accounts.Policy` and its neighbour).
-/

namespace RoleVault.Accounts

open RoleVault.Store
open RoleVault.Vault (Engine Workspace)

variable {before between after store : Store}

namespace Event

/-- Whether a call has the engine inside the program, be it hanging or not. -/
def IsInProcess : Event → Prop
  | call context _ => ∃ hanging, context.vault.engine = Engine.inProcess hanging
  | _ => True

end Event

/-! ## Changes -/

/-- Whether a password is sealed, or its user had the very same before. -/
def IsRetained (before : Store) (row : UserRow) : Prop :=
  Vault.classify row.stored = .sealed ∨
    ∃ source ∈ before.users, source.id = row.id ∧ source.stored = row.stored

/-- A change after which every password is retained, but for users added by some events. -/
def Retains (events : List Event) (before after : Store) : Prop :=
  ∀ row ∈ after.users, (∀ event ∈ events, ¬ event.Adds row.id) → IsRetained before row

namespace Retains

/-- A change without additions from outside. -/
theorem of_retained {events : List Event}
    (retained : ∀ row ∈ after.users, IsRetained before row) : Retains events before after :=
  fun row member _ => retained row member

theorem of_users {events : List Event} (users : ∀ row ∈ after.users, row ∈ before.users) :
    Retains events before after :=
  of_retained fun row member => .inr ⟨row, users row member, rfl, rfl⟩

/-- Passwords are retained over two runs if they are over each. -/
theorem append {first second : List Event} (here : Retains first before between)
    (onwards : Retains second between after) : Retains (first ++ second) before after := by
  intro row member unadded
  have later := onwards row member fun event listed =>
    unadded event (List.mem_append_right first listed)
  rcases later with closed | ⟨middle, middleMember, sameKey, sameText⟩
  · exact .inl closed
  · have earlier := here middle middleMember fun event listed => by
      rw [sameKey]
      exact unadded event (List.mem_append_left second listed)
    rw [IsRetained, ← sameText, ← sameKey]
    exact earlier

/-- A user is written with a password that is sealed, or with the one it has. -/
theorem of_modifyRow {events : List Event} {id : String} {write : UserRow → UserRow}
    (users : after.users = Users.modifyRow id write before.users)
    (keeps : ∀ row, (write row).id = row.id)
    (writes : ∀ row ∈ before.users, row.id = id →
      Vault.classify (write row).stored = .sealed ∨ (write row).stored = row.stored) :
    Retains events before after := by
  apply of_retained
  intro row member
  rw [users, mem_modifyRow] at member
  obtain ⟨source, sourceMember, ⟨same, rfl⟩ | ⟨_, rfl⟩⟩ := member
  · rcases writes source sourceMember same with closed | kept
    · exact .inl closed
    · exact .inr ⟨source, sourceMember, (keeps source).symm, kept.symm⟩
  · exact .inr ⟨row, sourceMember, rfl, rfl⟩

end Retains

/-! ## Calls -/

section Calls

variable {context : Context} {hanging : Bool}
variable (inProcess : context.vault.engine = Engine.inProcess hanging)

include inProcess

private theorem seals_classify {role : Role} {password : Secret} {stored : String}
    (seals : Seals context.vault role password stored) : Vault.classify stored = .sealed := by
  rw [seals_eq inProcess seals]
  exact Vault.classify_sealedText role password.expose

/-- What a sealing writes is sealed. -/
theorem Restores.classify {user : UserRecord} {role : Role} {given : Option Secret}
    {stored : String} (restores : Restores context.vault user role given (some stored)) :
    Vault.classify stored = .sealed := by
  cases restores with
  | supplied sealing => exact seals_classify inProcess sealing
  | resealed _ _ sealing => exact seals_classify inProcess sealing

private theorem Inserts.retains {request : CreateRequest} {assignment : Access.Assignment}
    (inserts : Inserts context request assignment before after) : Retains [] before after := by
  obtain ⟨stored, seals, added⟩ := inserts
  apply Retains.of_retained
  intro row member
  rw [added.users, List.mem_append, List.mem_singleton] at member
  rcases member with member | rfl
  · exact .inr ⟨row, member, rfl, rfl⟩
  · exact .inl (seals_classify inProcess seals)

private theorem SealsKept.retains {user : UserRecord} {stored : String}
    (kept : SealsKept context.vault user stored) :
    Retains [] store { store with
      users := Users.modifyRow user.id.text (withStored stored context.now) store.users } :=
  Retains.of_modifyRow rfl (withStored_id stored context.now) fun _ _ _ =>
    .inl (seals_classify inProcess kept.sealing)

private theorem Sweeps.retains {users : List UserRecord}
    (sweeps : Sweeps context users before after) :
    Retains [] before after := by
  induction sweeps with
  | ended users store => exact Retains.of_users fun _ member => member
  | skipped rest inductionHypothesis => exact inductionHypothesis
  | «sealed» kept rest inductionHypothesis =>
    exact (kept.retains inProcess).append inductionHypothesis

/-- A user that is changed is written with the password that it had, which is read before, or with one
that is sealed. -/
theorem retains_saved {user : UserRecord} {row : UserRow} {request : UpdateRequest}
    {assignment : Access.Assignment} {stored : Option String} (sound : Sound before)
    (member : row ∈ before.users) (reads : Reads before row user)
    (restores : Restores context.vault user assignment.highest request.password stored)
    (saved : Saved (request.applyTo user assignment) stored context.now before after) :
    Retains [] before after := by
  refine Retains.of_modifyRow saved.users (rewritten_id _ _ _) ?_
  intro source sourceMember same
  cases stored with
  | some stored => exact .inl (restores.classify inProcess)
  | none =>
    obtain rfl := sound.schema.user_eq member sourceMember
      ((sound.text_eq member reads).trans same.symm)
    exact .inr reads.stored

private theorem Effect.retains {command : Command} {outcome : Except AccountsError Answer}
    (sound : Sound before) (effect : Effect context command before outcome after) :
    Retains [] before after := by
  have catalog := effect.catalog sound
  cases effect with
  | refused => exact Retains.of_users fun _ member => member
  | looked => exact Retains.of_users fun _ member => member
  | operatorAdded _ inserts => exact inserts.retains inProcess
  | userAdded _ _ _ _ inserts => exact inserts.retains inProcess
  | userSaved _ member _ reads _ _ _ _ restores saved =>
    exact retains_saved inProcess sound member reads restores saved
  | userDeleted _ _ _ _ => exact Retains.of_users fun row member => List.mem_of_mem_filter member
  | passwordSealed _ _ _ kept => exact kept.retains inProcess
  | swept _ sweeps => exact sweeps.retains inProcess
  | _ => exact Retains.of_users fun row member => (catalog rfl).2.users ▸ member

end Calls

/-! ## Runs -/

private theorem Event.Changes.retains {event : Event} (sound : Sound before)
    (inProcess : event.IsInProcess) (changes : event.Changes before after) :
    Retains [event] before after := by
  cases changes with
  | called effect =>
    obtain ⟨hanging, inProcess⟩ := inProcess
    have called := effect.retains inProcess sound
    exact fun row member _ => called row member (by simp)
  | @inserted user now _ _ added =>
    intro row member unadded
    rw [added.users, List.mem_append, List.mem_singleton] at member
    rcases member with member | rfl
    · exact .inr ⟨row, member, rfl, rfl⟩
    · exact absurd rfl (unadded (.insert user now) List.mem_cons_self)
  | refused => exact Retains.of_users fun _ member => member
  | moved => exact Retains.of_users fun _ member => member

/-- A run retains passwords because each of its steps does. -/
theorem run_retains {events : List Event} (inProcess : ∀ event ∈ events, event.IsInProcess)
    (sound : Sound before) (files : Workspace) :
    ∃ after later, run events ⟨.opened before, files⟩ = ⟨.opened after, later⟩ ∧
      Retains events before after := by
  induction events generalizing before files with
  | nil => exact ⟨before, files, rfl, Retains.of_users fun _ member => member⟩
  | cons event rest inductionHypothesis =>
    obtain ⟨first, others⟩ := List.forall_mem_cons.mp inProcess
    obtain ⟨between, moved, applies, changes⟩ := event.apply_changes before files
    obtain ⟨after, later, runs, retains⟩ :=
      inductionHypothesis others (changes.sound sound) moved
    refine ⟨after, later, ?_, (changes.retains sound first).append retains⟩
    rw [run_cons, applies, runs]

/-- Whatever happens after some part of a run from a new installation: a user that no one added from
outside meanwhile has a sealed password or, byte for byte, the one it had; and if that one was sealed,
it still is. -/
theorem sealed_never_plaintext_again (installed : Time.Instant) (workspace : Workspace)
    {earlier later : List Event} (inProcess : ∀ event ∈ later, event.IsInProcess) :
    ∃ before files after last,
      run earlier (State.fresh installed workspace) = ⟨.opened before, files⟩ ∧
      run later ⟨.opened before, files⟩ = ⟨.opened after, last⟩ ∧
      ∀ row ∈ after.users, (∀ event ∈ later, ¬ event.Adds row.id) →
        (Vault.classify row.stored = .sealed ∨
          ∃ source ∈ before.users, source.id = row.id ∧ source.stored = row.stored) ∧
        ∀ source ∈ before.users, source.id = row.id → Vault.classify source.stored = .sealed →
          Vault.classify row.stored = .sealed := by
  obtain ⟨before, files, leads, sound⟩ := run_sound installed workspace earlier
  obtain ⟨after, last, runs, retains⟩ := run_retains inProcess sound files
  refine ⟨before, files, after, last, leads, runs, ?_⟩
  intro row member unadded
  have retained := retains row member unadded
  refine ⟨retained, ?_⟩
  intro source sourceMember same closed
  rcases retained with still | ⟨other, otherMember, otherSame, text⟩
  · exact still
  · obtain rfl := sound.schema.user_eq sourceMember otherMember (same.trans otherSame.symm)
    rw [← text]
    exact closed

namespace Sample

/-- Another name, and the password as it is. -/
def otherName : UpdateRequest where
  name := "root"
  newName := some "chief"

def renamedTables : Store :=
  { tables with users := [rewritten (otherName.applyTo record record.assignment) none now row] }

open RoleVault.Accounts.Action in
private theorem exec_otherName : ∃ profile,
    exec (Command.perform context (.updateUser self otherName)) ⟨.opened tables, files⟩ =
      (.ok (.profile profile), ⟨.opened renamedTables, files⟩) := by
  have keeps : exec (Users.newStored context.vault record otherName.password
      record.assignment.highest) ⟨.opened tables, files⟩ =
        (.ok none, ⟨.opened tables, files⟩) := by
    rw [show otherName.password = none from rfl, Users.newStored, if_pos rfl]
    rfl
  have saves : (Users.save (otherName.applyTo record record.assignment) none now).run tables =
      .ok (true, renamedTables) := rfl
  obtain ⟨profile, updates⟩ := exec_selfUpdate (by decide) rfl rfl rfl keeps saves
  refine ⟨profile, ?_⟩
  rw [Command.perform, exec_map, updates]
  rfl

end Sample

/-- A first service operator takes another name, and its password stays sealed, byte for byte the text
that it was. -/
theorem first_operator_never_plaintext :
    (∀ event ∈ [Event.call Sample.context (.updateUser Sample.self Sample.otherName)],
      event.IsInProcess) ∧
      ∃ before files after last,
        run Sample.events (State.fresh Sample.now Sample.files) = ⟨.opened before, files⟩ ∧
        run [.call Sample.context (.updateUser Sample.self Sample.otherName)]
          ⟨.opened before, files⟩ = ⟨.opened after, last⟩ ∧
        ∃ source ∈ before.users, ∃ row ∈ after.users,
          source.name = "root" ∧ row.name = "chief" ∧ Vault.classify source.stored = .sealed ∧
            row.stored = source.stored ∧ Vault.classify row.stored = .sealed := by
  have inProcess : ∀ event ∈ [Event.call Sample.context
      (.updateUser Sample.self Sample.otherName)], event.IsInProcess := by
    intro event listed
    rw [List.mem_singleton.mp listed]
    exact ⟨false, rfl⟩
  obtain ⟨before, files, after, last, leads, runs, retained⟩ :=
    @sealed_never_plaintext_again Sample.now Sample.files Sample.events _ inProcess
  have start := Sample.run_events.symm.trans leads
  obtain ⟨profile, updated⟩ := Sample.exec_otherName
  refine ⟨inProcess, before, files, after, last, leads, runs, ?_⟩
  cases start
  rw [run_cons, run_nil, Event.apply, updated] at runs
  cases runs
  have closed : Vault.classify Sample.row.stored = .sealed := Vault.classify_sealedText _ _
  have unadded : ∀ event ∈ [Event.call Sample.context (.updateUser Sample.self Sample.otherName)],
      ¬ event.Adds Sample.row.id := by
    intro event listed
    rw [List.mem_singleton.mp listed]
    exact id
  refine ⟨Sample.row, List.mem_cons_self, _, List.mem_cons_self, rfl, rfl, closed, rfl, ?_⟩
  exact (retained _ List.mem_cons_self unadded).2 Sample.row List.mem_cons_self rfl closed

end RoleVault.Accounts
