import Mathlib
import RoleVault.Proofs.Accounts.Passwords

/-!
Contract: a sealed password is sealed for the highest level that its user holds.

Owns:
- `Guarded`, tables in which every user has a password, kept in one of the two forms;
- `sealed_for_highest`: after every run, a sealed password opens for the levels that reach the
  highest one of its user, and for no others.

Does not own: which password that is (`RoleVault.Proofs.Accounts.Login`).
-/

namespace RoleVault.Accounts

open RoleVault.Files
open RoleVault.Store
open RoleVault.Vault (Attempt Ready Workspace)

variable {before after store : Store}

/-- Sound tables in which every user has a password. -/
structure Guarded (store : Store) : Prop where
  sound : Sound store
  has : ∀ row ∈ store.users, ∃ password, Has store row password

private theorem guarded_freshTables (stamp : String) : Guarded (freshTables stamp) :=
  ⟨sound_freshTables stamp, nofun⟩

/-- Users keep a password, be it the one they had or the one they are given. -/
theorem Guarded.carried {given : Option Given} (guarded : Guarded before) (sound : Sound after)
    (carries : Carries given before after) : Guarded after := by
  refine ⟨sound, fun row member => ?_⟩
  obtain ⟨_, password, _, _, has⟩ | ⟨_, source, sourceMember, _, keeps⟩ := carries row member
  · exact ⟨password, has⟩
  · obtain ⟨password, has⟩ := guarded.has source sourceMember
    exact ⟨password, keeps password has⟩

private theorem run_guarded (installed : Time.Instant) (workspace : Workspace) {events : List Event}
    (regular : ∀ event ∈ events, event.IsRegular) :
    ∃ store files, run events (State.fresh installed workspace) = ⟨.opened store, files⟩ ∧
      Guarded store := by
  rw [State.fresh, fresh_eq]
  refine run_tables Guarded Event.IsRegular (fun event before after regular changes guarded => ?_)
    regular (guarded_freshTables _) workspace
  obtain ⟨given, carries⟩ := changes.carries guarded.sound regular
  exact guarded.carried (changes.sound guarded.sound) carries

/-- A vault that is ready opens a sealed password for the levels that reach the highest one of the
user, and refuses all others. -/
theorem Guarded.opens {row : UserRow} (guarded : Guarded store) (member : row ∈ store.users)
    (closed : Vault.classify row.stored = .sealed) :
    ∃ password : Secret, ∀ (vault : Vault) (workspace : Workspace), Ready vault workspace →
      ∀ key : Role, (Attempt.exec (vault.openWith key row.stored) workspace).1 =
        if key.atLeast (store.highestHeld row.id) then .ok password else .error .noPermission := by
  obtain ⟨password, has⟩ := guarded.has row member
  obtain ⟨filled, text⟩ := has.eq_of_sealed closed
  refine ⟨⟨password⟩, fun vault workspace ready key => ?_⟩
  rw [text, Vault.openWith_ready ready]
  simp [filled]

/-- After every run from a new installation, whoever calls for whatever, a sealed password opens for
the levels that reach the highest one that its user then holds, and for no others. -/
theorem sealed_for_highest (installed : Time.Instant) (workspace : Workspace) {events : List Event}
    (regular : ∀ event ∈ events, event.IsRegular) :
    ∃ store files, run events (State.fresh installed workspace) = ⟨.opened store, files⟩ ∧
      ∀ row ∈ store.users, Vault.classify row.stored = .sealed →
        ∃ password : Secret, ∀ (vault : Vault) (elsewhere : Workspace), Ready vault elsewhere →
          ∀ key : Role, (Attempt.exec (vault.openWith key row.stored) elsewhere).1 =
            if key.atLeast (store.highestHeld row.id) then .ok password
            else .error .noPermission := by
  obtain ⟨store, files, leads, guarded⟩ := run_guarded installed workspace regular
  exact ⟨store, files, leads, fun row member closed => guarded.opens member closed⟩

/-! ## The first operator of a small installation -/

namespace Sample

theorem fits {name : String} (short : name = "seal-0" ∨ name = "unseal-0") :
    (Path.join name "sealed.cpabe").utf8ByteSize ≤ maxPathSize := by
  unfold Path.join
  rcases short with rfl | rfl <;> split
  · decide
  · split <;> decide
  · decide
  · split <;> decide

theorem usable {label : String} (known : label = "seal" ∨ label = "unseal") :
    Vault.IsUsable vault label files := by
  rcases known with rfl | rfl
  · exact ⟨⟨"", ["seal-0"]⟩, _, by cbv, fits (.inl rfl)⟩
  · exact ⟨⟨"", ["unseal-0"]⟩, _, by cbv, fits (.inr rfl)⟩

theorem ready : Ready vault files where
  inProcess := rfl
  tree := by
    intro place stands held
    match place with
    | [] => rfl
    | [_] => rfl
    | _ :: _ :: _ => simp [files, Disk.get?, List.lookup] at held
  publicKey := by cbv
  masterKey := by cbv
  usable := usable (.inr rfl)

/-- The row of the first operator. -/
def row : UserRow :=
  Users.newRow (request.newUser id Users.operatorAssignment
    (Vault.sealedText .operator request.password.expose)) now

/-- The tables with the first operator. -/
def tables : Store :=
  { freshTables (Time.Rfc3339.renderZulu now.truncate) with
    users := [row]
    userRoles := [⟨id.text, Role.operator.builtinId⟩] }

theorem created :
    (Store.Users.create (request.newUser id Users.operatorAssignment
        (Vault.sealedText .operator request.password.expose)) now).run
      (freshTables (Time.Rfc3339.renderZulu now.truncate)) = .ok ((), tables) := rfl

open RoleVault.Accounts.Action in
/-- A new installation with keys gets its first operator. -/
theorem exec_createOperator : ∃ later,
    exec (Command.perform context (.createOperator request)) (State.fresh now files) =
      ((profileAfter tables id).map .profile, ⟨.opened tables, later⟩) := by
  have valid : request.fields.validate = .ok () := by decide
  have seals : (Attempt.exec (vault.sealFor .operator request.password) files).1 =
      .ok (Vault.sealedText .operator request.password.expose) :=
    Vault.sealFor_ready rfl ready.tree (usable (.inl rfl)) ready.publicKey
  have inserts : exec (Users.insert context request Users.operatorAssignment)
      ⟨.opened (freshTables (Time.Rfc3339.renderZulu now.truncate)), files⟩ = _ :=
    exec_insert seals created
  refine ⟨(Attempt.exec (vault.sealFor .operator request.password) files).2, ?_⟩
  rw [State.fresh, fresh_eq, Command.perform, exec_map, Users.createOperator, exec_bind, exec_check,
    valid]
  simp only [Except.mapError]
  rw [inserts]
  rfl

/-- A first service operator is created, and later the files are again as at first. -/
def events : List Event :=
  [.call context (.createOperator request), .files fun _ => files]

theorem run_events : run events (State.fresh now files) = ⟨.opened tables, files⟩ := by
  obtain ⟨later, creates⟩ := exec_createOperator
  rw [events, run_cons, Event.apply, creates]
  rfl

/-- The first operator holds the operator level. -/
theorem highestHeld_row : tables.highestHeld row.id = .operator := by
  have listed : ⟨Role.operator.builtinId, "op_service", "op_service", "Service operator", true,
      Time.Rfc3339.renderZulu now.truncate, Time.Rfc3339.renderZulu now.truncate⟩ ∈ tables.roles :=
    List.mem_cons_of_mem _ (List.mem_cons_of_mem _ List.mem_cons_self)
  exact Role.highest_eq_operator_iff.mpr
    (mem_levelsHeld.mpr ⟨_, listed, List.mem_cons_self, Role.ofName?_name .operator⟩)

end Sample

/-- The password of a first service operator opens for service operators and for no admin. -/
theorem first_operator_sealed_for_highest :
    (∀ event ∈ [Event.call Sample.context (.createOperator Sample.request)], event.IsRegular) ∧
      ∃ store files, run [.call Sample.context (.createOperator Sample.request)]
          (State.fresh Sample.now Sample.files) = ⟨.opened store, files⟩ ∧
        ∃ row ∈ store.users, Vault.classify row.stored = .sealed ∧
          Ready Sample.vault Sample.files ∧ ∃ password,
            (Attempt.exec (Sample.vault.openWith .operator row.stored) Sample.files).1 =
              .ok password ∧
            (Attempt.exec (Sample.vault.openWith .admin row.stored) Sample.files).1 =
              .error .noPermission := by
  have regular : ∀ event ∈ [Event.call Sample.context (.createOperator Sample.request)],
      event.IsRegular := by
    intro event listed
    rw [List.mem_singleton.mp listed]
    exact ⟨false, rfl⟩
  obtain ⟨store, files, leads, sealedFor⟩ :=
    sealed_for_highest Sample.now Sample.files regular
  obtain ⟨later, created⟩ := Sample.exec_createOperator
  have same : store = Sample.tables := by
    rw [run_cons, run_nil, Event.apply, created] at leads
    cases leads
    rfl
  subst same
  have closed : Vault.classify Sample.row.stored = .sealed := Vault.classify_sealedText _ _
  obtain ⟨password, opens⟩ := sealedFor Sample.row List.mem_cons_self closed
  refine ⟨regular, Sample.tables, files, leads, Sample.row, List.mem_cons_self, closed,
    Sample.ready, password, ?_, ?_⟩
  · rw [opens _ _ Sample.ready, Sample.highestHeld_row]
    rfl
  · rw [opens _ _ Sample.ready, Sample.highestHeld_row]
    rfl

end RoleVault.Accounts
