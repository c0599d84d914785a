import Mathlib
import RoleVault.Proofs.Accounts.Login

/-!
Contract: a password is revealed to those who may read its user and reach the level it holds now.

Owns:
- `exec_read`, how an operation on a user that the caller has to be allowed to read begins, and
  `MayRead`, which users those are;
- `MayReveal`, who may open the password of whom;
- `reveal_faithful`, how revealing ends on faithful tables, and `reveal_follows_current_role`, how it
  ends after every run.

Does not own: which password is remembered (`RoleVault.Proofs.Accounts.Login`).
-/

namespace RoleVault.Accounts

open RoleVault.Access (Gate.readUser Target)
open RoleVault.Accounts.Action
open RoleVault.Store
open RoleVault.Time
open RoleVault.Vault (Attempt Ready Workspace)

variable {store : Store} {context : Context} {caller : Identity} {name : String} {files : Workspace}

/-! ## Users that a caller may read -/

def factsOf (store : Store) (row : UserRow) (id : UserId) : Target :=
  ⟨id, row.group, store.levelsHeld row.id⟩

/-- The gate asks of a row what the record that was read from it says. -/
theorem target_reads {row : UserRow} {user : UserRecord} (reads : Reads store row user) :
    Users.target user = factsOf store row user.id := by
  rw [Users.target, reads.group, reads.roles]
  rfl

/-- An operation on a user that the caller has to be allowed to read. -/
theorem exec_read {α : Type} {following : UserRecord → Action α} {row : UserRow}
    {user : UserRecord} (found : store.users.find? (·.name == name) = some row)
    (reads : Reads store row user) (files : Workspace) :
    exec (do
        let user ← Users.find name
        check (Gate.readUser caller (Users.target user)).toExcept
        following user) ⟨.opened store, files⟩ =
      match Gate.readUser caller (factsOf store row user.id) with
      | .allow => exec (following user) ⟨.opened store, files⟩
      | .deny refusal => (.error (.permissionDenied refusal.message), ⟨.opened store, files⟩) := by
  rw [exec_bind_ok (exec_find found reads files), exec_bind, exec_check, target_reads reads]
  cases Gate.readUser caller (factsOf store row user.id) <;> rfl

/-- Whether a row is that of the user with a name, whom the caller may read. -/
structure MayRead (store : Store) (caller : Identity) (name : String) (row : UserRow)
    (id : UserId) : Prop where
  member : row ∈ store.users
  named : row.name = name
  key : row.id = id.text
  readable : Gate.readUser caller (factsOf store row id) = .allow

/-- There is one user with a name. -/
theorem MayRead.eq {row other : UserRow} {id own : UserId} (may : MayRead store caller name other id)
    (schema : Schema store) (member : row ∈ store.users) (named : row.name = name)
    (key : row.id = own.text) : other = row ∧ id = own := by
  obtain rfl := schema.named_eq may.member member (may.named.trans named.symm)
  exact ⟨rfl, UserId.text_injective (may.key.symm.trans key)⟩

/-- A caller who may read a user without reaching its level is that user. -/
theorem self_of_below {row : UserRow} {id : UserId}
    (readable : Gate.readUser caller (factsOf store row id) = .allow)
    (below : caller.highest.atLeast (store.highestHeld row.id) = false) : caller.id = id := by
  rcases Access.Gate.readUser_allow.mp readable with self | other
  · exact self
  · have reaches : caller.highest.atLeast (store.highestHeld row.id) = true :=
      Access.Gate.actOnOther_reaches other
    rw [below] at reaches
    cases reaches

/-! ## Revealing -/

/-- How revealing the password of a user ends that is known. -/
theorem exec_reveal {row : UserRow} {user : UserRecord} {kept : String}
    (found : store.users.find? (·.name == name) = some row) (reads : Reads store row user)
    (ready : Ready context.vault files) (has : Has store row kept) :
    (exec (Users.reveal context caller name) ⟨.opened store, files⟩).1 =
      match Gate.readUser caller (factsOf store row user.id), Vault.classify row.stored with
      | .deny refusal, _ => .error (.permissionDenied refusal.message)
      | .allow, .plaintext => .error (.conflict s!"password of {name} has not been sealed yet")
      | .allow, .sealed =>
        if caller.highest.atLeast (store.highestHeld row.id) then .ok ⟨kept⟩
        else .error .noPermission := by
  rw [Users.reveal, exec_read found reads files, reads.stored]
  cases Gate.readUser caller (factsOf store row user.id) with
  | deny refusal => rfl
  | allow =>
    cases classified : Vault.classify row.stored with
    | plaintext => rfl
    | «sealed» =>
      obtain ⟨filled, text⟩ := has.eq_of_sealed classified
      simp only [exec_vault]
      rw [text, Vault.openWith_ready ready]
      by_cases reaches : caller.highest.atLeast (store.highestHeld row.id) = true
      · simp [reaches, filled, Except.mapError]
      · simp [reaches, Except.mapError, AccountsError.ofVault]

section Known

variable {row : UserRow} {user : UserRecord} {kept : String}
variable (found : store.users.find? (·.name == name) = some row) (reads : Reads store row user)
variable (ready : Ready context.vault files) (has : Has store row kept)

include found reads ready has

private theorem reveal_ok_iff {password : Secret} :
    (exec (Users.reveal context caller name) ⟨.opened store, files⟩).1 = .ok password ↔
      Gate.readUser caller (factsOf store row user.id) = .allow ∧
        Vault.classify row.stored = .sealed ∧
        caller.highest.atLeast (store.highestHeld row.id) = true ∧ kept = password.expose := by
  obtain ⟨text⟩ := password
  rw [exec_reveal found reads ready has]
  cases Gate.readUser caller (factsOf store row user.id) with
  | deny refusal => simp
  | allow =>
    cases Vault.classify row.stored with
    | plaintext => simp
    | «sealed» => cases caller.highest.atLeast (store.highestHeld row.id) <;> simp

private theorem reveal_noPermission_iff :
    (exec (Users.reveal context caller name) ⟨.opened store, files⟩).1 = .error .noPermission ↔
      Gate.readUser caller (factsOf store row user.id) = .allow ∧
        Vault.classify row.stored = .sealed ∧
        caller.highest.atLeast (store.highestHeld row.id) = false := by
  rw [exec_reveal found reads ready has]
  cases Gate.readUser caller (factsOf store row user.id) with
  | deny refusal => simp
  | allow =>
    cases Vault.classify row.stored with
    | plaintext => simp
    | «sealed» =>
      cases caller.highest.atLeast (store.highestHeld row.id) <;> simp

end Known

private theorem exec_reveal_absent (context : Context) (caller : Identity)
    (absent : store.users.find? (·.name == name) = none) (files : Workspace) :
    (exec (Users.reveal context caller name) ⟨.opened store, files⟩).1 =
      .error (.notFound s!"user {name}") := by
  rw [Users.reveal, exec_bind, exec_find_absent absent]

/-- Whether a row is that of the user with a name, whose password the caller may open: the caller may
read the user, the password is sealed, and the caller reaches the highest level that the user holds. -/
structure MayReveal (store : Store) (caller : Identity) (name : String) (row : UserRow)
    (id : UserId) : Prop extends MayRead store caller name row id where
  closed : Vault.classify row.stored = .sealed
  reaches : caller.highest.atLeast (store.highestHeld row.id) = true

/-- Whether a caller asks for its own password, which is sealed for a level above its own. -/
structure IsOutgrown (store : Store) (caller : Identity) (name : String) (row : UserRow) : Prop where
  member : row ∈ store.users
  named : row.name = name
  self : row.id = caller.id.text
  closed : Vault.classify row.stored = .sealed
  below : caller.highest.atLeast (store.highestHeld row.id) = false

/-- Revealing on faithful tables, with a vault that is ready. -/
theorem reveal_faithful {memory : Memory} (faithful : Faithful memory store)
    (ready : Ready context.vault files) (caller : Identity) (name : String) :
    (∀ password : Secret,
      (exec (Users.reveal context caller name) ⟨.opened store, files⟩).1 = .ok password ↔
        ∃ row id, MayReveal store caller name row id ∧ memory id = some password.expose) ∧
      ((∃ row id, MayReveal store caller name row id) →
        ∃ password, (exec (Users.reveal context caller name) ⟨.opened store, files⟩).1 =
          .ok password) ∧
      ((exec (Users.reveal context caller name) ⟨.opened store, files⟩).1 = .error .noPermission ↔
        ∃ row, IsOutgrown store caller name row) := by
  obtain ⟨sound, timed, remembers⟩ := faithful
  cases found : store.users.find? (·.name == name) with
  | none =>
    have absent := find?_key_none.mp found
    rw [exec_reveal_absent context caller found files]
    refine ⟨fun password => ⟨nofun, ?_⟩, ?_, ⟨nofun, ?_⟩⟩
    · rintro ⟨row, id, may, _⟩
      exact absurd may.named (absent row may.member)
    · rintro ⟨row, id, may⟩
      exact absurd may.named (absent row may.member)
    · rintro ⟨row, outgrown⟩
      exact absurd outgrown.named (absent row outgrown.member)
  | some row =>
    obtain ⟨member, named⟩ := mem_of_find?_key found
    obtain ⟨user, reads, key⟩ := timed.reads sound member
    obtain ⟨kept, known, has⟩ := remembers row member user.id key
    refine ⟨?_, ?_, ?_⟩
    · intro password
      rw [reveal_ok_iff found reads ready has]
      constructor
      · rintro ⟨readable, closed, reaches, rfl⟩
        exact ⟨row, user.id, ⟨⟨member, named, key, readable⟩, closed, reaches⟩, known⟩
      · rintro ⟨other, id, may, last⟩
        obtain ⟨rfl, rfl⟩ := may.eq sound.schema member named key
        rw [known] at last
        exact ⟨may.readable, may.closed, may.reaches, Option.some.inj last⟩
    · rintro ⟨other, id, may⟩
      obtain ⟨rfl, rfl⟩ := may.eq sound.schema member named key
      have opens := (reveal_ok_iff found reads ready has).mpr
        ⟨may.readable, may.closed, may.reaches, rfl⟩
      exact ⟨⟨kept⟩, opens⟩
    · rw [reveal_noPermission_iff found reads ready has]
      constructor
      · rintro ⟨readable, closed, below⟩
        have self := self_of_below readable below
        exact ⟨row, member, named, by rw [key, self], closed, below⟩
      · rintro ⟨other, outgrown⟩
        obtain rfl := sound.schema.named_eq outgrown.member member
          (outgrown.named.trans named.symm)
        have self : caller.id = user.id := UserId.text_injective (outgrown.self.symm.trans key)
        exact ⟨Access.Gate.readUser_allow.mpr (.inl self), outgrown.closed, outgrown.below⟩

/-- After every run from a new installation, revealing a password with a vault that is ready succeeds
for those who may read the user and reach the highest level that it holds now, and gives the password
that the user was last given.  Only a caller whose own level was raised behind its token is told that
the password is closed to it. -/
theorem reveal_follows_current_role (installed : Instant) (workspace : Workspace)
    {events : List Event} (regular : ∀ event ∈ events, event.IsRegular ∧ event.IsDated) :
    ∃ store files, run events (State.fresh installed workspace) = ⟨.opened store, files⟩ ∧
      ∀ (context : Context) (caller : Identity) (name : String), Ready context.vault files →
        let memory := remembered events (State.fresh installed workspace) fun _ => none
        let outcome := (exec (Users.reveal context caller name)
          (run events (State.fresh installed workspace))).1
        (∀ password : Secret, outcome = .ok password ↔
          ∃ row id, MayReveal store caller name row id ∧ memory id = some password.expose) ∧
        ((∃ row id, MayReveal store caller name row id) → ∃ password, outcome = .ok password) ∧
        (outcome = .error .noPermission ↔ ∃ row, IsOutgrown store caller name row) := by
  obtain ⟨store, files, leads, faithful⟩ := run_faithful installed workspace regular
  refine ⟨store, files, leads, fun context caller name ready => ?_⟩
  have reveals := reveal_faithful faithful ready caller name
  rw [← leads] at reveals
  exact reveals

/-- The first operator with a token from before it was one. -/
def Sample.outdated : Identity := { Sample.self with roles := [.user] }

/-- The first operator opens its own password, but not with a token of a lower level. -/
theorem first_operator_reveal_follows_current_role :
    (∀ event ∈ Sample.events, event.IsRegular ∧ event.IsDated) ∧
      Ready Sample.context.vault Sample.files ∧
      (exec (Users.reveal Sample.context Sample.self "root")
          (run Sample.events (State.fresh Sample.now Sample.files))).1 = .ok ⟨"password1"⟩ ∧
      (exec (Users.reveal Sample.context Sample.outdated "root")
          (run Sample.events (State.fresh Sample.now Sample.files))).1 = .error .noPermission := by
  obtain ⟨store, files, leads, reveals⟩ :=
    reveal_follows_current_role Sample.now Sample.files Sample.regular_events
  obtain ⟨rfl, rfl⟩ : store = Sample.tables ∧ files = Sample.files := by
    rw [Sample.run_events] at leads
    cases leads
    exact ⟨rfl, rfl⟩
  have closed : Vault.classify Sample.row.stored = .sealed := Vault.classify_sealedText _ _
  refine ⟨Sample.regular_events, Sample.ready, ?_, ?_⟩
  · have readable : Gate.readUser Sample.self (factsOf Sample.tables Sample.row Sample.id) = .allow :=
      Access.Gate.readUser_allow.mpr (.inl rfl)
    have reaches : Sample.self.highest.atLeast (Sample.tables.highestHeld Sample.row.id) = true :=
      Role.operator_atLeast _
    have opens := (reveals Sample.context Sample.self "root" Sample.ready).1 ⟨"password1"⟩
    exact opens.mpr ⟨Sample.row, Sample.id,
      ⟨⟨List.mem_cons_self, rfl, rfl, readable⟩, closed, reaches⟩, Sample.remembered_events⟩
  · have below : Sample.outdated.highest.atLeast (Sample.tables.highestHeld Sample.row.id) = false := by
      rw [Sample.highestHeld_row]
      rfl
    have refused := (reveals Sample.context Sample.outdated "root" Sample.ready).2.2
    exact refused.mpr ⟨Sample.row, List.mem_cons_self, rfl, rfl, closed, below⟩

end RoleVault.Accounts
