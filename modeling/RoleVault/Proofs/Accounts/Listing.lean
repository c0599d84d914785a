import Mathlib
import RoleVault.Proofs.Accounts.Reveal
import RoleVault.Proofs.Accounts.Times

/-!
Contract: the listing shows a caller the users that it may read one by one.

Owns:
- `get_ok_iff`, whom a caller is shown who asks for one user;
- `candidateRows`, the rows among which the listing looks, and `exec_list`, whom a caller is shown who
  asks for all;
- `HasMoved`, the one reason for which the listing leaves out a user that can be read;
- `listing_agrees`, that the two agree on readable tables, and `listing_agrees_with_reads`, that they
  do after every run.

Does not own: whom the gate lets a caller read (`RoleVault.Proofs.Access.Gate`).
-/

namespace RoleVault.Accounts

open RoleVault.Access (Gate.readUser)
open RoleVault.Accounts.Action
open RoleVault.Store
open RoleVault.Time
open RoleVault.Vault (Workspace)

variable {store : Store} {caller : Identity} {row : UserRow}

/-! ## One user -/

/-- Whom a caller is shown who asks for the user with a name. -/
theorem get_ok_iff (sound : Sound store) (timed : Timed store) (caller : Identity) (name : String)
    (files : Workspace) (profile : Profile) :
    (exec (Users.get caller name) ⟨.opened store, files⟩).1 = .ok profile ↔
      ∃ row user, MayRead store caller name row user.id ∧ Reads store row user ∧
        profile = .ofRecord user := by
  cases found : store.users.find? (·.name == name) with
  | none =>
    rw [Users.get, exec_bind, exec_find_absent found]
    constructor
    · nofun
    · rintro ⟨row, user, may, _⟩
      exact absurd may.named (find?_key_none.mp found row may.member)
  | some row =>
    obtain ⟨member, named⟩ := mem_of_find?_key found
    obtain ⟨user, reads, key⟩ := timed.reads sound member
    rw [Users.get, exec_read found reads files]
    constructor
    · intro shown
      cases decision : Gate.readUser caller (factsOf store row user.id) with
      | deny refusal =>
        rw [decision] at shown
        cases shown
      | allow =>
        rw [decision] at shown
        cases shown
        exact ⟨row, user, ⟨member, named, key, decision⟩, reads, rfl⟩
    · rintro ⟨other, record, may, otherReads, rfl⟩
      obtain ⟨rfl, _⟩ := may.eq sound.schema member named key
      have same := (read_eq_ok_iff.mpr otherReads).symm.trans (read_eq_ok_iff.mpr reads)
      cases same
      rw [may.readable]
      rfl

/-! ## The candidates -/

def candidateRows (caller : Identity) (store : Store) : List UserRow :=
  match caller.highest with
  | .operator => Users.byName store.users
  | .admin => Users.byName (store.users.filter (·.group == caller.group))
  | .user => (store.users.find? (·.id == caller.id.text)).toList

def IsCandidate (caller : Identity) (row : UserRow) : Prop :=
  match caller.highest with
  | .operator => True
  | .admin => row.group = caller.group
  | .user => row.id = caller.id.text

private theorem candidates_eq (caller : Identity) :
    Users.candidates caller =
      .view fun store => (candidateRows caller store).mapM (·.read store) := by
  unfold Users.candidates candidateRows
  cases caller.highest with
  | operator => rfl
  | admin => rfl
  | user =>
    simp only [← readOptional_toList]
    exact Transaction.view_bind_pure _ _

private theorem mem_candidateRows (schema : Schema store) :
    row ∈ candidateRows caller store ↔ row ∈ store.users ∧ IsCandidate caller row := by
  unfold candidateRows IsCandidate Users.byName
  cases caller.highest with
  | operator => simp
  | admin => simp
  | user =>
    rw [Option.mem_toList]
    constructor
    · exact mem_of_find?_key
    · rintro ⟨member, own⟩
      exact find?_key schema.userIds member own

/-- Rows with different names are sorted strictly. -/
theorem byName_ascending {rows : List UserRow} (names : (rows.map UserRow.name).Nodup) :
    ((Users.byName rows).map UserRow.name).Pairwise (· < ·) := by
  have sorted : (Users.byName rows).Pairwise fun left right => left.name ≤ right.name := by
    refine (List.pairwise_mergeSort ?_ ?_ rows).imp of_decide_eq_true
    · intro left middle right first second
      exact decide_eq_true ((of_decide_eq_true first).trans (of_decide_eq_true second))
    · intro left right
      simpa using le_total left.name right.name
  have distinct : ((Users.byName rows).map UserRow.name).Nodup :=
    ((List.mergeSort_perm rows _).map _).nodup_iff.mpr names
  exact ((List.pairwise_map.mpr sorted).and distinct).imp fun ⟨below, different⟩ =>
    lt_of_le_of_ne below different

private theorem candidateRows_ascending (schema : Schema store) (caller : Identity) :
    ((candidateRows caller store).map UserRow.name).Pairwise (· < ·) := by
  unfold candidateRows
  cases caller.highest with
  | operator => exact byName_ascending schema.userNames
  | admin => exact byName_ascending (schema.userNames.sublist (List.filter_sublist.map _))
  | user => cases store.users.find? (·.id == caller.id.text) <;> simp

/-! ## All users -/

/-- The listing looks at the users of the candidate rows, all of which can be read. -/
theorem candidates_run (sound : Sound store) (timed : Timed store) (caller : Identity) :
    ∃ users, (Users.candidates caller).run store = .ok (users, store) ∧
      (candidateRows caller store).map (·.read store) = users.map .ok := by
  have readable : ∀ row ∈ candidateRows caller store, ∃ user, row.read store = .ok user := by
    intro row member
    obtain ⟨user, reads, _⟩ := timed.reads sound ((mem_candidateRows sound.schema).mp member).1
    exact ⟨user, read_eq_ok_iff.mpr reads⟩
  obtain ⟨users, read⟩ := mapM_ok readable
  rw [candidates_eq]
  exact ⟨users, Transaction.view_ok.mpr ⟨read, rfl⟩, mapM_eq_ok_iff.mp read⟩

private theorem mem_users_of_map {rows : List UserRow} {users : List UserRecord} {user : UserRecord}
    (reads : rows.map (·.read store) = users.map .ok) :
    user ∈ users ↔ ∃ row ∈ rows, Reads store row user := by
  have listed : user ∈ users ↔ (.ok user : Except StoreError UserRecord) ∈ users.map .ok := by simp
  rw [listed, ← reads, List.mem_map]
  simp only [read_eq_ok_iff]

/-- Whom a caller is shown who asks for all users. -/
theorem exec_list (sound : Sound store) (timed : Timed store) (caller : Identity)
    (files : Workspace) :
    ∃ profiles, (exec (Users.list caller) ⟨.opened store, files⟩).1 = .ok profiles ∧
      (profiles.map Profile.name).Pairwise (· < ·) ∧
      ∀ profile, profile ∈ profiles ↔
        ∃ row user, MayRead store caller row.name row user.id ∧ IsCandidate caller row ∧
          Reads store row user ∧ profile = .ofRecord user := by
  have schema := sound.schema
  obtain ⟨users, looked, rows⟩ := candidates_run sound timed caller
  refine ⟨_, by rw [Users.list, exec_bind_ok (exec_transact_ok looked files)]; rfl, ?_, ?_⟩
  · have names : (candidateRows caller store).map UserRow.name = users.map UserRecord.name :=
      column_of_map rows fun row _ user reads => (read_eq_ok_iff.mp reads).name.symm
    have ascending := candidateRows_ascending schema caller
    rw [names] at ascending
    rw [List.map_map]
    exact ascending.sublist (List.filter_sublist.map _)
  · intro profile
    simp only [List.mem_map, List.mem_filter, mem_users_of_map rows, mem_candidateRows schema]
    constructor
    · rintro ⟨user, ⟨⟨row, ⟨member, candidate⟩, reads⟩, allowed⟩, rfl⟩
      have readable : Gate.readUser caller (factsOf store row user.id) = .allow := by
        rw [← target_reads reads]
        exact Access.Decision.isAllowed_iff.mp allowed
      exact ⟨row, user, ⟨member, rfl, sound.text_eq member reads, readable⟩, candidate, reads, rfl⟩
    · rintro ⟨row, user, may, candidate, reads, rfl⟩
      refine ⟨user, ⟨⟨row, ⟨may.member, candidate⟩, reads⟩, ?_⟩, rfl⟩
      rw [target_reads reads, may.readable]
      rfl

/-! ## Both ways of reading -/

/-- Whether a caller is an admin whose own row is in another group than its token says. -/
def HasMoved (store : Store) (caller : Identity) : Prop :=
  caller.highest = .admin ∧ ∃ row ∈ store.users, row.id = caller.id.text ∧ row.group ≠ caller.group

/-- Whoever can be read is looked at, but for the own row of a caller that has moved. -/
theorem MayRead.candidate {name : String} {id : UserId} (may : MayRead store caller name row id) :
    IsCandidate caller row ∨
      caller.highest = .admin ∧ row.id = caller.id.text ∧ row.group ≠ caller.group := by
  have readable := Access.Gate.readUser_allow.mp may.readable
  rw [Access.Gate.actOnOther_allow] at readable
  have own (self : caller.id = id) : row.id = caller.id.text := by rw [may.key, self]
  unfold IsCandidate
  cases level : caller.highest with
  | operator => exact .inl trivial
  | admin =>
    rw [level] at readable
    by_cases here : row.group = caller.group
    · exact .inl here
    · rcases readable with self | operator | ⟨_, same, _⟩
      · exact .inr ⟨rfl, own self, here⟩
      · cases operator
      · exact absurd same.symm here
  | user =>
    rw [level] at readable
    rcases readable with self | operator | ⟨admin, _⟩
    · exact .inl (own self)
    · cases operator
    · cases admin

/-- The own row of a caller that has moved is not looked at. -/
theorem HasMoved.own_iff (schema : Schema store) (moved : HasMoved store caller)
    {name : String} {id : UserId} (may : MayRead store caller name row id) :
    IsCandidate caller row ↔ id ≠ caller.id := by
  obtain ⟨admin, own, ownMember, key, elsewhere⟩ := moved
  constructor
  · rintro candidate rfl
    obtain rfl := schema.user_eq may.member ownMember (may.key.trans key.symm)
    unfold IsCandidate at candidate
    rw [admin] at candidate
    exact elsewhere candidate
  · intro other
    refine may.candidate.resolve_right ?_
    rintro ⟨_, self, _⟩
    exact other (UserId.text_injective (may.key.symm.trans self))

def IsShown (caller : Identity) (state : State) (name : String) (profile : Profile) : Prop :=
  (exec (Users.get caller name) state).1 = .ok profile

/-- What the listing shows a caller, beside whom it is shown one by one: the same users, in the order
of their names, except for the own user of a caller that has moved. -/
structure Agrees (store : Store) (caller : Identity) (state : State) (profiles : List Profile) :
    Prop where
  ascending : (profiles.map Profile.name).Pairwise (· < ·)
  shown : ∀ profile ∈ profiles, IsShown caller state profile.name profile
  complete : ¬ HasMoved store caller →
    ∀ name profile, IsShown caller state name profile → profile ∈ profiles
  exceptSelf : HasMoved store caller →
    ∀ name profile, IsShown caller state name profile →
      (profile ∈ profiles ↔ profile.id ≠ caller.id)

/-- In sound tables with readable times the listing agrees with the single reads. -/
theorem listing_agrees (sound : Sound store) (timed : Timed store) (caller : Identity)
    (files : Workspace) :
    ∃ profiles, (exec (Users.list caller) ⟨.opened store, files⟩).1 = .ok profiles ∧
      Agrees store caller ⟨.opened store, files⟩ profiles := by
  obtain ⟨profiles, lists, ascending, mem⟩ := exec_list sound timed caller files
  have shows (name : String) (profile : Profile) :=
    get_ok_iff sound timed caller name files profile
  refine ⟨profiles, lists, ascending, ?_, ?_, ?_⟩
  · intro profile listed
    obtain ⟨row, user, may, _, reads, rfl⟩ := (mem profile).mp listed
    have named : row.name = (Profile.ofRecord user).name := reads.name.symm
    exact (shows _ _).mpr ⟨row, user, { may with named }, reads, rfl⟩
  · intro unmoved name profile shown
    obtain ⟨row, user, may, reads, rfl⟩ := (shows name profile).mp shown
    have candidate : IsCandidate caller row := by
      refine may.candidate.resolve_right ?_
      rintro ⟨admin, own, elsewhere⟩
      exact unmoved ⟨admin, row, may.member, own, elsewhere⟩
    exact (mem _).mpr ⟨row, user, { may with named := rfl }, candidate, reads, rfl⟩
  · intro moved name profile shown
    obtain ⟨row, user, may, reads, rfl⟩ := (shows name profile).mp shown
    constructor
    · intro listed
      obtain ⟨other, record, otherMay, candidate, _, same⟩ := (mem _).mp listed
      rw [same]
      exact (moved.own_iff sound.schema otherMay).mp candidate
    · intro different
      have candidate := (moved.own_iff sound.schema may).mpr different
      exact (mem _).mpr ⟨row, user, { may with named := rfl }, candidate, reads, rfl⟩

/-! ## Runs -/

/-- After every run from a new installation, every caller is listed the users that it is shown one by
one, each once and in the order of their names; only an admin whose own row is in another group than
its token says does not find itself there. -/
theorem listing_agrees_with_reads (installed : Instant) (workspace : Workspace)
    {events : List Event} (dated : ∀ event ∈ events, event.IsDated) :
    ∃ store files, run events (State.fresh installed workspace) = ⟨.opened store, files⟩ ∧
      ∀ caller, ∃ profiles,
        (exec (Users.list caller) (run events (State.fresh installed workspace))).1 =
          .ok profiles ∧
        Agrees store caller (run events (State.fresh installed workspace)) profiles := by
  obtain ⟨store, files, leads, sound, timed⟩ := run_timed installed workspace dated
  rw [leads]
  exact ⟨store, files, rfl, fun caller => listing_agrees sound timed caller files⟩

namespace Sample

/-- The first operator with a token from when it was an admin elsewhere. -/
def moved : Identity := { self with roles := [.admin], group := defaultGroup }

private theorem isShown_record (caller : Identity) (own : caller.id = id) :
    IsShown caller ⟨.opened tables, files⟩ "root" (.ofRecord record) := by
  have readable : Gate.readUser caller (factsOf tables row record.id) = .allow :=
    Access.Gate.readUser_allow.mpr (.inl own)
  have found : tables.users.find? (·.name == "root") = some row := rfl
  rw [IsShown, Users.get, exec_read found reads_record files, readable]
  rfl

end Sample

/-- The first operator is listed to itself, but not with the token of an admin of another group. -/
theorem first_operator_listing_agrees_with_reads :
    (∀ event ∈ Sample.events, event.IsDated) ∧
      (∃ profiles, (exec (Users.list Sample.self)
          (run Sample.events (State.fresh Sample.now Sample.files))).1 = .ok profiles ∧
        .ofRecord Sample.record ∈ profiles) ∧
      ∃ profiles, (exec (Users.list Sample.moved)
          (run Sample.events (State.fresh Sample.now Sample.files))).1 = .ok profiles ∧
        .ofRecord Sample.record ∉ profiles := by
  have dated : ∀ event ∈ Sample.events, event.IsDated :=
    fun event member => (Sample.regular_events event member).2
  obtain ⟨store, files, leads, lists⟩ := listing_agrees_with_reads Sample.now Sample.files dated
  obtain rfl : store = Sample.tables := by
    rw [Sample.run_events] at leads
    cases leads
    rfl
  obtain ⟨profiles, listed, agrees⟩ := lists Sample.self
  obtain ⟨fewer, listedFewer, agreesFewer⟩ := lists Sample.moved
  rw [Sample.run_events] at agrees agreesFewer
  refine ⟨dated, ⟨profiles, listed, ?_⟩, fewer, listedFewer, ?_⟩
  · have unmoved : ¬ HasMoved Sample.tables Sample.self := fun moved => nomatch moved.1
    exact agrees.complete unmoved "root" _ (Sample.isShown_record _ rfl)
  · have moved : HasMoved Sample.tables Sample.moved :=
      ⟨rfl, Sample.row, List.mem_cons_self, rfl, by decide⟩
    intro member
    exact (agreesFewer.exceptSelf moved "root" _ (Sample.isShown_record _ rfl)).mp member rfl

end RoleVault.Accounts
