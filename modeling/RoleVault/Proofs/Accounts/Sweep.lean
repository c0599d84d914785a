import Mathlib
import RoleVault.Proofs.Accounts.Listing
import RoleVault.Proofs.Vault.ScratchProtocol

/-!
Contract: a sweep over all users seals every password that is kept as it is and looks like one.

Owns:
- `Fate`, what a sweep makes of a password, and `sweepReport` and `swept`, what it reports of all
  users and leaves of the tables;
- `exec_sealEach_able`, `exec_sealEach_idle` and `exec_sealEach_unable`, how a sweep goes that can
  seal, that has nothing to seal, and that has no public key;
- `Completes`, how a sweep ends that gets to its end, and `sweep_seals_all`, that this is how it ends
  after every run if it can seal.

Does not own: that a sweep which fails has written nothing (`RoleVault.Proofs.Accounts.Failure`).
-/

namespace RoleVault.Accounts

open RoleVault.Accounts.Action
open RoleVault.Store
open RoleVault.Time
open RoleVault.Vault (Attempt CanSeal Engine Ready Workspace sealedText)

section Sweep

variable {store : Store} {context : Context} {files : Workspace} {now : Instant}
variable {row : UserRow} {rows : List UserRow}

/-! ## What a sweep comes upon -/

/-- What a sweep makes of a password: it seals it, it finds it sealed, or it does not take it for a
password. -/
inductive Fate where
  | pending
  | closed
  | refused
deriving DecidableEq

def fateOf (row : UserRow) : Fate :=
  match Vault.classify row.stored with
  | .sealed => .closed
  | .plaintext => if Access.isPasswordShaped row.stored then .pending else .refused

/-- How many passwords have a fate. -/
def countOf (fate : Fate) (rows : List UserRow) : Nat :=
  rows.countP (fateOf · = fate)

/-- What is reported of a user whose password is not taken for one. -/
def refusal (row : UserRow) : String × String :=
  (row.name, (AccountsError.invalidInput
    s!"stored password of {row.name} is not a valid password").message)

def refusals (rows : List UserRow) : List (String × String) :=
  (rows.filter (fateOf · = .refused)).map refusal

/-- What a sweep reports: how many passwords it has sealed and how many it has found sealed, and the
users whose password is not taken for one, in the order of their names. -/
def sweepReport (store : Store) : SealReport where
  sealed := countOf .pending store.users
  alreadySealed := countOf .closed store.users
  failed := refusals (Store.Users.byName store.users)

/-- The row of a user after a sweep: a pending password is sealed for the highest level that the user
holds. -/
def sweptRow (store : Store) (now : Instant) (row : UserRow) : UserRow :=
  if fateOf row = .pending then
    withStored (sealedText (store.highestHeld row.id) row.stored) now row
  else row

/-- The tables after a sweep. -/
def swept (store : Store) (now : Instant) : Store :=
  { store with users := store.users.map (sweptRow store now) }

private theorem fateOf_pending_iff : fateOf row = .pending ↔
    Vault.classify row.stored = .plaintext ∧ Access.isPasswordShaped row.stored = true := by
  unfold fateOf
  cases Vault.classify row.stored <;> cases Access.isPasswordShaped row.stored <;> simp

/-- Every user is counted once. -/
theorem countOf_sum (rows : List UserRow) :
    countOf .pending rows + countOf .closed rows + (refusals rows).length = rows.length := by
  induction rows with
  | nil => rfl
  | cons row rest inductionHypothesis =>
    simp only [countOf, refusals, List.length_map, List.countP_cons, List.filter_cons,
      List.length_cons] at inductionHypothesis ⊢
    cases fateOf row <;> simp <;> omega

/-! ## Reports -/

/-- The report after one more user. -/
def SealReport.met (report : SealReport) (row : UserRow) : SealReport :=
  match fateOf row with
  | .pending => { report with sealed := report.sealed + 1 }
  | .closed => { report with alreadySealed := report.alreadySealed + 1 }
  | .refused => { report with failed := report.failed ++ [refusal row] }

private theorem foldl_met (rows : List UserRow) (report : SealReport) :
    rows.foldl SealReport.met report =
      ⟨report.sealed + countOf .pending rows, report.alreadySealed + countOf .closed rows,
        report.failed ++ refusals rows⟩ := by
  induction rows generalizing report with
  | nil => simp [countOf, refusals]
  | cons row rest inductionHypothesis =>
    rw [List.foldl_cons, inductionHypothesis]
    unfold SealReport.met
    cases fate : fateOf row <;>
      simp [countOf, refusals, fate, Nat.add_assoc, Nat.add_comm 1]

/-! ## Rows -/

private theorem sweptRow_id (store : Store) (now : Instant) (row : UserRow) :
    (sweptRow store now row).id = row.id := by
  unfold sweptRow
  split <;> rfl

private theorem sweptRow_name (store : Store) (now : Instant) (row : UserRow) :
    (sweptRow store now row).name = row.name := by
  unfold sweptRow
  split <;> rfl

private theorem sweptRow_of_not_pending (other : fateOf row ≠ .pending) :
    sweptRow store now row = row :=
  if_neg other

/-- What was pending is closed after a sweep, and all else is as it was. -/
theorem fateOf_sweptRow (store : Store) (now : Instant) (row : UserRow) :
    fateOf (sweptRow store now row) =
      match fateOf row with
      | .pending => .closed
      | fate => fate := by
  unfold sweptRow
  cases fate : fateOf row with
  | pending => simp [fateOf, withStored]
  | closed => simpa using fate
  | refused => simpa using fate

/-- The rows after a sweep has come upon one more user. -/
def sweepOne (store : Store) (now : Instant) (users : List UserRow) (row : UserRow) :
    List UserRow :=
  if fateOf row = .pending then
    Store.Users.modifyRow row.id
      (withStored (sealedText (store.highestHeld row.id) row.stored) now) users
  else users

/-- Users have different keys, so a sweep writes for each of them the row of that user and no
other. -/
theorem sweepOne_eq {users : List UserRow} (ids : (users.map UserRow.id).Nodup)
    (member : row ∈ users) : sweepOne store now users row =
      users.map fun other => if other = row then sweptRow store now row else other := by
  unfold sweepOne
  split
  · rename_i pending
    refine List.map_congr_left fun other otherMember => ?_
    by_cases same : other = row
    · rw [same, if_pos (beq_self_eq_true _), if_pos rfl, sweptRow, if_pos pending]
    · have different : other.id ≠ row.id := fun key =>
        same (List.inj_on_of_nodup_map ids otherMember member key)
      rw [if_neg (by simpa using different), if_neg same]
  · rename_i other
    rw [sweptRow_of_not_pending other]
    refine (List.map_id'' (fun held => ?_) users).symm
    split
    · rename_i same
      exact same.symm
    · rfl

/-- A sweep over some users writes the rows of these users. -/
theorem foldl_sweepOne {users : List UserRow} (ids : (users.map UserRow.id).Nodup)
    (unique : (rows.map UserRow.id).Nodup) (present : ∀ row ∈ rows, row ∈ users) :
    rows.foldl (sweepOne store now) users =
      users.map fun row => if row ∈ rows then sweptRow store now row else row := by
  induction rows generalizing users with
  | nil => simp
  | cons head rest inductionHypothesis =>
    obtain ⟨headMember, restMembers⟩ := List.forall_mem_cons.mp present
    obtain ⟨alone, others⟩ := List.nodup_cons.mp (List.map_cons ▸ unique)
    have apart : ∀ row ∈ rest, row.id ≠ head.id := fun row member same =>
      alone (same ▸ List.mem_map_of_mem member)
    rw [List.foldl_cons, sweepOne_eq ids headMember, inductionHypothesis ?_ others ?_,
      List.map_map]
    · refine List.map_congr_left fun row _ => ?_
      by_cases same : row = head
      · have gone : sweptRow store now head ∉ rest := fun member =>
          apart _ member (sweptRow_id store now head)
        simp [same, gone]
      · simp [same]
    · rw [List.map_map]
      have kept (row : UserRow) :
          (if row = head then sweptRow store now head else row).id = row.id := by
        split
        · rename_i same
          rw [sweptRow_id, same]
        · rfl
      simpa [Function.comp_def, kept] using ids
    · intro row member
      have different : row ≠ head := fun same => apart row member (congrArg UserRow.id same)
      exact List.mem_map.mpr ⟨row, restMembers row member, if_neg different⟩

/-! ## One user after the other -/

/-- A user as the sweep has read it before it began. -/
structure IsListed (store : Store) (row : UserRow) (user : UserRecord) : Prop where
  reads : Reads store row user
  key : row.id = user.id.text

section Record

variable {user : UserRecord} {database : Database}

/-- The password of a user that is not pending is left alone and reported. -/
theorem exec_sealRecord_idle (listed : IsListed store row user) (other : fateOf row ≠ .pending)
    (context : Context) (state : State) (report : SealReport) :
    ∃ outcome, exec (Users.sealRecord context user) state = (outcome, state) ∧
      Users.SealReport.add report user outcome = .ok (report.met row) := by
  have stored := listed.reads.stored
  have name := listed.reads.name
  unfold fateOf at other
  unfold Users.sealRecord SealReport.met fateOf
  rw [stored, name]
  cases classified : Vault.classify row.stored with
  | «sealed» => exact ⟨_, rfl, rfl⟩
  | plaintext =>
    cases shaped : Access.isPasswordShaped row.stored with
    | true => simp [classified, shaped] at other
    | false =>
      refine ⟨_, rfl, ?_⟩
      simp [Users.SealReport.add, refusal, name]

/-- A pending password cannot be sealed without the public key. -/
theorem exec_sealRecord_unable (listed : IsListed store row user) (pending : fateOf row = .pending)
    (absent : files.disk.isFile context.vault.keys.publicKey = false) :
    exec (Users.sealRecord context user) ⟨database, files⟩ =
      (.error (.engineUnavailable VaultError.missingPublicKey.message), ⟨database, files⟩) := by
  obtain ⟨plain, shaped⟩ := fateOf_pending_iff.mp pending
  unfold Users.sealRecord
  rw [listed.reads.stored, plain]
  simp only
  rw [shaped, exec_bind, exec_require]
  simp only [if_true]
  rw [exec_bind, exec_vault, Vault.sealFor_missing absent]
  rfl

/-- A pending password is sealed by a vault that can seal. -/
theorem exec_sealRecord_able {origin : Store} {times : Nat} (listed : IsListed origin row user)
    (pending : fateOf row = .pending) (present : ∃ other ∈ store.users, other.id = row.id)
    (can : CanSeal context.vault (times + 1) files) :
    ∃ later, exec (Users.sealRecord context user) ⟨.opened store, files⟩ =
        (.ok (), ⟨.opened { store with
          users := sweepOne origin context.now store.users row }, later⟩) ∧
      CanSeal context.vault times later := by
  obtain ⟨plain, shaped⟩ := fateOf_pending_iff.mp pending
  have level : Role.highest user.roles = origin.highestHeld row.id := by
    rw [listed.reads.roles]
    rfl
  obtain ⟨later, seals, others⟩ :=
    can.sealFor (origin.highestHeld row.id) ⟨row.stored⟩
  refine ⟨later, ?_, others⟩
  unfold Users.sealRecord
  rw [listed.reads.stored, plain, level]
  simp only
  rw [shaped, exec_bind, exec_require]
  simp only [if_true]
  have sealing : exec (Action.vault (context.vault.sealFor (origin.highestHeld row.id)
      ⟨row.stored⟩)) ⟨.opened store, files⟩ =
      (.ok (sealedText (origin.highestHeld row.id) row.stored), ⟨.opened store, later⟩) := by
    rw [exec_vault, seals]
    rfl
  rw [listed.key] at present
  rw [exec_bind_ok sealing, exec_bind_ok (exec_transact_ok (setStored_run present) later)]
  rw [sweepOne, if_pos pending, listed.key]
  rfl

end Record

section Each

variable {users : List UserRecord} {database : Database}

/-- Where nothing is pending, a sweep reports the users and leaves everything alone. -/
theorem exec_sealEach_idle (listed : List.Forall₂ (IsListed store) rows users)
    (idle : ∀ row ∈ rows, fateOf row ≠ .pending) (context : Context) (state : State)
    (report : SealReport) :
    exec (Users.sealEach context users report) state =
      (.ok (rows.foldl SealReport.met report), state) := by
  induction listed generalizing report with
  | nil => rfl
  | @cons row user rest others head _ inductionHypothesis =>
    obtain ⟨first, further⟩ := List.forall_mem_cons.mp idle
    obtain ⟨outcome, ends, added⟩ := exec_sealRecord_idle head first context state report
    rw [Users.sealEach, exec_bind, exec_outcome, ends]
    simp only [added]
    exact inductionHypothesis further (report.met row)

/-- Without the public key, a sweep ends at the first pending password, before it has written
anything. -/
theorem exec_sealEach_unable (listed : List.Forall₂ (IsListed store) rows users)
    (pending : ∃ row ∈ rows, fateOf row = .pending)
    (absent : files.disk.isFile context.vault.keys.publicKey = false) (report : SealReport) :
    exec (Users.sealEach context users report) ⟨database, files⟩ =
      (.error (.engineUnavailable VaultError.missingPublicKey.message), ⟨database, files⟩) := by
  induction listed generalizing report with
  | nil =>
    obtain ⟨_, member, _⟩ := pending
    cases member
  | @cons row user rest others head _ inductionHypothesis =>
    rw [Users.sealEach, exec_bind, exec_outcome]
    by_cases first : fateOf row = .pending
    · rw [exec_sealRecord_unable head first absent]
      rfl
    · obtain ⟨outcome, ends, added⟩ :=
        exec_sealRecord_idle head first context ⟨database, files⟩ report
      have further : ∃ row ∈ rest, fateOf row = .pending := by
        obtain ⟨other, member, isPending⟩ := pending
        rcases List.mem_cons.mp member with rfl | member
        · exact absurd isPending first
        · exact ⟨other, member, isPending⟩
      rw [ends]
      simp only [added]
      exact inductionHypothesis further (report.met row)

/-- A vault that can seal all pending passwords seals them, and a sweep gets to its end. -/
theorem exec_sealEach_able {origin : Store}
    (listed : List.Forall₂ (IsListed origin) rows users)
    (present : ∀ row ∈ rows, ∃ other ∈ store.users, other.id = row.id)
    (can : CanSeal context.vault (countOf .pending rows) files) (report : SealReport) :
    ∃ later, exec (Users.sealEach context users report) ⟨.opened store, files⟩ =
      (.ok (rows.foldl SealReport.met report), ⟨.opened { store with
        users := rows.foldl (sweepOne origin context.now) store.users }, later⟩) := by
  induction listed generalizing store files report with
  | nil => exact ⟨files, rfl⟩
  | @cons row user rest others head _ inductionHypothesis =>
    obtain ⟨here, elsewhere⟩ := List.forall_mem_cons.mp present
    rw [Users.sealEach, exec_bind, exec_outcome]
    by_cases first : fateOf row = .pending
    · have count : countOf .pending (row :: rest) = countOf .pending rest + 1 := by
        simp [countOf, first]
      rw [count] at can
      obtain ⟨between, ends, can⟩ := exec_sealRecord_able head first here can
      have added : Users.SealReport.add report user (.ok ()) = .ok (report.met row) := by
        rw [SealReport.met, first]
        rfl
      rw [ends]
      simp only [added]
      refine inductionHypothesis (fun other member => ?_) can (report.met row)
      obtain ⟨held, heldMember, same⟩ := elsewhere other member
      rw [sweepOne, if_pos first]
      exact (exists_key_modifyRow (withStored_id _ _)).mpr ⟨held, heldMember, same⟩
    · have count : countOf .pending (row :: rest) = countOf .pending rest := by
        simp [countOf, first]
      rw [count] at can
      obtain ⟨outcome, ends, added⟩ :=
        exec_sealRecord_idle head first context ⟨.opened store, files⟩ report
      rw [ends]
      simp only [added]
      rw [List.foldl_cons, List.foldl_cons, sweepOne, if_neg first]
      exact inductionHypothesis elsewhere can (report.met row)

end Each

/-! ## All users -/

/-- A sweep reads all users, in the order of their names. -/
theorem list_run (sound : Sound store) (timed : Timed store) :
    ∃ users, Store.Users.list.run store = .ok (users, store) ∧
      List.Forall₂ (IsListed store) (Store.Users.byName store.users) users := by
  have included : ∀ row ∈ Store.Users.byName store.users, row ∈ store.users :=
    fun row member => List.mem_mergeSort.mp member
  have readable : ∀ row ∈ Store.Users.byName store.users, ∃ user, row.read store = .ok user := by
    intro row member
    obtain ⟨user, reads, _⟩ := timed.reads sound (included row member)
    exact ⟨user, read_eq_ok_iff.mpr reads⟩
  obtain ⟨users, read⟩ := mapM_ok readable
  refine ⟨users, Transaction.view_ok.mpr ⟨read, rfl⟩, ?_⟩
  have each : List.Forall₂ (fun row user => row.read store = .ok user)
      (Store.Users.byName store.users) users := by
    rw [← List.forall₂_map_right_iff (f := Except.ok), ← List.forall₂_map_left_iff,
      mapM_eq_ok_iff.mp read]
    exact List.forall₂_same.mpr fun _ _ => rfl
  refine ((List.forall₂_and_left _ _).mpr ⟨included, each⟩).imp ?_
  rintro row user ⟨member, readRow⟩
  have reads := read_eq_ok_iff.mp readRow
  exact ⟨reads, sound.text_eq member reads⟩

private theorem countOf_byName (fate : Fate) (rows : List UserRow) :
    countOf fate (Store.Users.byName rows) = countOf fate rows :=
  (List.mergeSort_perm rows _).countP_eq _

private theorem foldl_met_byName (store : Store) :
    (Store.Users.byName store.users).foldl SealReport.met {} = sweepReport store := by
  rw [foldl_met, countOf_byName, countOf_byName]
  simp [sweepReport]

private theorem swept_eq (schema : Schema store) (now : Instant) :
    (Store.Users.byName store.users).foldl (sweepOne store now) store.users =
      store.users.map (sweptRow store now) := by
  have perm : (Store.Users.byName store.users).Perm store.users := List.mergeSort_perm _ _
  rw [foldl_sweepOne schema.userIds ((perm.map _).nodup_iff.mpr schema.userIds)
    fun row member => perm.mem_iff.mp member]
  refine List.map_congr_left fun row member => if_pos (perm.mem_iff.mpr member)

section All

variable (sound : Sound store) (timed : Timed store)

include sound timed

/-- Where nothing is pending, a sweep reports the users and leaves everything alone. -/
theorem exec_sealAll_idle (idle : countOf .pending store.users = 0) (context : Context)
    (files : Workspace) :
    exec (Users.sealAll context) ⟨.opened store, files⟩ =
      (.ok (sweepReport store), ⟨.opened store, files⟩) := by
  obtain ⟨users, lists, listed⟩ := list_run sound timed
  rw [← countOf_byName, countOf, List.countP_eq_zero] at idle
  rw [Users.sealAll, exec_bind_ok (exec_transact_ok lists files),
    exec_sealEach_idle listed (by simpa using idle), foldl_met_byName]

private theorem exec_sealAll_unable (pending : countOf .pending store.users ≠ 0)
    (absent : files.disk.isFile context.vault.keys.publicKey = false) :
    exec (Users.sealAll context) ⟨.opened store, files⟩ =
      (.error (.engineUnavailable VaultError.missingPublicKey.message),
        ⟨.opened store, files⟩) := by
  obtain ⟨users, lists, listed⟩ := list_run sound timed
  rw [← countOf_byName, countOf, ← Nat.pos_iff_ne_zero, List.countP_pos_iff] at pending
  rw [Users.sealAll, exec_bind_ok (exec_transact_ok lists files),
    exec_sealEach_unable listed (by simpa using pending) absent]

private theorem exec_sealAll_able
    (can : CanSeal context.vault (countOf .pending store.users) files) :
    ∃ later, exec (Users.sealAll context) ⟨.opened store, files⟩ =
      (.ok (sweepReport store), ⟨.opened (swept store context.now), later⟩) := by
  obtain ⟨users, lists, listed⟩ := list_run sound timed
  rw [← countOf_byName] at can
  obtain ⟨later, ends⟩ := exec_sealEach_able listed
    (fun row member => ⟨row, List.mem_mergeSort.mp member, rfl⟩) can {}
  refine ⟨later, ?_⟩
  rw [Users.sealAll, exec_bind_ok (exec_transact_ok lists files), ends, foldl_met_byName,
    swept_eq sound.schema]
  rfl

end All

/-! ## After a sweep -/

/-- What a sweep reports that follows one that has reported something. -/
def SealReport.again (report : SealReport) : SealReport where
  sealed := 0
  alreadySealed := report.sealed + report.alreadySealed
  failed := report.failed

private theorem byName_map {change : UserRow → UserRow}
    (named : ∀ row, (change row).name = row.name)
    (rows : List UserRow) : Users.byName (rows.map change) = (Users.byName rows).map change := by
  refine (List.map_mergeSort fun left _ right _ => ?_).symm
  rw [named, named]

private theorem refusals_sweptRow (store : Store) (now : Instant) (rows : List UserRow) :
    refusals (rows.map (sweptRow store now)) = refusals rows := by
  induction rows with
  | nil => rfl
  | cons row rest inductionHypothesis =>
    simp only [refusals, List.map_cons, List.filter_cons, fateOf_sweptRow] at inductionHypothesis ⊢
    cases fate : fateOf row with
    | pending => simpa using inductionHypothesis
    | closed => simpa using inductionHypothesis
    | refused =>
      have same : sweptRow store now row = row := sweptRow_of_not_pending (by rw [fate]; decide)
      simpa [same] using inductionHypothesis

private theorem countOf_sweptRow (store : Store) (now : Instant) (rows : List UserRow) :
    countOf .pending (rows.map (sweptRow store now)) = 0 ∧
      countOf .closed (rows.map (sweptRow store now)) =
        countOf .pending rows + countOf .closed rows := by
  induction rows with
  | nil => exact ⟨rfl, rfl⟩
  | cons row rest inductionHypothesis =>
    obtain ⟨pending, closed⟩ := inductionHypothesis
    unfold countOf at pending closed ⊢
    rw [List.map_cons, List.countP_cons, List.countP_cons, List.countP_cons, List.countP_cons,
      pending, closed, fateOf_sweptRow]
    cases fateOf row <;> simp <;> omega

private theorem sweepReport_swept (store : Store) (now : Instant) :
    sweepReport (swept store now) = (sweepReport store).again := by
  obtain ⟨pending, closed⟩ := countOf_sweptRow store now store.users
  unfold sweepReport SealReport.again swept
  rw [pending, closed, byName_map (sweptRow_name store now), refusals_sweptRow]

/-- The numbers of a report add up to that of the users, and those whose passwords are not taken for
one are reported in the order of their names. -/
theorem sweepReport_complete (schema : Schema store) :
    (sweepReport store).sealed + (sweepReport store).alreadySealed +
        (sweepReport store).failed.length = store.users.length ∧
      ((sweepReport store).failed.map Prod.fst).Pairwise (· < ·) := by
  constructor
  · have sum := countOf_sum (Users.byName store.users)
    rwa [countOf_byName, countOf_byName, show (Users.byName store.users).length = _ from
      (List.mergeSort_perm store.users _).length_eq] at sum
  · have ascending := byName_ascending schema.userNames
    refine ascending.sublist ?_
    rw [sweepReport, refusals, List.map_map]
    exact List.filter_sublist.map _

/-- A pending password is kept in another form after a sweep, and no other is. -/
theorem sweptRow_stored_iff (store : Store) (now : Instant) (row : UserRow) :
    (sweptRow store now row).stored ≠ row.stored ↔ fateOf row = .pending := by
  constructor
  · intro changed
    by_contra other
    rw [sweptRow_of_not_pending other] at changed
    exact changed rfl
  · intro pending same
    have still : fateOf (sweptRow store now row) = fateOf row := by
      unfold fateOf
      rw [same]
    rw [fateOf_sweptRow, pending] at still
    cases still

/-- What was pending opens, after a sweep, to the password that it was, for the highest level that its
user holds. -/
theorem opens_swept {vault : Vault} (pending : fateOf row = .pending) (ready : Ready vault files)
    (now : Instant) :
    (Attempt.exec (vault.openWith ((swept store now).highestHeld row.id)
      (sweptRow store now row).stored) files).1 = .ok ⟨row.stored⟩ := by
  have level : (swept store now).highestHeld row.id = store.highestHeld row.id := rfl
  have filled : row.stored ≠ "" := ne_empty_of_shaped (fateOf_pending_iff.mp pending).2
  rw [level, sweptRow, if_pos pending]
  show (Attempt.exec (vault.openWith _ (sealedText _ row.stored)) files).1 = _
  rw [Vault.openWith_ready ready, if_pos ⟨Role.atLeast_self _, filled⟩]

/-- The tables after a sweep can be read like those before. -/
theorem readable_swept (sound : Sound store) (timed : Timed store) (dated : context.now.IsDated)
    (can : CanSeal context.vault (countOf .pending store.users) files) :
    Sound (swept store context.now) ∧ Timed (swept store context.now) := by
  obtain ⟨later, ends⟩ := exec_sealAll_able sound timed can
  obtain ⟨outcome, after, rest, performs, effect⟩ := perform_effect context .sealAll store files
  obtain rfl : after = swept store context.now := by
    rw [Command.perform, exec_map, ends] at performs
    cases performs
    rfl
  exact ⟨effect.sound sound, effect.timed sound timed dated⟩

/-- A sweep that gets to its end: what it reports and leaves, and what one that follows it does. -/
structure Completes (store : Store) (context : Context) (files : Workspace) : Prop where
  ends : ∃ later, exec (Users.sealAll context) ⟨.opened store, files⟩ =
    (.ok (sweepReport store), ⟨.opened (swept store context.now), later⟩)
  changed : ∀ row ∈ store.users,
    (sweptRow store context.now row).stored ≠ row.stored ↔ fateOf row = .pending
  opens : ∀ row ∈ store.users, fateOf row = .pending →
    ∀ (vault : Vault) (elsewhere : Workspace), Ready vault elsewhere →
      (Attempt.exec (vault.openWith ((swept store context.now).highestHeld row.id)
        (sweptRow store context.now row).stored) elsewhere).1 = .ok ⟨row.stored⟩
  again : ∀ (next : Context) (elsewhere : Workspace),
    exec (Users.sealAll next) ⟨.opened (swept store context.now), elsewhere⟩ =
      (.ok (sweepReport store).again, ⟨.opened (swept store context.now), elsewhere⟩)

private theorem completes (sound : Sound store) (timed : Timed store) (dated : context.now.IsDated)
    (can : CanSeal context.vault (countOf .pending store.users) files) :
    Completes store context files where
  ends := exec_sealAll_able sound timed can
  changed row _ := sweptRow_stored_iff store context.now row
  opens row _ pending _ _ ready := opens_swept pending ready context.now
  again next elsewhere := by
    obtain ⟨sweptSound, sweptTimed⟩ := readable_swept sound timed dated can
    have idle := (countOf_sweptRow store context.now store.users).1
    rw [exec_sealAll_idle sweptSound sweptTimed idle, sweepReport_swept]

/-- After every run from a new installation, whatever users were added with whatever passwords: the
numbers that a sweep reports add up to that of the users.  A sweep that can seal all that is pending
seals exactly that, each password for the highest level of its user, and a second sweep changes
nothing.  Without the public key, a sweep changes nothing, and it is refused where something is
pending. -/
theorem sweep_seals_all (installed : Instant) (workspace : Workspace) {events : List Event}
    (dated : ∀ event ∈ events, event.IsDated) :
    ∃ store files, run events (State.fresh installed workspace) = ⟨.opened store, files⟩ ∧
      ((sweepReport store).sealed + (sweepReport store).alreadySealed +
          (sweepReport store).failed.length = store.users.length ∧
        ((sweepReport store).failed.map Prod.fst).Pairwise (· < ·)) ∧
      (∀ context : Context, context.now.IsDated →
        CanSeal context.vault (sweepReport store).sealed files → Completes store context files) ∧
      ∀ context : Context, files.disk.isFile context.vault.keys.publicKey = false →
        exec (Users.sealAll context) ⟨.opened store, files⟩ =
          (if (sweepReport store).sealed = 0 then .ok (sweepReport store)
            else .error (.engineUnavailable VaultError.missingPublicKey.message),
            ⟨.opened store, files⟩) := by
  obtain ⟨store, files, leads, sound, timed⟩ := run_timed installed workspace dated
  refine ⟨store, files, leads, sweepReport_complete sound.schema, ?_, ?_⟩
  · exact fun context tells can => completes sound timed tells can
  · intro context absent
    split
    · rename_i idle
      exact exec_sealAll_idle sound timed idle context files
    · rename_i pending
      exact exec_sealAll_unable sound timed pending absent

end Sweep

namespace Sample

def legacy : NewUser :=
  ⟨id, "root", "password1", "root", none, none, operatorGroup, [Role.operator.builtinId]⟩

def legacyTables : Store :=
  { freshTables (Rfc3339.renderZulu now.truncate) with
    users := [Users.newRow legacy now]
    userRoles := [⟨id.text, Role.operator.builtinId⟩] }

theorem inserted : (Store.Users.create legacy now).run
    (freshTables (Rfc3339.renderZulu now.truncate)) = .ok ((), legacyTables) := rfl

private theorem run_insert : run [.insert legacy now] (State.fresh now files) =
    ⟨.opened legacyTables, files⟩ := by
  rw [State.fresh, fresh_eq, run_cons, run_nil, Event.apply, exec_transact_ok inserted]

private theorem report_legacy : sweepReport legacyTables = ⟨1, 0, []⟩ := by cbv

private theorem fateOf_legacy : fateOf (Users.newRow legacy now) = .pending := by cbv

private theorem sealable : CanSeal vault 1 files where
  inProcess := rfl
  tree := ready.tree
  publicKey := ready.publicKey
  usable := by
    refine Vault.isUsableTimes_of_fresh ready.tree ?_ (by cbv) (by decide)
    intro label known number _ late
    obtain rfl : number = 0 := Nat.lt_one_iff.mp late
    simp only [Vault.labels, List.mem_cons, List.not_mem_nil, or_false] at known
    rcases known with rfl | rfl
    · exact ⟨by cbv, by decide, ⟨by cbv, by cbv,
        (Vault.le_size_join _ _).trans (fits (.inl rfl))⟩, fits (.inl rfl)⟩
    · exact ⟨by cbv, by decide, ⟨by cbv, by cbv,
        (Vault.le_size_join _ _).trans (fits (.inr rfl))⟩, fits (.inr rfl)⟩

/-- A vault that looks for its keys where there are none. -/
def keyless : Context := { context with vault := { vault with keys := .inDirectory ⟨"keys", []⟩ } }

end Sample

/-- A password that was added as it is kept is sealed by a sweep that has the public key, and stays as
it is where the sweep has none. -/
theorem inserted_user_is_swept :
    (∀ event ∈ [Event.insert Sample.legacy Sample.now], event.IsDated) ∧
      CanSeal Sample.vault 1 Sample.files ∧ Ready Sample.vault Sample.files ∧
      (∃ later, exec (Users.sealAll Sample.context)
          (run [.insert Sample.legacy Sample.now] (State.fresh Sample.now Sample.files)) =
        (.ok ⟨1, 0, []⟩, ⟨.opened (swept Sample.legacyTables Sample.now), later⟩)) ∧
      (Attempt.exec (Sample.vault.openWith .operator
        (sweptRow Sample.legacyTables Sample.now
          (Users.newRow Sample.legacy Sample.now)).stored) Sample.files).1 =
        .ok ⟨"password1"⟩ ∧
      exec (Users.sealAll Sample.keyless)
          (run [.insert Sample.legacy Sample.now] (State.fresh Sample.now Sample.files)) =
        (.error (.engineUnavailable VaultError.missingPublicKey.message),
          ⟨.opened Sample.legacyTables, Sample.files⟩) := by
  have dated : ∀ event ∈ [Event.insert Sample.legacy Sample.now], event.IsDated := by
    intro event listed
    rw [List.mem_singleton.mp listed]
    show Sample.now.IsDated
    decide
  obtain ⟨store, files, leads, _, sweeps, refused⟩ :=
    sweep_seals_all Sample.now Sample.files dated
  obtain ⟨rfl, rfl⟩ : store = Sample.legacyTables ∧ files = Sample.files := by
    rw [Sample.run_insert] at leads
    cases leads
    exact ⟨rfl, rfl⟩
  have absent := refused Sample.keyless (by cbv)
  rw [Sample.report_legacy] at sweeps absent
  have completes := sweeps Sample.context (by decide) Sample.sealable
  have opens := completes.opens _ List.mem_cons_self Sample.fateOf_legacy Sample.vault Sample.files
    Sample.ready
  have ends := completes.ends
  rw [Sample.report_legacy] at ends
  rw [leads]
  refine ⟨dated, Sample.sealable, Sample.ready, ends, ?_, absent⟩
  have level : (swept Sample.legacyTables Sample.context.now).highestHeld
      (Users.newRow Sample.legacy Sample.now).id = .operator := Sample.highestHeld_row
  rwa [level] at opens

end RoleVault.Accounts
