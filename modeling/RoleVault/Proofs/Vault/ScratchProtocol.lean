import RoleVault.Proofs.Vault.Refinement
import RoleVault.Proofs.Vault.Sharing

/-!
Contract: what a step of a request ensures while other requests work below the same scratch root.

Owns:
- `CanShare`, a vault of which the requests may work at the same time;
- `shareRoot`, the protocol of requests that work below one scratch root;
- what creating the root, a directory in it and files there, calling the engine and removing the
  directory ensure by this protocol (`ensures_inScratch` and the lemmas around it).

Does not own: which steps a request does (`RoleVault.Proofs.Vault.Interleaving`).
-/

namespace RoleVault.Vault

open RoleVault.Files RoleVault.Files.Disk

/-- What requests need to work at the same time: keys, an engine that answers, and names for their
scratch directories under which nothing stands.

That the scratch root can be created is not needed if trying to create it twice comes to the same as
trying it once (`again`).  So it does wherever the root can be created or nothing comes into being on
the way to it (`createDirectories_twice`), and in any case for a direct path without steps back, or
with steps back out of directories that are there (`createDirectories_repeated`).  The roots that may
fail it are those with steps back that cannot be created: the first attempt can bring about
directories that let the second one come further. -/
structure CanShare (vault : Vault) (start : Workspace) (limit : Nat) : Prop where
  inProcess : vault.engine = .inProcess false
  publicKey : start.disk.isFile vault.keys.publicKey = true
  masterKey : start.disk.isFile vault.keys.masterKey = true
  tree : IsTree start.disk
  plain : vault.scratchRoot.IsPlain
  again : (ground vault start).createDirectories vault.scratchRoot =
    start.disk.createDirectories vault.scratchRoot
  fresh : (start.disk.createDirectories vault.scratchRoot).1 = .ok () → Fresh vault start limit

/-! ## Steps below one root -/

/-- Nothing has happened yet, or the scratch root is there and each request holds what it does. -/
def shareRoot (vault : Vault) (start : Workspace) (limit : Nat) : Protocol Holding where
  limit := limit
  shared holds workspace :=
    (workspace.disk = start.disk ∧ workspace.nextScratch = start.nextScratch ∧
      ∀ request, holds request = .waiting) ∨
    Shares vault start limit holds workspace

section Root

variable {α : Type} {vault : Vault} {start workspace : Workspace} {limit : Nat}
variable {holds : Nat → Holding} {label : String} {number : Nat}
variable {files : String → Option (List UInt8)}

private theorem shares_of_holding {request : Nat} {held : Holding}
    (fits : (shareRoot vault start limit).shared holds workspace)
    (holding : holds request = held) (begun : held ≠ .waiting) :
    Shares vault start limit holds workspace :=
  fits.resolve_left fun untouched => begun (holding.symm.trans (untouched.2.2 request))

/-- The files right after the first request has created the scratch root. -/
theorem shares_ground (waiting : ∀ request, holds request = .waiting) (issued : List Path) :
    Shares vault start limit holds ⟨ground vault start, start.nextScratch, issued⟩ where
  home := (createDirectories_extends _ _).home
  outside _ _ := rfl
  held request label number files holding := by
    rw [waiting] at holding
    cases holding
  apart request other name holding := by
    rw [waiting] at holding
    cases holding
  counts := le_rfl
  room := by
    have most := Finset.card_filter_le (Finset.range limit) fun number =>
      (holds number).isPending = true
    rw [Finset.card_range] at most
    exact Nat.add_le_add_left most _

section Succession

variable (tree : IsTree start.disk) (fresh : Fresh vault start limit)
variable (usable : (start.disk.createDirectories vault.scratchRoot).1 = .ok ())

include tree fresh usable

/-- While the scratch root is shared, creating it again changes nothing, and the next directory in it
is made. -/
theorem exec_createScratch_shared (shares : Shares vault start limit holds workspace)
    {request : Nat} (known : request < limit) (waits : holds request = .waiting)
    (labelled : label ∈ labels) :
    ∃ disk, Attempt.exec (vault.createScratch label) workspace =
        (.ok (vault.scratchPath label workspace.nextScratch),
          { workspace with disk := disk, nextScratch := workspace.nextScratch + 1 }) ∧
      ∀ issued, Shares vault start limit
        (Function.update holds request (.working label workspace.nextScratch fun _ => none))
        ⟨disk, workspace.nextScratch + 1, issued⟩ := by
  have again := createDirectories_again usable (shares.ground_extends tree fresh)
  have rooted : Shares vault start limit (Function.update holds request .rooted) workspace :=
    shares.retag (by rw [waits]; rfl) rfl (by rw [waits]; exact id) rfl workspace.issuedKeys
  obtain ⟨number, disk, created, still⟩ := rooted.create_held tree fresh usable
    (Function.update_self ..) known labelled
  refine ⟨disk, ?_, fun issued => ?_⟩
  · have stays : Attempt.exec (Attempt.directories (some vault.scratchRoot)) workspace =
        (.ok (), workspace) := by
      rw [Attempt.directories, Attempt.exec_act]
      simp only [again]
      rfl
    rw [Vault.createScratch, Attempt.exec_bind_ok stays, Attempt.exec_act]
    simp only [number, created]
  · simpa using still issued

/-- While the scratch root is shared, whoever still waits may make a directory and remove it, one
after the other. -/
theorem isUsableTimes_shared (labelled : label ∈ labels) {times done : Nat}
    (enough : done + times ≤ limit) (shares : Shares vault start limit holds workspace)
    (waiting : ∀ request, done ≤ request → holds request = .waiting) :
    IsUsableTimes vault label times workspace := by
  induction times generalizing done holds workspace with
  | zero => trivial
  | succ rest inductionHypothesis =>
    have known : done < limit := by omega
    have further : done + 1 + rest ≤ limit := by omega
    obtain ⟨disk, creates, still⟩ := exec_createScratch_shared tree fresh usable shares known
      (waiting done le_rfl) labelled
    have holding := Function.update_self done
      (Holding.working label workspace.nextScratch fun _ => none) holds
    obtain ⟨_, early, late⟩ := (still []).held_range holding
    obtain ⟨_, _, _, fits⟩ := fresh label labelled _ early late
    have removed := (still []).remove_held tree fresh usable holding workspace.issuedKeys
    refine ⟨_, _, creates, fits, inductionHypothesis further removed ?_⟩
    intro request later
    rw [Function.update_of_ne (by omega), Function.update_of_ne (by omega)]
    exact waiting request (by omega)

/-- A scratch root that can be created, and in which the names are free that are handed out next, can
be used as often. -/
theorem isUsableTimes_of_fresh (labelled : label ∈ labels) :
    IsUsableTimes vault label limit start := by
  have begins : Shares vault start limit (fun _ => .waiting)
      ⟨ground vault start, start.nextScratch, start.issuedKeys⟩ :=
    shares_ground (fun _ => rfl) start.issuedKeys
  have grounded := isUsableTimes_shared tree fresh usable labelled
    (Nat.le_of_eq (Nat.zero_add limit)) begins fun _ _ => rfl
  cases limit with
  | zero => trivial
  | succ rest =>
    obtain ⟨scratch, made, creates, others⟩ := grounded
    refine ⟨scratch, made, ?_, others⟩
    -- the root is created by the first directory that is asked for
    have same : Attempt.exec (Attempt.directories (some vault.scratchRoot)) start =
        Attempt.exec (Attempt.directories (some vault.scratchRoot))
          ⟨ground vault start, start.nextScratch, start.issuedKeys⟩ := by
      simp only [Attempt.directories, Attempt.exec_act, ground, createDirectories_twice (.inl usable)]
    rw [Vault.createScratch, Attempt.exec_bind, same, ← Attempt.exec_bind]
    exact creates

end Succession

variable (can : CanShare vault start limit)
variable (usable : (start.disk.createDirectories vault.scratchRoot).1 = .ok ())

include can usable

private theorem shareRoot_extends (fits : (shareRoot vault start limit).shared holds workspace) :
    Extends start.disk workspace.disk := by
  rcases fits with ⟨same, _⟩ | shares
  · rw [same]
    exact .refl _
  · exact (createDirectories_extends _ _).trans (shares.ground_extends can.tree (can.fresh usable))

/-- A key that was there is there while the requests are at work. -/
theorem shareRoot_isFile {key : Path} (file : start.disk.isFile key = true)
    (holds : Nat → Holding) (workspace : Workspace)
    (fits : (shareRoot vault start limit).shared holds workspace) :
    workspace.disk.isFile key = true :=
  isFile_extend (shareRoot_extends can usable fits) file

private theorem ensures_root :
    (shareRoot vault start limit).Ensures
      (fun result later => result = .ok () ∧ later = .rooted) 1
      (Attempt.directories (some vault.scratchRoot)).run .waiting := by
  refine .act fun holds request workspace _ holding fits => ⟨.rooted, .inr ?_, ?_, rfl⟩
  · rcases fits with ⟨same, next, waiting⟩ | shares
    · have begins : Shares vault start limit holds
          ⟨ground vault start, start.nextScratch, workspace.issuedKeys⟩ :=
        shares_ground waiting workspace.issuedKeys
      simp only [same, next]
      exact begins.retag (by rw [holding]; rfl) rfl (by rw [holding]; exact id) rfl _
    · have grows := shares.ground_extends can.tree (can.fresh usable)
      simp only [createDirectories_again usable grows]
      exact shares.retag (by rw [holding]; rfl) rfl (by rw [holding]; exact id) rfl _
  · rcases fits with ⟨same, _⟩ | shares
    · simp only [same, usable]
      rfl
    · simp only [createDirectories_again usable (shares.ground_extends can.tree (can.fresh usable))]
      rfl

/-- A request is given a directory of its own. -/
theorem ensures_create (labelled : label ∈ labels) :
    (shareRoot vault start limit).Ensures
      (fun result later => ∃ number, result = .ok (vault.scratchPath label number) ∧
        later = .working label number fun _ => none) (1 + 1)
      (vault.createScratch label).run .waiting := by
  rw [Vault.createScratch]
  refine .bind (ensures_root can usable) (fun _ later reached => ?_) fun _ _ reached => ?_
  · obtain ⟨_, rfl⟩ := reached
    refine .act fun holds request workspace known holding fits => ?_
    have shares := shares_of_holding fits holding (by simp)
    obtain ⟨number, disk, created, still⟩ :=
      shares.create_held can.tree (can.fresh usable) usable holding known labelled
    simp only [number, created]
    exact ⟨_, .inr (still _), _, rfl, rfl⟩
  · cases reached.1

private theorem ensures_remove :
    (shareRoot vault start limit).Ensures (fun _ later => later = .finished) 1
      (Vault.removeScratch (vault.scratchPath label number)) (.working label number files) := by
  refine .act fun holds request workspace known holding fits => ⟨.finished, .inr ?_, rfl⟩
  have shares := shares_of_holding fits holding (by simp)
  exact shares.remove_held can.tree (can.fresh usable) usable holding _

/-- Whatever the other requests do, work in a scratch directory ends as it does in any that is new
and empty, and the directory is removed. -/
theorem ensures_inScratch {work : Path → Attempt α} {outcome : Except VaultError α} (budget : Nat)
    (labelled : label ∈ labels)
    (works : ∀ number, (shareRoot vault start limit).Ensures
      (fun result later => result = outcome ∧ ∃ files, later = .working label number files) budget
      (work (vault.scratchPath label number)).run (.working label number fun _ => none)) :
    (shareRoot vault start limit).Ensures
      (fun result later => result = outcome ∧ later = .finished) (1 + 1 + (budget + (1 + 0)))
      (vault.inScratch label work).run .waiting := by
  rw [Vault.inScratch]
  refine .bind (ensures_create can usable labelled) (fun scratch later reached => ?_)
    fun _ _ reached => ?_
  · obtain ⟨number, same, rfl⟩ := reached
    obtain rfl := Except.ok.inj same
    refine .andThen (works number) fun result later reached => ?_
    obtain ⟨rfl, files, rfl⟩ := reached
    have removed : (shareRoot vault start limit).Ensures (fun _ later => later = .finished) 1
        (Vault.removeScratch (vault.scratchPath label number)) (.working label number files) :=
      ensures_remove can usable
    exact removed.andThen fun _ later finished => Protocol.ensures_done.mpr ⟨rfl, finished⟩
  · obtain ⟨_, same, _⟩ := reached
    cases same

/-! ## Steps in a directory of one's own -/

/-- What a request finds that has a directory with some files: those, and the keys. -/
structure Finds (vault : Vault) (scratch : Path) (files : String → Option (List UInt8))
    (disk : Disk) : Prop where
  reads : ∀ {name content}, IsShort name → files name = some content →
    disk.read (scratch.child name) = .ok content
  publicKey : disk.exists? vault.keys.publicKey = true
  masterKey : disk.exists? vault.keys.masterKey = true

private theorem finds_of_holding {request : Nat}
    (fits : (shareRoot vault start limit).shared holds workspace)
    (holding : holds request = .working label number files) :
    Finds vault (vault.scratchPath label number) files workspace.disk := by
  have grows := shareRoot_extends can usable fits
  have shares := shares_of_holding fits holding (by simp)
  exact ⟨shares.read_held can.tree (can.fresh usable) usable holding,
    exists?_of_isFile (isFile_extend grows can.publicKey),
    exists?_of_isFile (isFile_extend grows can.masterKey)⟩

variable {action : Workspace → Except VaultError α × Workspace} {outcome : Except VaultError α}

/-- A step that only looks at the files. -/
theorem ensures_looking (looks : ∀ workspace : Workspace,
      Finds vault (vault.scratchPath label number) files workspace.disk →
      (action workspace).1 = outcome ∧ (action workspace).2.disk = workspace.disk ∧
        (action workspace).2.nextScratch = workspace.nextScratch) :
    (shareRoot vault start limit).Ensures
      (fun result later => result = outcome ∧ later = .working label number files) 1
      (Attempt.act action).run (.working label number files) := by
  refine .act fun holds request workspace _ holding fits => ⟨_, .inr ?_, ?_, rfl⟩
  · obtain ⟨_, disk, next⟩ := looks workspace (finds_of_holding can usable fits holding)
    have shares := shares_of_holding fits holding (by simp)
    rw [← holding, Function.update_eq_self]
    exact shares.congr disk next
  · exact (looks workspace (finds_of_holding can usable fits holding)).1

/-- The last look at the files in the directory. -/
theorem ensures_result {view : Disk → Except VaultError α}
    (looks : ∀ disk, Finds vault (vault.scratchPath label number) files disk →
      view disk = outcome) :
    (shareRoot vault start limit).Ensures
      (fun result later => result = outcome ∧ ∃ files, later = .working label number files) 1
      (Attempt.observe view).run (.working label number files) :=
  (ensures_looking can usable fun workspace finds =>
    ⟨looks workspace.disk finds, rfl, rfl⟩).weaken le_rfl
      fun _ _ reached => ⟨reached.1, files, reached.2⟩

variable (name : String) (content : List UInt8)

/-- A step that writes a file in the directory. -/
theorem ensures_writing {action : Workspace → Except VaultError Unit × Workspace}
    (short : IsShort name)
    (writes : ∀ (workspace : Workspace) (disk : Disk),
      Finds vault (vault.scratchPath label number) files workspace.disk →
      workspace.disk.write ((vault.scratchPath label number).child name) content = .ok disk →
      (action workspace).1 = .ok () ∧ (action workspace).2.disk = disk ∧
        (action workspace).2.nextScratch = workspace.nextScratch) :
    (shareRoot vault start limit).Ensures
      (fun result later => result = .ok () ∧
        later = .working label number (Function.update files name (some content))) 1
      (Attempt.act action).run (.working label number files) := by
  refine .act fun holds request workspace _ holding fits => ?_
  have shares := shares_of_holding fits holding (by simp)
  obtain ⟨disk, written, still⟩ :=
    shares.write_held can.tree (can.fresh usable) usable holding short content
  obtain ⟨done, same, next⟩ :=
    writes workspace disk (finds_of_holding can usable fits holding) written
  exact ⟨_, .inr ((still workspace.issuedKeys).congr same next), done, rfl⟩

theorem ensures_change (short : IsShort name) :
    (shareRoot vault start limit).Ensures
      (fun result later => result = .ok () ∧
        later = .working label number (Function.update files name (some content))) 1
      (Attempt.change fun disk =>
        disk.write ((vault.scratchPath label number).child name) content).run
      (.working label number files) := by
  refine ensures_writing can usable name content short fun workspace disk _ written => ?_
  simp [written]

omit can usable in
private theorem exec_call (vault : Vault) (operation : Operation) {effect : Scheme.Effect}
    {call : Call}
    (follows : Call.Follows effect call workspace) :
    (Attempt.exec (vault.bounded operation call) workspace).1 = (effect workspace.disk).1 ∧
      (Attempt.exec (vault.bounded operation call) workspace).2.disk = (effect workspace.disk).2 ∧
      (Attempt.exec (vault.bounded operation call) workspace).2.nextScratch =
        workspace.nextScratch := by
  rw [exec_ended operation follows.ends]
  exact ⟨rfl, follows.disk, follows.nextScratch⟩

section Calls

variable {effect : Scheme.Effect} {call : Call} {operation : Operation}
variable (follows : ∀ workspace, Call.Follows effect call workspace)

include follows

theorem ensures_call_writing (short : IsShort name)
    (writes : ∀ disk after : Disk, Finds vault (vault.scratchPath label number) files disk →
      disk.write ((vault.scratchPath label number).child name) content = .ok after →
      effect disk = (.ok (), after)) :
    (shareRoot vault start limit).Ensures
      (fun result later => result = .ok () ∧
        later = .working label number (Function.update files name (some content))) 1
      (vault.bounded operation call).run (.working label number files) := by
  refine ensures_writing can usable name content short fun workspace disk finds written => ?_
  have ends := exec_call vault operation (follows workspace)
  rwa [writes workspace.disk disk finds written] at ends

theorem ensures_call_failing {failure : VaultError}
    (fails : ∀ disk : Disk, Finds vault (vault.scratchPath label number) files disk →
      effect disk = (.error failure, disk)) :
    (shareRoot vault start limit).Ensures
      (fun result later => result = .error failure ∧ later = .working label number files) 1
      (vault.bounded operation call).run (.working label number files) := by
  refine ensures_looking can usable fun workspace finds => ?_
  have ends := exec_call vault operation (follows workspace)
  rwa [fails workspace.disk finds] at ends

end Calls

end Root

end RoleVault.Vault
