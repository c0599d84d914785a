import RoleVault.Proofs.Vault.Dominance
import RoleVault.Proofs.Vault.Residue
import RoleVault.Proofs.Vault.ScratchProtocol

/-!
Contract: requests of which the steps are mixed do not disturb one another.

Owns:
- what sealing and opening ensure while other requests work below the same scratch root;
- `shareNothing`, the protocol of requests where the scratch root cannot be created;
- `interleaved_requests_answer_alone`: in whichever order requests do their steps, each answers as if
  it were alone, and all together leave nothing.

Does not own: what the answers are (`RoleVault.Proofs.Vault.Dominance` and its neighbours).
-/

namespace RoleVault.Vault

open RoleVault.Files RoleVault.Files.Disk RoleVault.Text

variable {α : Type} {vault : Vault} {start : Workspace} {limit : Nat}

/-! ## Requests below one root -/

section Root

variable {number : Nat} (can : CanShare vault start limit)
variable (usable : (start.disk.createDirectories vault.scratchRoot).1 = .ok ())

include can usable

private theorem sealFor_ensures (role : Role) (password : String) :
    (shareRoot vault start limit).Ensures
      (fun result later => result = .ok (sealedText role password) ∧ later = .finished) 9
      (vault.sealFor role ⟨password⟩).run .waiting := by
  rw [Vault.sealFor, can.inProcess]
  refine Protocol.Ensures.weaken (.check (shareRoot_isFile can usable can.publicKey)
    (ensures_inScratch can usable (1 + (1 + 1)) (by decide) fun number => ?_))
    (by decide) fun _ _ => id
  refine .bind_ok (ensures_change can usable "plain" (Utf8.encode password) (by decide)) ?_
  refine .bind_ok (ensures_call_writing can usable "plain.cpabe"
    (Scheme.frame (Policy.forRole role) (Utf8.encode password))
    (inProcess_encrypt_follows _ _ _ _) (by decide) fun disk after finds written => ?_) ?_
  · exact Scheme.encrypt_succeeds _ finds.publicKey (finds.reads (by decide) rfl) written
  · refine ensures_result can usable fun disk finds => ?_
    rw [finds.reads (by decide) (Function.update_self ..)]
    cases framed : Scheme.frame (Policy.forRole role) (Utf8.encode password) with
    | nil => exact absurd framed (frame_ne_nil role _)
    | cons first rest =>
      rw [sealedText, framed]
      rfl

/-- What is decrypted depends on the role and on the ciphertext alone. -/
theorem decrypt_ensures (role : Role) (ciphertext : List UInt8) :
    (shareRoot vault start limit).Ensures
      (fun result later => result = (Scheme.openWith role ciphertext).bind plaintextOf ∧
        ∃ files, later = .working "unseal" number files) (1 + 1)
      (do
        vault.bounded .decrypt ((Engine.inProcess false).decrypt vault.keys.publicKey
          ((vault.scratchPath "unseal" number).child "priv_key")
          ((vault.scratchPath "unseal" number).child "sealed.cpabe")
          ((vault.scratchPath "unseal" number).child "plain"))
        Attempt.observe fun disk => Vault.readPlaintext disk
          ((vault.scratchPath "unseal" number).child "plain") : Attempt Secret).run
      (.working "unseal" number (Function.update (Function.update (fun _ => none) "priv_key"
        (some (Utf8.encode role.name))) "sealed.cpabe" (some ciphertext))) := by
  have decrypts {disk : Disk} (finds : Finds vault (vault.scratchPath "unseal" number)
        (Function.update (Function.update (fun _ => none) "priv_key"
          (some (Utf8.encode role.name))) "sealed.cpabe" (some ciphertext)) disk) :
      Scheme.keyRole disk ((vault.scratchPath "unseal" number).child "priv_key") = .ok role ∧
        disk.read ((vault.scratchPath "unseal" number).child "sealed.cpabe") = .ok ciphertext :=
    ⟨keyRole_of_read (finds.reads (by decide) rfl), finds.reads (by decide) rfl⟩
  cases opens : Scheme.openWith role ciphertext with
  | error failure =>
    refine .bind_error (ensures_call_failing can usable
      (inProcess_decrypt_follows _ _ _ _) fun disk finds => ?_) ⟨rfl, _, rfl⟩
    obtain ⟨holds, reads⟩ := decrypts finds
    simp [Scheme.decrypt, holds, reads, opens]
  | ok content =>
    refine .bind_ok (ensures_call_writing can usable "plain" content
      (inProcess_decrypt_follows _ _ _ _) (by decide) fun disk after finds written => ?_) ?_
    · obtain ⟨holds, reads⟩ := decrypts finds
      simp [Scheme.decrypt, holds, reads, opens, Scheme.writing, written, Scheme.finish]
    · exact ensures_result can usable fun disk finds =>
        readPlaintext_of_read (finds.reads (by decide) (Function.update_self ..))

private theorem openWith_ensures (role : Role) (stored : String) :
    ∃ outcome, (shareRoot vault start limit).Ensures
      (fun result later => result = outcome ∧ (later = .waiting ∨ later = .finished)) 9
      (vault.openWith role stored).run .waiting := by
  rw [Vault.openWith, can.inProcess]
  cases decoded : ciphertextOf stored with
  | error failure =>
    exact ⟨.error failure, Protocol.ensures_done.mpr ⟨rfl, .inl rfl⟩⟩
  | ok ciphertext =>
    have decodes : (shareRoot vault start limit).Ensures
        (fun result held => result = .ok ciphertext ∧ held = .waiting) 0
        (Procedure.done (Except.ok ciphertext : Except VaultError (List UInt8))) .waiting :=
      Protocol.ensures_done.mpr ⟨rfl, rfl⟩
    refine ⟨(Scheme.openWith role ciphertext).bind plaintextOf, Protocol.Ensures.weaken
      (.bind_ok decodes (.check (shareRoot_isFile can usable can.publicKey)
        (.check (shareRoot_isFile can usable can.masterKey)
          (ensures_inScratch can usable (1 + (1 + (1 + 1))) (by decide) fun number => ?_))))
      (by decide) fun _ _ reached => ⟨reached.1, .inr reached.2⟩⟩
    refine .bind_ok (ensures_call_writing can usable "priv_key" (Utf8.encode role.name)
      (inProcess_keygen_follows _ _ _) (by decide) fun disk after finds written => ?_) ?_
    · exact Scheme.keygen_succeeds finds.masterKey written
    refine .bind_ok (ensures_change can usable "sealed.cpabe" ciphertext (by decide)) ?_
    exact decrypt_ensures can usable role ciphertext

end Root

/-! ## Requests without a root -/

/-- At most what creating the root leaves is done. -/
def shareNothing (vault : Vault) (start : Workspace) (limit : Nat) : Protocol Unit where
  limit := limit
  shared _ workspace := workspace.disk = start.disk ∨ workspace.disk = ground vault start

section NoRoot

variable {failure : DiskError} {label : String} {work : Path → Attempt α}
variable (can : CanShare vault start limit)
variable (blocked : (start.disk.createDirectories vault.scratchRoot).1 = .error failure)

private theorem shareNothing_isFile {key : Path} (file : start.disk.isFile key = true)
    (holds : Nat → Unit) (workspace : Workspace)
    (fits : (shareNothing vault start limit).shared holds workspace) :
    workspace.disk.isFile key = true := by
  rcases fits with same | same
  · rwa [same]
  · rw [same]
    exact isFile_extend (createDirectories_extends _ _) file

include can blocked

private theorem ensures_blocked :
    (shareNothing vault start limit).Ensures
      (fun result later => result = .error (.disk failure) ∧ later = ()) (1 + 0 + 0)
      (vault.inScratch label work).run () := by
  have fails : (shareNothing vault start limit).Ensures
      (fun result later => result = .error (.disk failure) ∧ later = ()) 1
      (Attempt.directories (some vault.scratchRoot)).run () := by
    refine .act fun holds request workspace _ _ fits => ⟨(), .inr ?_, ?_, rfl⟩
    · rcases fits with same | same <;> simp only [same, can.again] <;> rfl
    · rcases fits with same | same <;> simp only [same, can.again, blocked] <;> rfl
  have refused : (shareNothing vault start limit).Ensures
      (fun result later => result = .error (.disk failure) ∧ later = ()) (1 + 0)
      (vault.createScratch label).run () := .bind_error fails ⟨rfl, rfl⟩
  exact .bind_error refused ⟨rfl, rfl⟩

private theorem sealFor_ensures_blocked (role : Role) (password : String) :
    (shareNothing vault start limit).Ensures
      (fun result later => result = .error (.disk failure) ∧ later = ()) 9
      (vault.sealFor role ⟨password⟩).run () :=
  Protocol.Ensures.weaken (.check (shareNothing_isFile can.publicKey)
    (ensures_blocked can blocked)) (by decide) fun _ _ => id

private theorem openWith_ensures_blocked (role : Role) (stored : String) :
    ∃ outcome, (shareNothing vault start limit).Ensures
      (fun result later => result = outcome ∧ later = ()) 9
      (vault.openWith role stored).run () := by
  rw [Vault.openWith]
  cases decoded : ciphertextOf stored with
  | error failure =>
    exact ⟨.error failure, Protocol.ensures_done.mpr ⟨rfl, rfl⟩⟩
  | ok ciphertext =>
    have decodes : (shareNothing vault start limit).Ensures
        (fun result held => result = .ok ciphertext ∧ held = ()) 0
        (Procedure.done (Except.ok ciphertext : Except VaultError (List UInt8))) () :=
      Protocol.ensures_done.mpr ⟨rfl, rfl⟩
    exact ⟨.error (.disk failure), Protocol.Ensures.weaken
      (.bind_ok decodes (.check (shareNothing_isFile can.publicKey)
        (.check (shareNothing_isFile can.masterKey) (ensures_blocked can blocked))))
      (by decide) fun _ _ => id⟩

end NoRoot

/-! ## Requests together -/

/-- Requests that have done some steps, in the order of a schedule. -/
def interleave (vault : Vault) (start : Workspace) (requests : List Request)
    (schedule : List Nat) : Crowd Answer :=
  (Crowd.mk (requests.map (Request.procedure vault)) start).run schedule

section Together

variable {Holding : Type} {protocol : Protocol Holding} {idle : Holding} {ended : Holding → Prop}
variable {budget : Nat}

/-- A request ensures an answer if sealing and opening ensure an outcome. -/
theorem request_ensures
    (seals : ∀ role password, ∃ outcome, protocol.Ensures
      (fun result later => result = outcome ∧ ended later) budget
      (vault.sealFor role ⟨password⟩).run idle)
    (opens : ∀ role stored, ∃ outcome, protocol.Ensures
      (fun result later => result = outcome ∧ ended later) budget
      (vault.openWith role stored).run idle) (request : Request) :
    ∃ answer, protocol.Ensures (fun result later => result = answer ∧ ended later) budget
      (request.procedure vault) idle := by
  cases request with
  | sealFor role password =>
    obtain ⟨outcome, reaches⟩ := seals role password
    refine ⟨.sealed outcome, Protocol.Ensures.weaken (reaches.andThen fun result later reached =>
      Protocol.ensures_done.mpr ?_) (Nat.le_of_eq (Nat.add_zero budget)) fun _ _ => id⟩
    exact ⟨congrArg Answer.sealed reached.1, reached.2⟩
  | openWith role stored =>
    obtain ⟨outcome, reaches⟩ := opens role stored
    refine ⟨.opened outcome, Protocol.Ensures.weaken (reaches.andThen fun result later reached =>
      Protocol.ensures_done.mpr ?_) (Nat.le_of_eq (Nat.add_zero budget)) fun _ _ => id⟩
    exact ⟨congrArg Answer.opened reached.1, reached.2⟩

/-- Requests by one protocol answer as if each were alone. -/
theorem requests_alone {requests : List Request} (all : protocol.limit = requests.length)
    (fits : protocol.shared (fun _ => idle) start)
    (each : ∀ request : Request, ∃ answer, protocol.Ensures
      (fun result later => result = answer ∧ ended later) budget (request.procedure vault) idle)
    (schedule : List Nat) :
    Crowd.AnswersAlone (requests.map (Request.procedure vault)) start budget schedule ∧
      ((interleave vault start requests schedule).IsDone →
        ∃ holds, protocol.shared holds (interleave vault start requests schedule).workspace ∧
          ∀ number < requests.length, ended (holds number)) := by
  have reaches (call : Procedure Answer) (member : call ∈ requests.map (Request.procedure vault)) :
      ∃ answer, protocol.Ensures (fun result later => result = answer ∧ ended later) budget
        call idle := by
    obtain ⟨request, _, rfl⟩ := List.mem_map.mp member
    exact each request
  have alone := Protocol.answers_alone (all.trans (List.length_map _).symm) fits reaches schedule
  rwa [List.length_map] at alone

end Together

/-- Where no request holds anything, at most the scratch root has come into being. -/
theorem shareRoot_settled {holds : Nat → Holding} {workspace : Workspace}
    (fits : (shareRoot vault start limit).shared holds workspace)
    (ended : ∀ request < limit, holds request = .waiting ∨ holds request = .finished) :
    Settled vault.scratchRoot start.disk workspace.disk := by
  rcases fits with ⟨same, _⟩ | shares
  · rw [same]
    exact .inl (.refl _)
  · refine .inr ⟨shares.home.trans (createDirectories_extends _ _).home.symm, fun place => ?_⟩
    refine shares.outside place fun request name held => ?_
    obtain ⟨label, number, files, holding, _⟩ := Holding.name?_eq_some_iff.mp held
    obtain ⟨_, known, _⟩ := shares.held request label number files holding
    rcases ended request known with waits | ends
    · rw [waits] at holding
      cases holding
    · rw [ends] at holding
      cases holding

/-- Whichever requests are made of a vault at the same time, and in whichever order they do their
steps: each of them that comes to an end has the answer that it has alone, nine steps are enough for
it to do so, and when all have ended they have left nothing but directories on the way to the scratch
root; what is in the root is the same where the root is written without steps back or was a directory
before. -/
theorem interleaved_requests_answer_alone {vault : Vault} {start : Workspace}
    {requests : List Request} (can : CanShare vault start requests.length) (schedule : List Nat) :
    Crowd.AnswersAlone (requests.map (Request.procedure vault)) start 9 schedule ∧
      ((interleave vault start requests schedule).IsDone →
        LeavesNothing vault.scratchRoot start.disk
          (interleave vault start requests schedule).workspace.disk) := by
  cases created : (start.disk.createDirectories vault.scratchRoot).1 with
  | ok made =>
    have each (request : Request) : ∃ answer, (shareRoot vault start requests.length).Ensures
        (fun result later => result = answer ∧ (later = .waiting ∨ later = .finished)) 9
        (request.procedure vault) .waiting := by
      refine request_ensures (fun role password => ⟨.ok (sealedText role password), ?_⟩)
        (openWith_ensures can created) request
      exact (sealFor_ensures can created role password).weaken le_rfl
        fun _ _ reached => ⟨reached.1, .inr reached.2⟩
    have begins : (shareRoot vault start requests.length).shared (fun _ => .waiting) start :=
      .inl ⟨rfl, rfl, fun _ => rfl⟩
    obtain ⟨answers, after⟩ := requests_alone rfl begins each schedule
    refine ⟨answers, fun done => ?_⟩
    obtain ⟨holds, fits, ended⟩ := after done
    exact (shareRoot_settled fits ended).leavesNothing can.plain
  | error failure =>
    have each (request : Request) : ∃ answer, (shareNothing vault start requests.length).Ensures
        (fun result later => result = answer ∧ later = ()) 9 (request.procedure vault) () :=
      request_ensures
        (fun role password => ⟨_, sealFor_ensures_blocked can created role password⟩)
        (openWith_ensures_blocked can created) request
    have begins : (shareNothing vault start requests.length).shared (fun _ => ()) start := .inl rfl
    obtain ⟨answers, after⟩ := requests_alone rfl begins each schedule
    refine ⟨answers, fun done => ?_⟩
    obtain ⟨_, same | same, _⟩ := after done
    · rw [same]
      exact Settled.leavesNothing (.inl (.refl _)) can.plain
    · rw [same]
      exact Settled.leavesNothing (.inr (.refl _)) can.plain

namespace Sample

/-- A user and an operator try to open what an admin has sealed, while something else is sealed. -/
def requests : List Request :=
  [.openWith .user (sealedText .admin "p@ssw0rd"),
    .openWith .operator (sealedText .admin "p@ssw0rd"), .sealFor .user "another"]

def schedule : List Nat :=
  (List.replicate 9 [2, 0, 2, 1]).flatten

theorem created : (files.disk.createDirectories Sample.vault.scratchRoot).1 = .ok () := by cbv

theorem fresh : Fresh Sample.vault files requests.length := by
  intro label known number _ late
  have few : number < 3 := late
  simp only [labels, List.mem_cons, List.not_mem_nil, or_false] at known
  rcases known with rfl | rfl <;> interval_cases number <;>
    exact ⟨by cbv, by decide,
      ⟨by cbv, by cbv, Nat.le_trans (le_size_join _ _) (fits (by decide))⟩, fits (by decide)⟩

private theorem canShare : CanShare Sample.vault files requests.length where
  inProcess := rfl
  publicKey := serves.publicKey
  masterKey := serves.masterKey
  tree := serves.tree
  plain := by decide
  again := createDirectories_twice (.inl created)
  fresh _ := fresh

end Sample

/-- What an admin has sealed, the operator reads and the user does not, even though both look at it
step by step in turn. -/
theorem sample_requests_answer_alone :
    CanShare Sample.vault Sample.files Sample.requests.length ∧
      (interleave Sample.vault Sample.files Sample.requests Sample.schedule).calls =
        [.done (.opened (.error .noPermission)), .done (.opened (.ok ⟨"p@ssw0rd"⟩)),
          .done (.sealed (.ok (sealedText .user "another")))] ∧
      LeavesNothing Sample.vault.scratchRoot Sample.files.disk
        (interleave Sample.vault Sample.files Sample.requests Sample.schedule).workspace.disk := by
  obtain ⟨answers, leaves⟩ :=
    interleaved_requests_answer_alone Sample.canShare Sample.schedule
  have user := answers.ends 0 _ rfl (by decide)
  have operator := answers.ends 1 _ rfl (by decide)
  have seals := answers.ends 2 _ rfl (by decide)
  rw [run_openWith, Prod.map_fst, openWith_ready Sample.serves.toReady, if_neg (by decide)] at user
  rw [run_openWith, Prod.map_fst, openWith_ready Sample.serves.toReady,
    if_pos (by decide)] at operator
  rw [run_sealFor, Prod.map_fst, sealFor_ready rfl Sample.serves.tree Sample.serves.usableToSeal
    Sample.serves.publicKey] at seals
  have count : (interleave Sample.vault Sample.files Sample.requests
      Sample.schedule).calls.length = 3 := Crowd.length_run _ _
  have calls : (interleave Sample.vault Sample.files Sample.requests Sample.schedule).calls =
      [.done (.opened (.error .noPermission)), .done (.opened (.ok ⟨"p@ssw0rd"⟩)),
        .done (.sealed (.ok (sealedText .user "another")))] := by
    refine List.ext_getElem? fun number => ?_
    match number with
    | 0 => exact user
    | 1 => exact operator
    | 2 => exact seals
    | number + 3 => rw [List.getElem?_eq_none (by omega)]; rfl
  refine ⟨Sample.canShare, calls, leaves fun call member => ?_⟩
  rw [calls] at member
  simp only [List.mem_cons, List.not_mem_nil, or_false] at member
  rcases member with rfl | rfl | rfl <;> exact ⟨_, rfl⟩

end RoleVault.Vault
