import RoleVault.Proofs.Access.Gate
import RoleVault.Proofs.Accounts.Invariant
import RoleVault.Proofs.Vault.Opening

/-!
Contract: which password each user has, and in what form it is kept.

Owns:
- `Keeps`, the two forms in which a text keeps a password, and `Has`, that the row of a user does
  so;
- `Carries`, a change by which one user is given a password and all others keep theirs;
- `Effect.carries`: with the engine inside the program, every call is such a change.

Does not own: what the passwords are good for (`RoleVault.Proofs.Accounts.Policy` and its
neighbour).
-/

namespace RoleVault.Accounts

open RoleVault.Access (Assignment Grant isPasswordShaped)
open RoleVault.Store
open RoleVault.Vault (Attempt Engine sealedText)

variable {before between after store : Store}

/-! ## Forms of a password -/

/-- Whether a text keeps a password: as it is, or sealed for a level. -/
inductive Keeps (level : Role) (stored password : String) : Prop where
  | plain (same : stored = password) (plaintext : Vault.classify stored = .plaintext)
  | «sealed» (filled : password ≠ "") (same : stored = sealedText level password)

/-- Whether a row keeps a password, sealed for nothing but the highest level that its user holds. -/
abbrev Has (store : Store) (row : UserRow) (password : String) : Prop :=
  Keeps (store.highestHeld row.id) row.stored password

section Keeps

variable {level : Role} {stored password : String}

/-- What is kept as it is, is the password. -/
theorem Keeps.eq_of_plaintext (keeps : Keeps level stored password)
    (plaintext : Vault.classify stored = .plaintext) : stored = password := by
  cases keeps with
  | plain same => exact same
  | «sealed» _ same =>
    rw [same, Vault.classify_sealedText] at plaintext
    cases plaintext

/-- A sealed text that keeps a password is that password sealed for the level. -/
theorem Keeps.eq_of_sealed (keeps : Keeps level stored password)
    (closed : Vault.classify stored = .sealed) :
    password ≠ "" ∧ stored = sealedText level password := by
  cases keeps with
  | plain _ plaintext =>
    rw [plaintext] at closed
    cases closed
  | «sealed» filled same => exact ⟨filled, same⟩

end Keeps

theorem ne_empty_of_shaped {password : String} (shaped : isPasswordShaped password = true) :
    password ≠ "" := by
  rintro rfl
  exact absurd shaped (by decide)

/-- A password that a valid request supplies is not empty. -/
theorem ne_empty_of_valid {fields : Access.UserFields} {password : Secret}
    (valid : fields.validate = .ok ()) (supplied : fields.password = some password) :
    password.expose ≠ "" := by
  refine ne_empty_of_shaped ?_
  by_contra shapeless
  have refused : Access.whenSupplied Access.validatePassword fields.password =
      .error Access.FieldProblem.password.toError := by
    simp [supplied, Access.whenSupplied, Access.validatePassword, Access.require, shapeless]
  unfold Access.UserFields.validate at valid
  rw [refused] at valid
  cases name : Access.whenSupplied Access.validateName fields.name with
  | error failure =>
    rw [name] at valid
    cases valid
  | ok checked =>
    rw [name] at valid
    cases valid

/-! ## Changes -/

abbrev Given := UserId × String

/-- A change after which the user that was given a password keeps that one, and every other user one
that it kept before. -/
def Carries (given : Option Given) (before after : Store) : Prop :=
  ∀ row ∈ after.users,
    (∃ id password, given = some (id, password) ∧ row.id = id.text ∧ Has after row password) ∨
      (∀ id password, given = some (id, password) → row.id ≠ id.text) ∧
        ∃ source ∈ before.users, source.id = row.id ∧
          ∀ password, Has before source password → Has after row password

namespace Carries

/-- A change by which no one is given a password. -/
theorem of_kept
    (kept : ∀ row ∈ after.users, ∃ source ∈ before.users, source.id = row.id ∧
      ∀ password, Has before source password → Has after row password) :
    Carries none before after :=
  fun row member => .inr ⟨nofun, kept row member⟩

theorem refl (store : Store) : Carries none store store :=
  of_kept fun row member => ⟨row, member, rfl, fun _ keeps => keeps⟩

/-- Changes that give no password carry passwords one after the other. -/
theorem trans (first : Carries none before between) (second : Carries none between after) :
    Carries none before after := by
  refine of_kept fun row member => ?_
  obtain ⟨_, _, impossible, _⟩ | ⟨_, middle, middleMember, sameMiddle, onwards⟩ := second row member
  · cases impossible
  · obtain ⟨_, _, impossible, _⟩ | ⟨_, source, sourceMember, same, here⟩ :=
      first middle middleMember
    · cases impossible
    · exact ⟨source, sourceMember, same.trans sameMiddle,
        fun password keeps => onwards password (here password keeps)⟩

/-- A change that no user notices carries every password. -/
theorem unnoticed (unnoticed : Unnoticed before after) : Carries none before after := by
  refine of_kept fun row member => ?_
  rw [unnoticed.users] at member
  refine ⟨row, member, rfl, fun _ keeps => ?_⟩
  rw [Has, unnoticed.highestHeld]
  exact keeps

theorem without (store : Store) (user : String) : Carries none store (store.without user) := by
  refine of_kept fun row member => ?_
  obtain ⟨member, kept⟩ := List.mem_filter.mp member
  have different : row.id ≠ user := by simpa using kept
  have level : (store.without user).highestHeld row.id = store.highestHeld row.id :=
    congrArg Role.highest (levelsHeld_congr rfl fun role => by simp [Store.without, different])
  refine ⟨row, member, rfl, fun _ keeps => ?_⟩
  rw [Has, level]
  exact keeps

/-- A new user is given its password, and the others keep theirs. -/
theorem added {user : NewUser} {now : Time.Instant} {password : String}
    (added : Added user now before after) (has : Has after (Users.newRow user now) password) :
    Carries (some (user.id, password)) before after := by
  intro row member
  rw [added.users, List.mem_append, List.mem_singleton] at member
  rcases member with member | rfl
  · have different := added.newId row member
    refine .inr ⟨?_, row, member, rfl, fun _ keeps => ?_⟩
    · rintro id password given same
      cases given
      exact different same
    · rw [Has, added.holds.others_highest added.catalog different]
      exact keeps
  · exact .inl ⟨user.id, password, rfl, rfl, has⟩

end Carries

/-! ## Sealing -/

section Sealing

variable {context : Context} {hanging : Bool}
variable (inProcess : context.vault.engine = Engine.inProcess hanging)

include inProcess

/-- Sealing gives the one text that a password is sealed into for a role. -/
theorem seals_eq {role : Role} {password : Secret} {stored : String}
    (seals : Seals context.vault role password stored) :
    stored = sealedText role password.expose := by
  obtain ⟨_, _, ends⟩ := seals
  exact Vault.sealFor_ok inProcess ends

private theorem opens_eq {key role : Role} {password : String} {opened : Secret}
    (opens : Opens context.vault key (sealedText role password) opened) : opened = ⟨password⟩ := by
  obtain ⟨_, _, ends⟩ := opens
  exact (Vault.openWith_ok inProcess ends).1

/-- A password that is kept as it is, is sealed as what it is. -/
theorem SealsKept.keeps {user : UserRecord} {level : Role} {stored password : String}
    (kept : SealsKept context.vault user stored) (keeps : Keeps level user.stored password) :
    Keeps (Role.highest user.roles) stored password := by
  obtain rfl := keeps.eq_of_plaintext kept.plain
  have text := seals_eq inProcess kept.sealing
  exact .sealed (ne_empty_of_shaped kept.shaped) text

/-- A supplied password is sealed for the level that the user gets. -/
theorem Restores.keeps_supplied {user : UserRecord} {role : Role} {password : Secret}
    {stored : Option String} (restores : Restores context.vault user role (some password) stored)
    (filled : password.expose ≠ "") : Keeps role (stored.getD user.stored) password.expose := by
  cases restores with
  | supplied sealing => exact .sealed filled (seals_eq inProcess sealing)

/-- Where no password is supplied, the present one is kept, sealed for the level that the user gets
if it was sealed before. -/
theorem Restores.keeps_present {user : UserRecord} {role : Role} {password : String}
    {stored : Option String} (restores : Restores context.vault user role none stored)
    (keeps : Keeps user.assignment.highest user.stored password) :
    Keeps role (stored.getD user.stored) password := by
  cases restores with
  | kept same => exact same ▸ keeps
  | plaintext plain => exact .plain (keeps.eq_of_plaintext plain) plain
  | resealed closed opening sealing =>
    obtain ⟨filled, text⟩ := keeps.eq_of_sealed closed
    rw [text] at opening
    obtain rfl := opens_eq inProcess opening
    exact .sealed filled (seals_eq inProcess sealing)

/-- A new user keeps the password of the request, sealed for the level that it gets. -/
theorem Inserts.carries {request : CreateRequest} {assignment : Assignment}
    (inserts : Inserts context request assignment before after)
    (truthful : Truthful before assignment.grants) (filled : request.password.expose ≠ "") :
    Carries (some (context.freshId, request.password.expose)) before after := by
  obtain ⟨stored, seals, added⟩ := inserts
  refine Carries.added added (.sealed filled ?_)
  have level : after.highestHeld context.freshId.text = assignment.highest :=
    added.holds.highest added.catalog truthful
  show stored = sealedText (after.highestHeld context.freshId.text) request.password.expose
  rw [level]
  exact seals_eq inProcess seals

/-- A user that is changed keeps the password that is supplied, and else the one it had. -/
theorem carries_saved {user : UserRecord} {row : UserRow} {request : UpdateRequest}
    {assignment : Assignment} {stored : Option String} (sound : Sound before)
    (member : row ∈ before.users) (reads : Reads before row user)
    (truthful : Truthful before assignment.grants)
    (filled : ∀ password, request.password = some password → password.expose ≠ "")
    (restores : Restores context.vault user assignment.highest request.password stored)
    (saved : Saved (request.applyTo user assignment) stored context.now before after) :
    Carries (request.password.map fun password => (user.id, password.expose)) before after := by
  have key := sound.text_eq member reads
  have level : after.highestHeld row.id = assignment.highest := by
    rw [key]
    exact saved.holds.highest saved.catalog truthful
  have was : before.highestHeld row.id = user.assignment.highest :=
    congrArg Role.highest reads.roles.symm
  intro other otherMember
  rw [saved.users, mem_modifyRow] at otherMember
  obtain ⟨source, sourceMember, ⟨same, rfl⟩ | ⟨different, rfl⟩⟩ := otherMember
  · obtain rfl := sound.schema.user_eq member sourceMember (key.trans same.symm)
    have has {password : String}
        (keeps : Keeps assignment.highest (stored.getD user.stored) password) :
        Has after
          (rewritten (request.applyTo user assignment) stored context.now row) password := by
      show Keeps (after.highestHeld row.id) (stored.getD user.stored) password
      rw [level]
      exact keeps
    cases supplied : request.password with
    | none =>
      rw [supplied] at restores
      refine .inr ⟨nofun, row, member, rfl, fun password keeps => ?_⟩
      rw [Has, was, ← reads.stored] at keeps
      exact has (restores.keeps_present inProcess keeps)
    | some password =>
      rw [supplied] at restores
      exact .inl ⟨user.id, password.expose, rfl, key,
        has (restores.keeps_supplied inProcess (filled password supplied))⟩
  · refine .inr ⟨?_, other, sourceMember, rfl, fun _ keeps => ?_⟩
    · intro id password given same
      obtain ⟨_, _, pair⟩ := Option.map_eq_some_iff.mp given
      cases pair
      exact different same
    · rw [Has, saved.holds.others_highest saved.catalog different]
      exact keeps

/-! ## Sealing what is kept as it is -/

/-- Whether what a record says of password and levels is still so. -/
def IsCurrent (store : Store) (user : UserRecord) : Prop :=
  ∀ row ∈ store.users, row.id = user.id.text →
    row.stored = user.stored ∧ store.highestHeld row.id = Role.highest user.roles

omit inProcess in
private theorem isCurrent_of_reads {row : UserRow} {user : UserRecord} (sound : Sound store)
    (member : row ∈ store.users) (reads : Reads store row user) : IsCurrent store user := by
  intro other otherMember same
  obtain rfl := sound.schema.user_eq member otherMember
    ((sound.text_eq member reads).trans same.symm)
  exact ⟨reads.stored.symm, congrArg Role.highest reads.roles.symm⟩

/-- Sealing what was kept as it is keeps the same password. -/
theorem SealsKept.carries {user : UserRecord} {stored : String} (current : IsCurrent store user)
    (kept : SealsKept context.vault user stored) :
    Carries none store { store with
      users := Users.modifyRow user.id.text (withStored stored context.now) store.users } := by
  refine Carries.of_kept fun row member => ?_
  obtain ⟨source, sourceMember, ⟨same, rfl⟩ | ⟨_, rfl⟩⟩ := mem_modifyRow.mp member
  · obtain ⟨text, level⟩ := current source sourceMember same
    refine ⟨source, sourceMember, rfl, fun password keeps => ?_⟩
    show Keeps (store.highestHeld source.id) stored password
    rw [level]
    rw [Has, text] at keeps
    exact kept.keeps inProcess keeps
  · exact ⟨row, sourceMember, rfl, fun _ keeps => keeps⟩

/-- No password changes while some are sealed, for each user stays current until its turn. -/
theorem Sweeps.carries {users : List UserRecord} (sweeps : Sweeps context users before after)
    (current : ∀ user ∈ users, IsCurrent before user) (distinct : (users.map (·.id)).Nodup) :
    Carries none before after := by
  induction sweeps with
  | ended users store => exact Carries.refl store
  | skipped rest inductionHypothesis =>
    exact inductionHypothesis (fun user member => current user (List.mem_cons_of_mem _ member))
      (List.nodup_cons.mp distinct).2
  | @«sealed» first rest _ _ stored kept _ inductionHypothesis =>
    obtain ⟨new, distinct⟩ := List.nodup_cons.mp distinct
    refine (kept.carries inProcess (current first List.mem_cons_self)).trans
      (inductionHypothesis (fun user member row rowMember same => ?_) distinct)
    obtain ⟨source, sourceMember, ⟨turn, rfl⟩ | ⟨_, rfl⟩⟩ := mem_modifyRow.mp rowMember
    · have other : user.id = first.id := UserId.text_injective (same.symm.trans turn)
      exact absurd (List.mem_map.mpr ⟨user, member, other⟩) new
    · exact current user (List.mem_cons_of_mem _ member) row sourceMember same

end Sealing

/-! ## Listing -/

/-- Every user that is listed is read from a row, and none is listed twice. -/
theorem list_ok {users : List UserRecord} (sound : Sound store)
    (listed : Store.Users.list.run store = .ok (users, after)) :
    (users.map (·.id)).Nodup ∧ ∀ user ∈ users, ∃ row ∈ store.users, Reads store row user := by
  have reads := mapM_eq_ok_iff.mp (Transaction.view_ok.mp listed).1
  have sorted : (Users.byName store.users).Perm store.users := List.mergeSort_perm _ _
  have described : ∀ user ∈ users, ∃ row ∈ store.users, Reads store row user := by
    intro user member
    have read : Except.ok user ∈ (Users.byName store.users).map (·.read store) := by
      rw [reads]
      exact List.mem_map_of_mem member
    obtain ⟨row, rowMember, same⟩ := List.mem_map.mp read
    exact ⟨row, sorted.mem_iff.mp rowMember, read_eq_ok_iff.mp same⟩
  refine ⟨?_, described⟩
  have keys : (Users.byName store.users).map UserRow.id = users.map (·.id.text) :=
    column_of_map reads fun row member user read =>
      sound.text_eq (sorted.mem_iff.mp member) (read_eq_ok_iff.mp read)
  refine List.Nodup.of_map UserId.text ?_
  rw [List.map_map]
  show (users.map (·.id.text)).Nodup
  rw [← keys]
  exact (sorted.map UserRow.id).nodup_iff.mpr sound.schema.userIds

/-! ## Calls and additions -/

/-- The password that a call gives to a user, if it succeeds in giving one. -/
def Command.given : Command → Except AccountsError Answer → Option Given
  | createOperator request, .ok (.profile profile)
  | createUser _ request, .ok (.profile profile) => some (profile.id, request.password.expose)
  | updateUser _ request, .ok (.profile profile) =>
    request.password.map fun password => (profile.id, password.expose)
  | _, _ => none

/-- The profile that is read back is what the row of its user describes. -/
theorem profileAfter_reads {id : UserId} {profile : Profile}
    (found : profileAfter store id = .ok profile) :
    ∃ row ∈ store.users, row.id = id.text ∧
      ∃ user, Reads store row user ∧ profile = .ofRecord user := by
  unfold profileAfter readBack at found
  split at found
  · rename_i user later finds
    cases found
    obtain ⟨row, looked, reads⟩ := readOptional_ok.mp (Transaction.view_ok.mp finds).1
    obtain ⟨member, key⟩ := mem_of_find?_key looked
    exact ⟨row, member, key, user, read_eq_ok_iff.mp reads, rfl⟩
  · cases found
  · cases found

/-- The profile that is read back for a key is the one of that user. -/
theorem profileAfter_id {id : UserId} {profile : Profile}
    (found : profileAfter store id = .ok profile) : profile.id = id := by
  obtain ⟨row, _, key, user, reads, rfl⟩ := profileAfter_reads found
  have read := reads.id
  rw [key, UserId.ofText?_text] at read
  exact (Option.some.inj read).symm

private theorem profile_of_answer {id : UserId} {answer : Answer}
    (answers : (profileAfter store id).map Answer.profile = .ok answer) :
    ∃ profile, answer = .profile profile ∧ profile.id = id := by
  cases found : profileAfter store id with
  | error failure =>
    rw [found] at answers
    cases answers
  | ok profile =>
    rw [found] at answers
    cases answers
    exact ⟨profile, rfl, profileAfter_id found⟩

/-- With the engine inside the program, the user that a call writes is given the password that the
call supplies, if it supplies one; every other password stays. -/
theorem Effect.carries {context : Context} {hanging : Bool} {command : Command}
    {outcome : Except AccountsError Answer} (sound : Sound before)
    (inProcess : context.vault.engine = Engine.inProcess hanging)
    (effect : Effect context command before outcome after) :
    ∃ given, Carries given before after ∧
      ((∃ answer, outcome = .ok answer) → command.given outcome = given) := by
  have catalog := effect.catalog sound
  cases effect with
  | refused =>
    refine ⟨none, .refl _, ?_⟩
    rintro ⟨answer, impossible⟩
    cases impossible
  | looked => exact ⟨none, .refl _, fun _ => rfl⟩
  | operatorAdded valid inserts =>
    refine ⟨_, inserts.carries inProcess (sound.leveled.truthful_builtin .operator)
      (ne_empty_of_valid valid rfl), ?_⟩
    rintro ⟨answer, answers⟩
    obtain ⟨profile, rfl, same⟩ := profile_of_answer answers
    rw [answers, Command.given, same]
  | userAdded valid _ granted _ inserts =>
    refine ⟨_, inserts.carries inProcess (truthful_forCreate sound granted)
      (ne_empty_of_valid valid rfl), ?_⟩
    rintro ⟨answer, answers⟩
    obtain ⟨profile, rfl, same⟩ := profile_of_answer answers
    rw [answers, Command.given, same]
  | userSaved valid member _ reads _ granted assigned _ restores saved =>
    subst assigned
    refine ⟨_, carries_saved inProcess sound member reads
      (truthful_forUpdate sound.schema reads granted)
      (fun password supplied => ne_empty_of_valid valid supplied) restores saved, ?_⟩
    rintro ⟨answer, answers⟩
    obtain ⟨profile, rfl, same⟩ := profile_of_answer answers
    rw [answers, Command.given, same]
  | userDeleted _ _ _ _ => exact ⟨none, Carries.without _ _, fun _ => rfl⟩
  | passwordSealed member _ reads kept =>
    exact ⟨none, kept.carries inProcess (isCurrent_of_reads sound member reads), fun _ => rfl⟩
  | swept listed sweeps =>
    obtain ⟨distinct, described⟩ := list_ok sound listed
    refine ⟨none, sweeps.carries inProcess (fun user member => ?_) distinct, ?_⟩
    · obtain ⟨row, rowMember, reads⟩ := described user member
      exact isCurrent_of_reads sound rowMember reads
    · rintro ⟨answer, rfl⟩
      rfl
  | _ =>
    refine ⟨none, Carries.unnoticed (catalog rfl).2, ?_⟩
    rintro ⟨answer, answers⟩
    rw [answers]
    rfl

/-! ## Events -/

namespace Event

/-- What runs consist of: calls with the engine inside the program, be it hanging or not, users that
are added with a password that is kept as it is, and any change of the files. -/
def IsRegular : Event → Prop
  | call context _ => ∃ hanging, context.vault.engine = Engine.inProcess hanging
  | insert user _ => Vault.classify user.stored = .plaintext
  | files _ => True

/-- A user that is added has the password that it is added with. -/
theorem carries_inserted {user : NewUser} {now : Time.Instant} (added : Added user now before after)
    (plaintext : Vault.classify user.stored = .plaintext) :
    Carries (some (user.id, user.stored)) before after :=
  .added added (.plain rfl plaintext)

/-- Whatever happens carries passwords on, but for the one that it gives. -/
theorem Changes.carries {event : Event} (sound : Sound before) (regular : event.IsRegular)
    (changes : event.Changes before after) : ∃ given, Carries given before after := by
  cases changes with
  | called effect =>
    obtain ⟨hanging, inProcess⟩ := regular
    obtain ⟨given, carries, _⟩ := effect.carries sound inProcess
    exact ⟨given, carries⟩
  | inserted added => exact ⟨_, carries_inserted added regular⟩
  | refused => exact ⟨none, .refl _⟩
  | moved => exact ⟨none, .refl _⟩

end Event

end RoleVault.Accounts
