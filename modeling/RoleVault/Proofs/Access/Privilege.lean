import RoleVault.Proofs.Access.Gate

/-!
Contract: more privilege never costs a permission.

Owns:
- `Question`, what the gate can be asked about a caller, with its answer;
- `SameBut`, callers and questions that differ in their roles alone, with lists in some relation;
- `answer_mono` and `answer_congr`, what the answers make of such lists.

Does not own: the facts that the requests hand to the gate (`RoleVault.Proofs.Accounts.Effect`).
-/

namespace RoleVault

variable {related implied : List Role → List Role → Prop}
  (implies : ∀ {left right : List Role}, related left right → implied left right)

/-! ## Lists of roles -/

namespace Role

/-- The highest of the second list reaches the highest of the first. -/
def ReachedBy (lower upper : List Role) : Prop :=
  (highest upper).atLeast (highest lower) = true

/-- The highest of both lists is the same. -/
def SameHighest (left right : List Role) : Prop :=
  highest left = highest right

/-- The same roles are in both lists, in whatever order and however often. -/
def SameMembers (left right : List Role) : Prop :=
  ∀ role, role ∈ left ↔ role ∈ right

private theorem SameMembers.sameHighest {left right : List Role} (same : SameMembers left right) :
    SameHighest left right :=
  highest_congr same

private theorem eq_operator_of_atLeast {role : Role} (reaches : role.atLeast .operator = true) :
    role = .operator :=
  atLeast_antisymm (operator_atLeast role) reaches |>.symm

private theorem admin_or_operator {role : Role} (reaches : role.atLeast .admin = true) :
    role = .admin ∨ role = .operator := by
  cases role with
  | user => cases reaches
  | admin => exact .inl rfl
  | operator => exact .inr rfl

end Role

/-- Two callers that are the same user in the same group, with roles in this relation. -/
structure Identity.SameBut (related : List Role → List Role → Prop)
    (caller other : Identity) : Prop where
  id : caller.id = other.id
  group : caller.group = other.group
  roles : related caller.roles other.roles

include implies in
theorem Identity.SameBut.mono {caller other : Identity} (same : caller.SameBut related other) :
    caller.SameBut implied other :=
  ⟨same.id, same.group, implies same.roles⟩

namespace Access

/-- Two targets that are the same user in the same group, with roles in this relation. -/
structure Target.SameBut (related : List Role → List Role → Prop) (target other : Target) :
    Prop where
  id : target.id = other.id
  group : target.group = other.group
  roles : related target.roles other.roles

include implies in
theorem Target.SameBut.mono {target other : Target} (same : target.SameBut related other) :
    target.SameBut implied other :=
  ⟨same.id, same.group, implies same.roles⟩

/-- Two assignments to the same group, with roles in this relation. -/
structure Assignment.SameBut (related : List Role → List Role → Prop)
    (assignment other : Assignment) : Prop where
  group : assignment.group = other.group
  roles : related assignment.roles other.roles

include implies in
theorem Assignment.SameBut.mono {assignment other : Assignment}
    (same : assignment.SameBut related other) : assignment.SameBut implied other :=
  ⟨same.group, implies same.roles⟩

/-! ## Questions -/

/-- What the gate can be asked about a caller. -/
inductive Question where
  | manageCatalog
  | createUser
  | readUser (target : Target)
  | updateUser (target : Target)
  | deleteUser (target : Target)
  | assign (assignment : Assignment)

namespace Question

/-- The decision of the gate. -/
def answer (caller : Identity) : Question → Decision
  | manageCatalog => Gate.manageCatalog caller
  | createUser => Gate.createUser caller
  | readUser target => Gate.readUser caller target
  | updateUser target => Gate.updateUser caller target
  | deleteUser target => Gate.deleteUser caller target
  | assign assignment => Gate.assign caller assignment

/-- Two questions of one kind, about targets or assignments that are the same but for roles in this
relation. -/
inductive SameBut (related : List Role → List Role → Prop) : Question → Question → Prop
  | manageCatalog : SameBut related .manageCatalog .manageCatalog
  | createUser : SameBut related .createUser .createUser
  | readUser {target other : Target} (same : target.SameBut related other) :
    SameBut related (.readUser target) (.readUser other)
  | updateUser {target other : Target} (same : target.SameBut related other) :
    SameBut related (.updateUser target) (.updateUser other)
  | deleteUser {target other : Target} (same : target.SameBut related other) :
    SameBut related (.deleteUser target) (.deleteUser other)
  | assign {assignment other : Assignment} (same : assignment.SameBut related other) :
    SameBut related (.assign assignment) (.assign other)

include implies in
theorem SameBut.mono {question other : Question} (same : question.SameBut related other) :
    question.SameBut implied other := by
  cases same with
  | manageCatalog => exact .manageCatalog
  | createUser => exact .createUser
  | readUser same => exact .readUser (same.mono implies)
  | updateUser same => exact .updateUser (same.mono implies)
  | deleteUser same => exact .deleteUser (same.mono implies)
  | assign same => exact .assign (same.mono implies)

end Question

namespace Gate

/-! ## More privilege -/

section Rising

variable {lower upper : Identity} (rises : lower.SameBut Role.ReachedBy upper)

include rises

private theorem operator_mono (operator : lower.highest = .operator) :
    upper.highest = .operator := by
  apply Role.eq_operator_of_atLeast
  rw [← operator]
  exact rises.roles

private theorem manageCatalog_mono (allowed : manageCatalog lower = .allow) :
    manageCatalog upper = .allow := by
  rw [manageCatalog_allow, Identity.isOperator, beq_iff_eq] at *
  exact operator_mono rises allowed

private theorem createUser_mono (allowed : createUser lower = .allow) :
    createUser upper = .allow := by
  rw [createUser_allow] at *
  exact Role.atLeast_trans rises.roles allowed

/-- An admin who rises is a service operator or still an admin of the same group. -/
theorem actOnOther_mono {action : UserAction} {hard easy : Target}
    (eases : easy.SameBut Role.ReachedBy hard)
    (allowed : actOnOther action lower hard = .allow) :
    actOnOther action upper easy = .allow := by
  rw [actOnOther_allow] at *
  rcases allowed with operator | ⟨admin, here, reaches⟩
  · exact .inl (operator_mono rises operator)
  · have risen : upper.highest.atLeast .admin = true := by
      rw [← admin]
      exact rises.roles
    rcases Role.admin_or_operator risen with admin | operator
    · have still : upper.group = easy.group := by rw [← rises.group, here, eases.group]
      exact .inr ⟨admin, still, Role.atLeast_trans reaches eases.roles⟩
    · exact .inl operator

/-- The rule of reading and of updating: one's own record, or whoever one may act on. -/
theorem ownOrOther_mono {action : UserAction} {hard easy : Target}
    (eases : easy.SameBut Role.ReachedBy hard)
    (allowed : lower.id = hard.id ∨ actOnOther action lower hard = .allow) :
    upper.id = easy.id ∨ actOnOther action upper easy = .allow := by
  rcases allowed with own | acts
  · exact .inl (by rw [← rises.id, own, eases.id])
  · exact .inr (actOnOther_mono rises eases acts)

private theorem assign_mono {hard easy : Assignment} (eases : easy.SameBut Role.ReachedBy hard)
    (allowed : assign lower hard = .allow) : assign upper easy = .allow := by
  rw [assign_allow] at *
  obtain ⟨reaches, operator | here⟩ := allowed
  all_goals
    refine ⟨Role.atLeast_trans rises.roles (Role.atLeast_trans reaches eases.roles), ?_⟩
  · exact .inl (operator_mono rises operator)
  · exact .inr (by rw [← rises.group, here, eases.group])

/-- What a caller is allowed stays allowed with more privilege, and towards less of it. -/
theorem answer_mono {hard easy : Question} (eases : easy.SameBut Role.ReachedBy hard)
    (allowed : hard.answer lower = .allow) : easy.answer upper = .allow := by
  cases eases with
  | manageCatalog => exact manageCatalog_mono rises allowed
  | createUser => exact createUser_mono rises allowed
  | readUser same =>
    exact readUser_allow.mpr (ownOrOther_mono rises same (readUser_allow.mp allowed))
  | updateUser same =>
    exact updateUser_allow.mpr (ownOrOther_mono rises same (updateUser_allow.mp allowed))
  | deleteUser same => exact actOnOther_mono rises same allowed
  | assign same => exact assign_mono rises same allowed

end Rising

/-! ## The same privilege -/

section Level

variable {caller other : Identity} (level : caller.SameBut Role.SameHighest other)

include level

theorem highest_congr : caller.highest = other.highest :=
  level.roles

private theorem actOnOther_congr (action : UserAction) {target counterpart : Target}
    (same : target.SameBut Role.SameHighest counterpart) :
    actOnOther action caller target = actOnOther action other counterpart := by
  have targets : target.highest = counterpart.highest := same.roles
  unfold actOnOther Identity.inGroup
  rw [highest_congr level, level.group, targets, same.group]

private theorem manageCatalog_congr : manageCatalog caller = manageCatalog other := by
  unfold manageCatalog Identity.isOperator
  rw [highest_congr level]

private theorem createUser_congr : createUser caller = createUser other := by
  unfold createUser
  rw [highest_congr level]

private theorem readUser_congr {target counterpart : Target}
    (same : target.SameBut Role.SameHighest counterpart) :
    readUser caller target = readUser other counterpart := by
  unfold readUser Identity.isSelf
  rw [level.id, same.id, actOnOther_congr level .read same]

private theorem updateUser_congr {target counterpart : Target}
    (same : target.SameBut Role.SameHighest counterpart) :
    updateUser caller target = updateUser other counterpart := by
  unfold updateUser Identity.isSelf
  rw [level.id, same.id, actOnOther_congr level .update same]

private theorem assign_congr {assignment counterpart : Assignment}
    (same : assignment.SameBut Role.SameHighest counterpart) :
    assign caller assignment = assign other counterpart := by
  have assignments : assignment.highest = counterpart.highest := same.roles
  unfold assign Identity.inGroup
  rw [highest_congr level, level.group, assignments, same.group]

/-- Of the roles of callers, targets and assignments, no decision depends on more than the highest;
that goes for the wording of a refusal as well. -/
theorem answer_congr {question counterpart : Question}
    (same : question.SameBut Role.SameHighest counterpart) :
    question.answer caller = counterpart.answer other := by
  cases same with
  | manageCatalog => exact manageCatalog_congr level
  | createUser => exact createUser_congr level
  | readUser same => exact readUser_congr level same
  | updateUser same => exact updateUser_congr level same
  | deleteUser same => exact actOnOther_congr level .delete same
  | assign same => exact assign_congr level same

end Level

/-! ## Between the actions on a user -/

/-- The rule for other users is the same for every action. -/
theorem actOnOther_allow_congr (action other : UserAction) (caller : Identity) (target : Target) :
    actOnOther action caller target = .allow ↔ actOnOther other caller target = .allow := by
  rw [actOnOther_allow, actOnOther_allow]

private theorem updateUser_of_deleteUser {caller : Identity} {target : Target}
    (allowed : deleteUser caller target = .allow) : updateUser caller target = .allow :=
  updateUser_allow.mpr (.inr ((actOnOther_allow_congr .delete .update caller target).mp allowed))

private theorem updateUser_iff_readUser {caller : Identity} {target : Target} :
    updateUser caller target = .allow ↔ readUser caller target = .allow := by
  rw [updateUser_allow, readUser_allow, actOnOther_allow_congr .update .read]

end Gate

/-! ## The gate as a whole -/

/-- Permissions are monotone in privilege: what is allowed to a caller is allowed to it with a
higher role, on a target and for an assignment with a lower one.  Nothing but the highest role of
each list matters.  Whoever may delete a user may update it, and updating and reading are allowed
alike. -/
theorem permissions_follow_privilege :
    (∀ {lower upper : Identity} {hard easy : Question}, lower.SameBut Role.ReachedBy upper →
      easy.SameBut Role.ReachedBy hard → hard.answer lower = .allow →
        easy.answer upper = .allow) ∧
    (∀ {caller other : Identity} {question counterpart : Question},
      caller.SameBut Role.SameHighest other → question.SameBut Role.SameHighest counterpart →
        question.answer caller = counterpart.answer other) ∧
    (∀ {caller other : Identity} {question counterpart : Question},
      caller.SameBut Role.SameMembers other → question.SameBut Role.SameMembers counterpart →
        question.answer caller = counterpart.answer other) ∧
    ∀ (caller : Identity) (target : Target),
      (Gate.deleteUser caller target = .allow → Gate.updateUser caller target = .allow) ∧
        (Gate.updateUser caller target = .allow ↔ Gate.readUser caller target = .allow) := by
  refine ⟨fun rises eases allowed => Gate.answer_mono rises eases allowed,
    fun level same => Gate.answer_congr level same, ?_, ?_⟩
  · intro caller other question counterpart alike same
    exact Gate.answer_congr (alike.mono Role.SameMembers.sameHighest)
      (same.mono Role.SameMembers.sameHighest)
  · intro caller target
    exact ⟨Gate.updateUser_of_deleteUser, Gate.updateUser_iff_readUser⟩

namespace Sample

def caller (roles : List Role) : Identity where
  id := ⟨List.replicate 16 3, rfl⟩
  name := "boss"
  displayName := "Boss"
  group := 7
  roles := roles

def target (roles : List Role) : Target where
  id := ⟨List.replicate 16 4, rfl⟩
  group := 7
  roles := roles

private theorem caller_sameBut {related : List Role → List Role → Prop} {roles others : List Role}
    (holds : related roles others) : (caller roles).SameBut related (caller others) :=
  ⟨rfl, rfl, holds⟩

private theorem target_sameBut {related : List Role → List Role → Prop} {roles others : List Role}
    (holds : related roles others) : (target roles).SameBut related (target others) :=
  ⟨rfl, rfl, holds⟩

end Sample

/-- An admin deletes another admin of its group; as a service operator it deletes a plain user
there.  A role that is listed twice counts like one that is listed once, and whom the admin may
delete it may read. -/
theorem admin_deletes_and_rises :
    (Question.deleteUser (Sample.target [.admin])).answer (Sample.caller [.user, .admin]) = .allow ∧
    (Question.deleteUser (Sample.target [])).answer (Sample.caller [.operator]) = .allow ∧
    (Question.deleteUser (Sample.target [.admin])).answer (Sample.caller [.admin, .admin, .user]) =
      .allow ∧
    (Question.deleteUser (Sample.target [.admin, .user])).answer (Sample.caller [.admin]) =
      .allow ∧
    Gate.updateUser (Sample.caller [.user, .admin]) (Sample.target [.admin]) = .allow ∧
    Gate.readUser (Sample.caller [.user, .admin]) (Sample.target [.admin]) = .allow := by
  have deletes : (Question.deleteUser (Sample.target [.admin])).answer
      (Sample.caller [.user, .admin]) = .allow := by decide
  obtain ⟨mono, level, members, actions⟩ := permissions_follow_privilege
  obtain ⟨updating, reading⟩ := actions (Sample.caller [.user, .admin]) (Sample.target [.admin])
  refine ⟨deletes, ?_, ?_, ?_, updating deletes, reading.mp (updating deletes)⟩
  · exact mono (Sample.caller_sameBut (by unfold Role.ReachedBy; decide))
      (.deleteUser (Sample.target_sameBut (by unfold Role.ReachedBy; decide))) deletes
  · rw [← deletes]
    refine members (Sample.caller_sameBut ?_) (.deleteUser (Sample.target_sameBut fun _ => .rfl))
    intro role
    simp [or_comm]
  · rw [← deletes]
    exact level (Sample.caller_sameBut (by unfold Role.SameHighest; decide))
      (.deleteUser (Sample.target_sameBut (by unfold Role.SameHighest; decide)))

end Access

end RoleVault
