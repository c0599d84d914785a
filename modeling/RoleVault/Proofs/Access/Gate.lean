import RoleVault.Access.Gate
import RoleVault.Proofs.Identity

/-!
Contract: what it takes for the gate to allow a request.

Owns:
- the condition on which each decision of the gate is `allow`;
- what the defaults of an assignment leave as it was asked for.

Does not own: the requests that ask the gate (`RoleVault.Proofs.Accounts.Effect`).
-/

namespace RoleVault.Access

variable {caller : Identity} {grants : List Grant} {group : Option GroupId}

/-! ## Assignments -/

namespace Assignment

@[simp] theorem grants_settleOperator (assignment : Assignment) :
    assignment.settleOperator.grants = assignment.grants := by
  unfold settleOperator
  split <;> rfl

@[simp] theorem highest_settleOperator (assignment : Assignment) :
    assignment.settleOperator.highest = assignment.highest := by
  simp [highest, roles]

theorem group_settleOperator (assignment : Assignment) :
    assignment.settleOperator.group =
      if assignment.highest = .operator then operatorGroup else assignment.group := by
  unfold settleOperator
  split <;> rfl

@[simp] theorem grants_forCreate :
    (forCreate caller grants group).grants =
      if grants.isEmpty then [Grant.builtin .user] else grants := by
  simp [forCreate]

@[simp] theorem grants_forUpdate (current : Assignment) :
    (forUpdate current grants group).grants =
      if grants.isEmpty then current.grants else grants := by
  simp [forUpdate]

/-- Without a group in the request the group stays, but for service operators. -/
theorem group_forUpdate (current : Assignment) :
    (forUpdate current grants group).group =
      if (forUpdate current grants group).highest = .operator then operatorGroup
      else group.getD current.group := by
  rw [forUpdate, group_settleOperator, highest_settleOperator]

/-- An assignment that puts service operators nowhere but into their group. -/
def IsSettled (assignment : Assignment) : Prop :=
  assignment.highest = .operator → assignment.group = operatorGroup

private theorem isSettled_settleOperator (assignment : Assignment) :
    assignment.settleOperator.IsSettled := by
  intro operator
  rw [highest_settleOperator] at operator
  rw [group_settleOperator, if_pos operator]

/-- What a creation assigns puts a service operator into the operator group. -/
theorem isSettled_forCreate : (forCreate caller grants group).IsSettled :=
  isSettled_settleOperator _

/-- So does what an update assigns. -/
theorem isSettled_forUpdate (current : Assignment) :
    (forUpdate current grants group).IsSettled :=
  isSettled_settleOperator _

end Assignment

/-! ## Decisions -/

theorem Decision.isAllowed_iff {decision : Decision} :
    decision.isAllowed = true ↔ decision = .allow := by
  cases decision <;> simp [isAllowed]

namespace Gate

theorem manageCatalog_allow : manageCatalog caller = .allow ↔ caller.isOperator = true := by
  unfold manageCatalog
  split <;> simp_all

theorem createUser_allow :
    createUser caller = .allow ↔ caller.highest.atLeast .admin = true := by
  unfold createUser
  split <;> simp_all

theorem manageCatalog_deny (below : caller.highest.atLeast .operator = false) :
    manageCatalog caller = .deny .catalog := by
  have other : caller.isOperator = false := by
    rw [Identity.isOperator, beq_eq_false_iff_ne]
    intro operator
    rw [operator] at below
    cases below
  rw [manageCatalog, other]
  rfl

theorem createUser_deny (below : caller.highest.atLeast .admin = false) :
    createUser caller = .deny .creation := by
  rw [createUser, below]
  rfl

/-- Another user is acted on by a service operator, or by an admin of its group of at least its
level. -/
theorem actOnOther_allow {action : UserAction} {target : Target} :
    actOnOther action caller target = .allow ↔
      caller.highest = .operator ∨ caller.highest = .admin ∧ caller.group = target.group ∧
        Role.admin.atLeast target.highest = true := by
  unfold actOnOther Identity.inGroup
  by_cases operator : caller.highest = .operator
  · simp [operator]
  · by_cases admin : caller.highest = .admin
    · by_cases here : caller.group = target.group <;> simp [admin, here]
    · simp [operator, admin]

/-- A caller may update itself, and those others that the rule for others lets it update. -/
theorem updateUser_allow {target : Target} :
    updateUser caller target = .allow ↔
      caller.id = target.id ∨ actOnOther .update caller target = .allow := by
  unfold updateUser Identity.isSelf
  by_cases self : caller.id = target.id <;> simp [self]

theorem readUser_allow {target : Target} :
    readUser caller target = .allow ↔
      caller.id = target.id ∨ actOnOther .read caller target = .allow := by
  unfold readUser Identity.isSelf
  by_cases self : caller.id = target.id <;> simp [self]

/-- Whoever may act on another user reaches its level. -/
theorem actOnOther_reaches {action : UserAction} {target : Target}
    (allowed : actOnOther action caller target = .allow) :
    caller.highest.atLeast target.highest = true := by
  rcases actOnOther_allow.mp allowed with operator | ⟨admin, _, reaches⟩
  · rw [operator]
    exact Role.operator_atLeast _
  · rw [admin]
    exact reaches

/-- A caller assigns levels within its own reach, and another group than its own only as a service
operator. -/
theorem assign_allow {assignment : Assignment} :
    assign caller assignment = .allow ↔
      caller.highest.atLeast assignment.highest = true ∧
        (caller.highest = .operator ∨ caller.group = assignment.group) := by
  unfold assign Identity.inGroup
  by_cases level : caller.highest.atLeast assignment.highest = true
  · by_cases operator : caller.highest = .operator
    · simp [operator]
    · by_cases here : caller.group = assignment.group <;> simp [level, operator, here]
  · simp [level]

end Gate

end RoleVault.Access
