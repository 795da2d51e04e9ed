import FlockOs.Approvals
import FlockOs.GroupScope

/-!
# The approval-authority guard

The last part of `permissions.py`: who may decide a step of an approval. Being the approver,
the branch axis and the group axis are checked in that order; a bypass role skips the group
axis only.
-/

namespace FlockOs.Permissions

open Approvals

/-- An optional text that passes the truth test is the given one. -/
def names (text : Option String) (wanted : String) : Bool :=
  match truthy text with
  | none => false
  | some given => given == wanted

/-- A text that passes the truth test names itself only. -/
theorem names_iff {text : Option String} {wanted : String} :
    names text wanted = true ↔ text = some wanted ∧ wanted ≠ "" := by
  rw [names]
  cases truth : truthy text with
  | none =>
    constructor
    · nofun
    · rintro ⟨rfl, nonempty⟩
      rw [truthy_some nonempty] at truth
      cases truth
  | some given =>
    rw [beq_iff_eq, truthy_eq_some truth, Option.some.injEq]
    constructor
    · rintro rfl
      exact ⟨rfl, truthy_nonempty truth⟩
    · exact And.left

/-- The step is the user's by its `approver_user` or its `approver_member`. -/
def isNamedApprover (step : StepView) (user : String) (member : Option String) : Bool :=
  names step.approverUser user ||
    match truthy member with
    | none => false
    | some member => names step.approverMember member

/-- The step is the terminal one, and the user is a Branch Admin scoped to its branch. -/
def isBranchAdminFor (step : StepView) (roles allowedBranches : List String) : Bool :=
  step.approverLevel == .branchAdmin && roles.contains roleBranchAdmin &&
    canAccessBranch step.docBranch allowedBranches roles

/-- The group axis of the guard, for a step of the group tree. -/
def decidesInGroup (docGroup user : String) (roles : List String) (gateway : GroupGateway) : Bool :=
  if isBypassUser roles then true
  else match gateway.fetchGroupBounds docGroup with
    | none => false
    | some docBounds => (resolveLeaderScope gateway user roles).leads docBounds

/-- `can_decide_approval_step`. -/
def canDecideApprovalStep (step : StepView) (user : String) (gateway : GroupGateway) : Bool :=
  if ¬ (isNamedApprover step user (gateway.resolveMemberForUser user) ||
      isBranchAdminFor step (gateway.getUserRoles user)
        (gateway.listBranchUserPermissions user)) then false
  else if ¬ canAccessBranch step.docBranch (gateway.listBranchUserPermissions user)
      (gateway.getUserRoles user) then false
  else match truthy step.docGroup with
    | none => true
    | some docGroup =>
      if step.approverLevel = .branchAdmin then true
      else decidesInGroup docGroup user (gateway.getUserRoles user) gateway

/-- `assert_approval_scope`. -/
def assertApprovalScope (step : StepView) (user : String) (gateway : GroupGateway) :
    Except Error Unit :=
  if canDecideApprovalStep step user gateway then .ok ()
  else .error (.permission
    s!"User {quoted user} is not the resolved approver for this step (member={quotedOption step.approverMember}) or lacks scope (branch={quotedOption step.docBranch}, group={quotedOption step.docGroup}).")

end FlockOs.Permissions
