import FlockOs.EventApproval

/-!
# The rows of approval policies

`Flock Event Approval Policy` between its form and the chain: what the framework stores of a
form, and what `flock_event_approval.py` makes of a stored row.
-/

namespace FlockOs.ApprovalPolicies

open Approvals EventApproval

/-- The value of an `Int` column as `get_value` returns it. -/
inductive IntColumn where
  /-- `NULL`. -/
  | null
  /-- The empty text. -/
  | empty
  | int (value : Int)
deriving DecidableEq, Repr

/-- `int(value) if value not in (None, "") else None`. -/
def IntColumn.given : IntColumn → Option Int
  | null => none
  | empty => none
  | int value => some value

/-- The columns of a policy that the submit reads, without the registration scope. -/
structure PolicyRow where
  /-- `require_branch_admin_final`. -/
  requireBranchAdminFinal : Bool
  /-- `max_approval_levels`. -/
  maxApprovalLevels : IntColumn
  /-- `allow_self_approval`. -/
  allowSelfApproval : Bool
  /-- `auto_approve_below_capacity`. -/
  autoApproveBelowCapacity : IntColumn
  /-- `approval_timeout_hours`. -/
  approvalTimeoutHours : IntColumn
  /-- `enable_waitlist`. -/
  enableWaitlist : Bool
deriving DecidableEq, Repr

/-- The policy that `_approval_policy_from_row` builds from a row. -/
def policyFromRow (row : PolicyRow) : ApprovalPolicy where
  requireBranchAdminFinal := row.requireBranchAdminFinal
  maxApprovalLevels := row.maxApprovalLevels.given
  allowSelfApproval := row.allowSelfApproval
  autoApproveBelowCapacity := row.autoApproveBelowCapacity.given
  approvalTimeoutHours := row.approvalTimeoutHours.given
  enableWaitlist := row.enableWaitlist

/-- The policies of a session as the submit reads them. -/
def policiesFromRows (rows : String → Option PolicyRow) (policyName : String) :
    Option ApprovalPolicy :=
  (rows policyName).map policyFromRow

/-- A policy as it is filled in. -/
structure PolicyForm where
  /-- `require_branch_admin_final`. -/
  requireBranchAdminFinal : Bool := true
  /-- `max_approval_levels`. -/
  maxApprovalLevels : Option Int := none
  /-- `allow_self_approval`. -/
  allowSelfApproval : Bool := false
  /-- `auto_approve_below_capacity`. -/
  autoApproveBelowCapacity : Option Int := none
  /-- `approval_timeout_hours`. -/
  approvalTimeoutHours : Option Int := none
  /-- `enable_waitlist`. -/
  enableWaitlist : Bool := true
deriving DecidableEq, Repr

/-- The framework stores an `Int` field that is not filled in as 0. -/
def storedInt (filled : Option Int) : IntColumn := .int (filled.getD 0)

/-- The row that the framework stores for a form. -/
def PolicyForm.stored (form : PolicyForm) : PolicyRow where
  requireBranchAdminFinal := form.requireBranchAdminFinal
  maxApprovalLevels := storedInt form.maxApprovalLevels
  allowSelfApproval := form.allowSelfApproval
  autoApproveBelowCapacity := storedInt form.autoApproveBelowCapacity
  approvalTimeoutHours := storedInt form.approvalTimeoutHours
  enableWaitlist := form.enableWaitlist

/-- `_resolve_chain_for`: the chain of an approval under a policy, by default its own. -/
def resolveChainFor (session : Session) (approval : Approval)
    (policy : Option ApprovalPolicy := none) : Except Error (List StepSpec) :=
  resolveApprovalChain approval.group approval.requestedBy
    (policy.getD (approvalPolicyFromRow session approval.approvalPolicy))
    (frappeApprovalChainGateway session.tables)

end FlockOs.ApprovalPolicies
