import FlockOs.Base

/-!
# The approval domain

`approvals.py`: the status machine of an approval request, the chain of approver steps that
is resolved from the leaders on a group's path to the root, and the cursor over the steps.
-/

namespace FlockOs.Approvals

/-- `APPROVAL_STATUSES`. -/
inductive ApprovalStatus where
  | draft
  | pending
  | approved
  | rejected
  | cancelled
  | withdrawn
deriving DecidableEq, Repr

/-- The text of a status. -/
def ApprovalStatus.text : ApprovalStatus → String
  | draft => "Draft"
  | pending => "Pending Approval"
  | approved => "Approved"
  | rejected => "Rejected"
  | cancelled => "Cancelled"
  | withdrawn => "Withdrawn"

/-- `DEFAULT_APPROVAL_STATUS`. -/
def defaultApprovalStatus : ApprovalStatus := .draft

/-- `STEP_STATUSES`. -/
inductive StepStatus where
  | pending
  | approved
  | rejected
  | skipped
  | recused
deriving DecidableEq, Repr

/-- `APPROVER_LEVELS`. -/
inductive ApproverLevel where
  /-- `LEVEL_PARENT`. -/
  | parentGroupLeader
  /-- `LEVEL_ANCESTOR`. -/
  | ancestorGroupLeader
  /-- `LEVEL_BRANCH_ADMIN`. -/
  | branchAdmin
deriving DecidableEq, Repr

/-- `APPROVAL_TRANSITIONS`. -/
def approvalTransitions : ApprovalStatus → List ApprovalStatus
  | .draft => [.pending, .approved, .withdrawn, .cancelled]
  | .pending => [.approved, .rejected, .cancelled]
  | .rejected => [.draft]
  | .withdrawn => [.draft]
  | .approved => []
  | .cancelled => []

/-- `is_valid_approval_transition`: a new request starts as a draft, and a save in the same
status is always allowed. -/
def isValidApprovalTransition (fromStatus : Option ApprovalStatus) (toStatus : ApprovalStatus) :
    Bool :=
  match fromStatus with
  | none => toStatus == defaultApprovalStatus
  | some before => before == toStatus || (approvalTransitions before).contains toStatus

/-- `validate_approval_transition`. -/
def validateApprovalTransition (fromStatus : Option ApprovalStatus) (toStatus : ApprovalStatus) :
    Except Error Unit :=
  if isValidApprovalTransition fromStatus toStatus then .ok ()
  else match fromStatus with
    | none => .error (.value
        s!"A new approval request must start as {quoted defaultApprovalStatus.text} (got {quoted toStatus.text}).")
    | some before => .error (.value
        s!"Illegal approval transition: {quoted before.text} -> {quoted toStatus.text}.")

/-- `ApprovalPolicy`, without the registration scope that it suggests. -/
structure ApprovalPolicy where
  /-- The Branch Admin ends the chain. -/
  requireBranchAdminFinal : Bool := true
  /-- Cap on the leader steps. -/
  maxApprovalLevels : Option Int := none
  /-- A requester may approve its own request. -/
  allowSelfApproval : Bool := false
  /-- Capacity under which no chain is needed. -/
  autoApproveBelowCapacity : Option Int := none
  /-- Hours until the reminder. -/
  approvalTimeoutHours : Option Int := none
  /-- Whether a member who finds no seat waits for one. -/
  enableWaitlist : Bool := true
deriving DecidableEq, Repr

/-- `DEFAULT_POLICY`. -/
def defaultPolicy : ApprovalPolicy := {}

/-- `is_auto_approved`. -/
def isAutoApproved (capacity : Option Int) (policy : ApprovalPolicy) : Bool :=
  match policy.autoApproveBelowCapacity, capacity with
  | some threshold, some capacity => decide (0 < threshold) && decide (capacity < threshold)
  | _, _ => false

/-- `ChainNode`: a group on the path with its leaders. -/
structure ChainNode where
  /-- The group. -/
  group : String
  /-- Its leaders, the accountable one first. -/
  leaders : List String
deriving DecidableEq, Repr

/-- `ApprovalChainGateway`. -/
structure ApprovalChainGateway where
  /-- The groups with leaders on the path to the root. -/
  chainNodesForGroup : String → Except Error (List ChainNode)
  /-- User linked to a member. -/
  userForMember : String → Option String
  /-- Branch of a group. -/
  groupBranch : String → Option String
  /-- Member who acts as Branch Admin. -/
  branchAdminMember : String → Option String
  /-- User of the Branch Admin. -/
  branchAdminUser : String → Option String

/-- `StepSpec`: a resolved step. -/
structure StepSpec where
  /-- Place in the chain. -/
  idx : Nat
  /-- Relationship to the gathering's group. -/
  approverLevel : ApproverLevel
  /-- Approver. -/
  approverMember : Option String
  /-- User of the approver. -/
  approverUser : Option String
  /-- Group that the approver leads. -/
  approverGroup : Option String
  /-- Status at the start. -/
  stepStatus : StepStatus
deriving DecidableEq, Repr

/-- `_level_for_depth`. -/
def levelForDepth (depth : Nat) : ApproverLevel :=
  if depth ≤ 1 then .parentGroupLeader else .ancestorGroupLeader

/-- The state of the leader walk: the steps and the leaders seen. -/
structure Walk where
  /-- `specs`. -/
  specs : List StepSpec := []
  /-- `seen_leaders`. -/
  seen : List String := []
deriving DecidableEq, Repr

/-- The status of a leader's step. -/
def leaderStatus (requestedBy : String) (policy : ApprovalPolicy) (leader : String) : StepStatus :=
  if leader = requestedBy ∧ policy.allowSelfApproval = false then .skipped else .pending

/-- One leader of the walk: a new one adds a step. -/
def Walk.visit (requestedBy : String) (policy : ApprovalPolicy) (gateway : ApprovalChainGateway)
    (level : ApproverLevel) (group : String) (walk : Walk) (leader : String) : Walk :=
  if leader = "" ∨ leader ∈ walk.seen then walk
  else {
    specs := walk.specs ++ [{
      idx := walk.specs.length
      approverLevel := level
      approverMember := some leader
      approverUser := gateway.userForMember leader
      approverGroup := some group
      stepStatus := leaderStatus requestedBy policy leader }]
    seen := leader :: walk.seen }

/-- The leader walk over the nodes of the path. -/
def walkLeaders (requestedBy : String) (policy : ApprovalPolicy) (gateway : ApprovalChainGateway)
    (nodes : List ChainNode) : Walk :=
  nodes.zipIdx.foldl (fun walk node =>
    node.1.leaders.foldl
      (Walk.visit requestedBy policy gateway (levelForDepth node.2) node.1.group) walk) {}

/-- The Branch Admin that ends the chain, when the policy asks for one and there is one. -/
def terminator (group : String) (policy : ApprovalPolicy) (gateway : ApprovalChainGateway)
    (idx : Nat) : List StepSpec :=
  if ¬ policy.requireBranchAdminFinal then []
  else match truthy (gateway.groupBranch group) with
    | none => []
    | some branch =>
      match truthy (gateway.branchAdminMember branch) with
      | none => []
      | some adminMember =>
        [{
          idx := idx
          approverLevel := .branchAdmin
          approverMember := some adminMember
          approverUser := gateway.branchAdminUser branch
          approverGroup := none
          stepStatus := .pending }]

/-- The leader steps within the budget; skipped steps cost nothing. -/
def keepWithin : Int → List StepSpec → List StepSpec
  | _, [] => []
  | budget, step :: rest =>
    if step.stepStatus = .skipped then step :: keepWithin budget rest
    else if 0 < budget then step :: keepWithin (budget - 1) rest
    else keepWithin budget rest

/-- `_reindex` of every step to its place. -/
def reindexed (specs : List StepSpec) : List StepSpec :=
  specs.zipIdx.map fun step => { step.1 with idx := step.2 }

/-- The depth cap of the policy; the terminator stays. -/
def capped (policy : ApprovalPolicy) (specs : List StepSpec) : List StepSpec :=
  match policy.maxApprovalLevels with
  | none => specs
  | some levels =>
    if 0 ≤ levels then
      reindexed (keepWithin levels (specs.filter fun step => step.approverLevel ≠ .branchAdmin) ++
        specs.filter fun step => step.approverLevel = .branchAdmin)
    else specs

/-- The steps before the check that one of them is pending. -/
def chainSteps (group requestedBy : String) (policy : ApprovalPolicy)
    (gateway : ApprovalChainGateway) (nodes : List ChainNode) : List StepSpec :=
  capped policy ((walkLeaders requestedBy policy gateway nodes).specs ++
    terminator group policy gateway (walkLeaders requestedBy policy gateway nodes).specs.length)

/-- `resolve_approval_chain`. -/
def resolveApprovalChain (group requestedBy : Option String) (policy : ApprovalPolicy)
    (gateway : ApprovalChainGateway) : Except Error (List StepSpec) :=
  match truthy group, truthy requestedBy with
  | none, _ => .error (.value "group is required to resolve an approval chain.")
  | some _, none => .error (.value "requested_by is required to resolve an approval chain.")
  | some group, some requestedBy =>
    match gateway.chainNodesForGroup group with
    | .error raised => .error raised
    | .ok nodes =>
      if (chainSteps group requestedBy policy gateway nodes).any (·.stepStatus = .pending) then
        .ok (chainSteps group requestedBy policy gateway nodes)
      else .error (.value
        s!"Approval chain for group {quoted group} resolved no approver — set a leader on an ancestor group or a Branch Admin for its branch.")

/-- `current_step_index`: the first pending step at or after the stored one. -/
def currentStepIndex (statuses : List StepStatus) (storedCurrent : Nat) : Option Nat :=
  (List.range statuses.length).find? fun i =>
    decide (storedCurrent ≤ i) && decide (statuses[i]? = some .pending)

/-- `first_pending_step`. -/
def firstPendingStep (statuses : List StepStatus) : Option Nat := currentStepIndex statuses 0

/-- `StepView`: what the guard reads of a materialized step. -/
structure StepView where
  /-- Place in the chain. -/
  idx : Nat
  /-- Relationship to the gathering's group. -/
  approverLevel : ApproverLevel
  /-- Approver. -/
  approverMember : Option String
  /-- User of the approver. -/
  approverUser : Option String
  /-- Group that the approver leads. -/
  approverGroup : Option String
  /-- Status. -/
  stepStatus : StepStatus
  /-- Branch of the approval. -/
  docBranch : Option String
  /-- Group of the approval. -/
  docGroup : Option String
deriving DecidableEq, Repr

end FlockOs.Approvals
