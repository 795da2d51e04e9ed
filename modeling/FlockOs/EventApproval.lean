import FlockOs.ApprovalScope
import FlockOs.Lib.Exec
import FlockOs.Traversal

/-!
# The event approval controller

`flock_event_approval.py` for one approval and its gathering: the chain gateway over the
directory tables, the validation that every save runs, and the endpoints. Each call reads its
own snapshot of the other tables. A call that raises leaves both documents as they were; what
it published before is not taken back.
-/

namespace FlockOs.EventApproval

open Lib Permissions Directory Approvals Traversal

/-- Add a roster member to the leaders unless it is empty or there already. -/
def joinLeaders (leaders : List String) (member : String) : List String :=
  if member = "" ∨ member ∈ leaders then leaders else leaders ++ [member]

/-- The members who lead a group on its roster. -/
def rosterLeaders (tables : Tables) (group : String) : List String :=
  (tables.roster.filter fun row =>
    row.group = group && leaderRosterRoles.contains row.role).map GroupMember.member

/-- The leaders of a group: the accountable one, then those on the roster. -/
def leadersOf (tables : Tables) (group : Group) : List String :=
  (rosterLeaders tables group.name).foldl joinLeaders (truthy group.leader).toList

/-- The node of a group that has leaders. -/
def chainNode (tables : Tables) (group : Group) : Option ChainNode :=
  if (leadersOf tables group).isEmpty then none else some ⟨group.name, leadersOf tables group⟩

/-- `chain_nodes_for_group`. -/
def chainNodesForGroup (tables : Tables) (group : String) : Except Error (List ChainNode) :=
  (groupPathToRoot tables group).map (List.filterMap (chainNode tables))

/-- `user_for_member`. -/
def userForMember (tables : Tables) (member : String) : Option String :=
  if member = "" then none else (tables.members.find? member).bind Member.linkedUser

/-- `group_branch`. -/
def groupBranch (tables : Tables) (group : String) : Option String :=
  if group = "" then none else (tables.groups.find? group).bind Group.branch

/-- The member of a user who has the Branch Admin role and the branch among its permissions. -/
def adminMember (tables : Tables) (branch : String) (row : String × String) : Option String :=
  if row.2 = roleBranchAdmin ∧ (row.1, branch) ∈ tables.branchPermissions then
    (tables.members.rows.find? fun member => member.linkedUser = some row.1).map Member.name
  else none

/-- `branch_admin_member`: the first such member. -/
def branchAdminMember (tables : Tables) (branch : String) : Option String :=
  if branch = "" then none else tables.hasRole.findSome? (adminMember tables branch)

/-- `FrappeApprovalChainGateway`. -/
def frappeApprovalChainGateway (tables : Tables) : ApprovalChainGateway where
  chainNodesForGroup := chainNodesForGroup tables
  userForMember := userForMember tables
  groupBranch := groupBranch tables
  branchAdminMember := branchAdminMember tables
  branchAdminUser branch := (branchAdminMember tables branch).bind (userForMember tables)

/-- A row of `tabFlock Event Approval Step`. -/
structure ApprovalStep where
  /-- Relationship to the gathering's group. -/
  approverLevel : ApproverLevel
  /-- Approver. -/
  approverMember : Option String := none
  /-- User of the approver. -/
  approverUser : Option String := none
  /-- Group that the approver leads. -/
  approverGroup : Option String := none
  /-- Status. -/
  stepStatus : StepStatus := .pending
  /-- User who decided. -/
  decidedBy : Option String := none
  /-- Time of the decision. -/
  decidedAt : Option Int := none
  /-- Comment of the decision. -/
  comment : Option String := none
deriving DecidableEq, Repr

/-- A row of `tabFlock Event Approval` with its steps. -/
structure Approval where
  /-- Primary key. -/
  name : String
  /-- Tenant. -/
  organization : Option String := none
  /-- Branch anchor. -/
  branch : Option String := none
  /-- Group anchor. -/
  group : Option String := none
  /-- The gathering to approve. -/
  gathering : String
  /-- Requesting member. -/
  requestedBy : Option String := none
  /-- Time of the last submit. -/
  requestedAt : Option Int := none
  /-- Status. -/
  status : ApprovalStatus := .draft
  /-- Policy. -/
  approvalPolicy : Option String := none
  /-- Approved without a chain. -/
  autoApproved : Bool := false
  /-- Hours until the reminder. -/
  timeoutHours : Option Int := none
  /-- The step that awaits a decision. -/
  currentStep : Nat := 0
  /-- Scope proposed by the leader. -/
  proposedRegistrationScope : Option String := none
  /-- User of the final decision. -/
  finalDecisionBy : Option String := none
  /-- Time of the final decision. -/
  finalDecisionAt : Option Int := none
  /-- Reason of a rejection. -/
  rejectionReason : Option String := none
  /-- The chain. -/
  steps : List ApprovalStep := []
deriving DecidableEq, Repr

/-- The statuses of the steps. -/
def Approval.statuses (approval : Approval) : List StepStatus := approval.steps.map (·.stepStatus)

/-- The columns of the gathering that the approval writes. -/
structure GatheringCopy where
  /-- Copy of the approval's status. -/
  approvalStatus : Option String := none
  /-- The approval. -/
  approvalRequest : Option String := none
  /-- Confirmed registration scope. -/
  registrationScope : Option String := none
deriving DecidableEq, Repr

/-- The two documents and what has been published. -/
structure Desk where
  /-- The approval. -/
  approval : Approval
  /-- Its gathering. -/
  gathering : GatheringCopy := {}
  /-- The emitted events. -/
  publishedEvents : List DomainEvent := []
deriving DecidableEq, Repr

/-- What a call reads besides the two documents. -/
structure Session where
  /-- Groups, rosters, members and roles. -/
  tables : Tables
  /-- `Flock Branch.organization`. -/
  branchOrganization : String → Option String := fun _ => none
  /-- Branch and group of a gathering that exists. -/
  gatheringAnchors : String → Option (Option String × Option String) := fun _ => none
  /-- `Flock Gathering.capacity`. -/
  gatheringCapacity : String → Option Int := fun _ => none
  /-- `Flock Event Approval Policy`. -/
  policies : String → Option ApprovalPolicy := fun _ => none
  /-- The session user. -/
  user : String
  /-- `frappe.utils.now`. -/
  now : Int
  /-- What the framework itself checks of a document that is saved. -/
  frameworkChecks : Approval → Except Error Unit := fun _ => .ok ()

/-- A call on the desk. -/
abbrev Call (α : Type) := Exec Error Desk α

/-- `_denormalize_tenant_floor`. -/
def Approval.denormalizeTenantFloor (session : Session) (approval : Approval) : Approval :=
  match truthy approval.organization, truthy approval.branch with
  | none, some branch =>
    match truthy (session.branchOrganization branch) with
    | some organization => { approval with organization := some organization }
    | none => approval
  | _, _ => approval

/-- The branch of the approval's group. -/
def Approval.groupBranch (session : Session) (approval : Approval) : Option String :=
  match truthy approval.group with
  | none => none
  | some group => (session.tables.groups.find? group).bind Group.branch

/-- The anchors of the gathering, when it has a branch, differ from those of the approval. -/
def Approval.strays (session : Session) (approval : Approval) : Bool :=
  match session.gatheringAnchors approval.gathering with
  | none => false
  | some (branch, group) =>
    (truthy branch).isSome && (branch != approval.branch || group != approval.group)

/-- `_validate_branch_group_binding`. -/
def validateBranchGroupBinding (session : Session) (approval : Approval) : Except Error Unit :=
  if truthy approval.branch = none then .error (.validation
    "Flock Event Approval.branch is required (the row-level perm anchor).")
  else if approval.groupBranch session = none then .error (.validation
    "Flock Event Approval.group has no branch — cannot bind the approval.")
  else if approval.groupBranch session ≠ approval.branch then .error (.validation
    s!"An approval's branch must match its group's branch (group branch {quotedOption (approval.groupBranch session)} != approval branch {quotedOption approval.branch}). ADR §4.2.")
  else if approval.strays session then .error (.validation
    "An approval's branch/group must match its gathering's branch/group (FLO-7 §3.2).")
  else .ok ()

/-- `_validate_status_transition`: from the stored status to the one that is saved. -/
def validateStatusTransition (stored : ApprovalStatus) (approval : Approval) : Except Error Unit :=
  match validateApprovalTransition (some stored) approval.status with
  | .ok () => .ok ()
  | .error (.value message) => .error (.validation message)
  | .error raised => .error raised

/-- A member leads a group, by its `leader` field or on its roster. -/
def leadsGroup (tables : Tables) (member group : String) : Bool :=
  (tables.groups.find? group).bind Group.leader == some member ||
    tables.roster.any fun row =>
      row.group == group && row.member == member && leaderRosterRoles.contains row.role

/-- `_validate_requested_by_leads_group`. -/
def validateRequestedByLeadsGroup (session : Session) (approval : Approval) : Except Error Unit :=
  match truthy approval.requestedBy, truthy approval.group with
  | some requestedBy, some group =>
    if leadsGroup session.tables requestedBy group then .ok ()
    else .error (.validation
      s!"Requested By {quoted requestedBy} is not a leader of group {quoted group} (FLO-7 §4.1).")
  | _, _ => .error (.validation "Requested By and Group are required (FLO-7 §4.1).")

/-- `validate`. -/
def validate (session : Session) (stored : ApprovalStatus) (approval : Approval) :
    Except Error Approval := do
  validateBranchGroupBinding session (approval.denormalizeTenantFloor session)
  validateStatusTransition stored (approval.denormalizeTenantFloor session)
  validateRequestedByLeadsGroup session (approval.denormalizeTenantFloor session)
  pure (approval.denormalizeTenantFloor session)

/-- The desk with another approval. -/
def Desk.withApproval (desk : Desk) (approval : Approval) : Desk :=
  { desk with approval := approval }

/-- `approval.save(ignore_permissions=True)`: the saved document. -/
def save (session : Session) (approval : Approval) : Call Approval := do
  let desk ← get
  let saved ← Exec.ofExcept (validate session desk.approval.status approval)
  Exec.ofExcept (session.frameworkChecks saved)
  modify fun desk => desk.withApproval saved
  pure saved

/-- `_scope_for_event`. -/
def scopeForEvent (approval : Approval) : List (String × Value) :=
  [("branch", .ofOption approval.branch), ("group", .ofOption approval.group),
    ("organization", .ofOption approval.organization)]

/-- The desk after an emission. -/
def Desk.publish (desk : Desk) (event : DomainEvent) : Desk :=
  { desk with publishedEvents := desk.publishedEvents ++ [event] }

/-- `events.emit` about an approval. -/
def emit (approval : Approval) (name : String) (payload : List (String × Value)) : Call Unit :=
  modify fun desk => desk.publish ⟨name, payload, scopeForEvent approval⟩

/-- The gathering after the status is written back. -/
def Desk.syncGathering (desk : Desk) (name : String) (status : ApprovalStatus) : Desk :=
  { desk with
    gathering := { desk.gathering with
      approvalStatus := some status.text
      approvalRequest := some name } }

/-- `_sync_gathering_status`. -/
def syncGatheringStatus (approval : Approval) (status : ApprovalStatus) : Call Unit :=
  modify fun desk => desk.syncGathering approval.name status

/-- The scope that final approval confirms. -/
def confirmedScope (approval : Approval) : String :=
  (truthy approval.proposedRegistrationScope).getD "None"

/-- The gathering after its registration scope is confirmed. -/
def Desk.confirmScope (desk : Desk) (scope : String) : Desk :=
  { desk with gathering := { desk.gathering with registrationScope := some scope } }

/-- `_open_registration_on_final_approval`. -/
def openRegistrationOnFinalApproval (approval : Approval) : Call Unit := do
  modify fun desk => desk.confirmScope (confirmedScope approval)
  emit approval Events.registrationOpened
    [("approval", .str approval.name), ("gathering", .str approval.gathering),
      ("scope", .str (confirmedScope approval))]

/-- `_approval_policy_from_row`. -/
def approvalPolicyFromRow (session : Session) (policyName : Option String) : ApprovalPolicy :=
  match truthy policyName with
  | none => defaultPolicy
  | some name => (session.policies name).getD {}

/-- The member linked to the session user. -/
def Session.member (session : Session) : Option String :=
  (session.tables.members.rows.find? fun member =>
    member.linkedUser = some session.user).map Member.name

/-- `preview_approval_chain`: the chain of a group under the default policy. -/
def previewApprovalChain (session : Session) (group requestedBy : Option String) :
    Except Error (List StepSpec) :=
  match truthy group with
  | none => .error (.validation "group is required")
  | some group =>
    resolveApprovalChain (some group) ((truthy requestedBy).or session.member) defaultPolicy
      (frappeApprovalChainGateway session.tables)

/-- A row of the step table for a resolved step. -/
def materialized (spec : StepSpec) : ApprovalStep where
  approverLevel := spec.approverLevel
  approverMember := spec.approverMember
  approverUser := spec.approverUser
  approverGroup := spec.approverGroup
  stepStatus := spec.stepStatus

/-- `_materialize_steps`: the rows of the step table are replaced. -/
def Approval.materializeSteps (approval : Approval) (specs : List StepSpec) : Approval :=
  { approval with steps := specs.map materialized }

/-- `_step_view`. -/
def stepView (approval : Approval) (idx : Nat) (step : ApprovalStep) : StepView where
  idx := idx
  approverLevel := step.approverLevel
  approverMember := step.approverMember
  approverUser := step.approverUser
  approverGroup := step.approverGroup
  stepStatus := step.stepStatus
  docBranch := approval.branch
  docGroup := approval.group

/-- The time of the submit, and the reminder of the policy. -/
def Approval.stampRequest (approval : Approval) (policy : ApprovalPolicy) (now : Int) : Approval :=
  { approval with
    timeoutHours := policy.approvalTimeoutHours.or approval.timeoutHours
    requestedAt := some now }

/-- A final decision. -/
def Approval.finalDecision (approval : Approval) (status : ApprovalStatus) (session : Session) :
    Approval :=
  { approval with
    status := status
    finalDecisionBy := some session.user
    finalDecisionAt := some session.now }

/-- The approval that the fast path saves. -/
def Approval.autoApprove (approval : Approval) (session : Session) : Approval :=
  { approval.finalDecision .approved session with autoApproved := true }

/-- The fast path of `submit_for_approval`. -/
def submitAutoApproved (session : Session) (approval : Approval) : Call ApprovalStatus := do
  Exec.ofExcept (validateApprovalTransition (some approval.status) .approved)
  let saved ← save session (approval.autoApprove session)
  syncGatheringStatus saved .approved
  openRegistrationOnFinalApproval saved
  emit saved Events.approvalApproved
    [("approval", .str saved.name), ("gathering", .str saved.gathering),
      ("scope", .ofOption saved.proposedRegistrationScope), ("auto_approved", .bool true)]
  pure saved.status

/-- The approval that the chain path saves. -/
def Approval.route (approval : Approval) (specs : List StepSpec) : Approval :=
  { approval.materializeSteps specs with
    status := .pending
    currentStep := (currentStepIndex (specs.map (·.stepStatus)) 0).getD 0 }

/-- The chain path of `submit_for_approval`. -/
def submitToChain (session : Session) (policy : ApprovalPolicy) (approval : Approval) :
    Call ApprovalStatus := do
  Exec.ofExcept (validateApprovalTransition (some approval.status) .pending)
  let specs ← Exec.ofExcept (resolveApprovalChain approval.group approval.requestedBy policy
    (frappeApprovalChainGateway session.tables))
  let saved ← save session (approval.route specs)
  syncGatheringStatus saved .pending
  emit saved Events.approvalRequested
    [("approval", .str saved.name), ("gathering", .str saved.gathering),
      ("requested_by", .ofOption saved.requestedBy)]
  pure saved.status

/-- The fast path applies to the approval. -/
def clearsFastPath (session : Session) (approval : Approval) : Bool :=
  isAutoApproved (session.gatheringCapacity approval.gathering)
    (approvalPolicyFromRow session approval.approvalPolicy)

/-- `submit_for_approval`. -/
def submitForApproval (session : Session) : Call ApprovalStatus := do
  let desk ← get
  if desk.approval.requestedBy ≠ session.member then
    throw (.permission "Only the requester may submit an approval for approval (FLO-7 §4.1).")
  else if clearsFastPath session desk.approval then
    submitAutoApproved session (desk.approval.stampRequest
      (approvalPolicyFromRow session desk.approval.approvalPolicy) session.now)
  else
    submitToChain session (approvalPolicyFromRow session desk.approval.approvalPolicy)
      (desk.approval.stampRequest
        (approvalPolicyFromRow session desk.approval.approvalPolicy) session.now)

/-- `_decide_current_step`: the place and the row of the current step, once the session user
may decide it. -/
def decideCurrentStep (session : Session) (approval : Approval) :
    Except Error (Nat × ApprovalStep) :=
  if approval.status ≠ .pending then .error (.validation
    s!"Approval {quoted approval.name} is {quoted approval.status.text}; only a Pending request can be decided.")
  else match currentStepIndex approval.statuses approval.currentStep with
    | none => .error (.validation "No pending step remains on this approval (FLO-7 §4.2).")
    | some idx =>
      match approval.steps[idx]? with
      | none => .error (.value "list index out of range")
      | some step =>
        match assertApprovalScope (stepView approval idx step) session.user
            (frappePermissionGateway session.tables) with
        | .ok () => .ok (idx, step)
        | .error raised => .error raised

/-- A decided step. -/
def ApprovalStep.decide (step : ApprovalStep) (status : StepStatus) (session : Session)
    (comment : String) : ApprovalStep :=
  { step with
    stepStatus := status
    decidedBy := some session.user
    decidedAt := some session.now
    comment := some comment }

/-- The approval with another row in the place of a step. -/
def Approval.setStep (approval : Approval) (idx : Nat) (step : ApprovalStep) : Approval :=
  { approval with steps := approval.steps.set idx step }

/-- The approval with the cursor on another step. -/
def Approval.advance (approval : Approval) (idx : Nat) : Approval :=
  { approval with currentStep := idx }

/-- The last approval: the terminal status, the write-back and the events. -/
def finalizeApproval (session : Session) (approval : Approval) : Call ApprovalStatus := do
  let saved ← save session (approval.finalDecision .approved session)
  syncGatheringStatus saved .approved
  openRegistrationOnFinalApproval saved
  emit saved Events.approvalApproved
    [("approval", .str saved.name), ("gathering", .str saved.gathering),
      ("scope", .ofOption saved.proposedRegistrationScope)]
  pure saved.status

/-- An approval short of the last one: the cursor moves on. -/
def advanceApproval (session : Session) (approval : Approval) (idx : Nat) :
    Call ApprovalStatus := do
  let saved ← save session (approval.advance idx)
  pure saved.status

/-- What follows a step's approval. -/
def settleApproval (session : Session) (approval : Approval) : Call ApprovalStatus :=
  match currentStepIndex approval.statuses approval.currentStep with
  | none => finalizeApproval session approval
  | some idx => advanceApproval session approval idx

/-- `approve_event`. -/
def approveEvent (session : Session) (comment : Option String) : Call ApprovalStatus := do
  let desk ← get
  let current ← Exec.ofExcept (decideCurrentStep session desk.approval)
  emit desk.approval Events.approvalStepApproved
    [("approval", .str desk.approval.name), ("step", .int current.1),
      ("approver", .str session.user)]
  settleApproval session (desk.approval.setStep current.1
    (current.2.decide .approved session ((truthy comment).getD "")))

/-- The approval that a rejection saves. -/
def Approval.reject (approval : Approval) (session : Session) (reason : String) : Approval :=
  { approval.finalDecision .rejected session with rejectionReason := some reason }

/-- `reject_event`. -/
def rejectEvent (session : Session) (reason : String) : Call ApprovalStatus :=
  if reason = "" then throw (.validation "A rejection reason is required (FLO-7 §4.3).")
  else do
    let desk ← get
    let current ← Exec.ofExcept (decideCurrentStep session desk.approval)
    let saved ← save session ((desk.approval.setStep current.1
      (current.2.decide .rejected session reason)).reject session reason)
    syncGatheringStatus saved .rejected
    emit saved Events.approvalStepRejected
      [("approval", .str saved.name), ("step", .int current.1),
        ("approver", .str session.user), ("reason", .str reason)]
    emit saved Events.approvalRejected
      [("approval", .str saved.name), ("gathering", .str saved.gathering),
        ("reason", .str reason)]
    pure saved.status

/-- The approval in another status. -/
def Approval.inStatus (approval : Approval) (status : ApprovalStatus) : Approval :=
  { approval with status := status }

/-- A status is saved and written back. -/
def saveStatus (session : Session) (approval : Approval) (status : ApprovalStatus) :
    Call ApprovalStatus := do
  let saved ← save session (approval.inStatus status)
  syncGatheringStatus saved status
  pure saved.status

/-- `withdraw_event_request`. -/
def withdrawEventRequest (session : Session) : Call ApprovalStatus := do
  let desk ← get
  if ¬ (desk.approval.status = .draft ∨ desk.approval.status = .pending) then
    throw (.validation
      s!"Approval {quoted desk.approval.name} is {quoted desk.approval.status.text}; only Draft/Pending can be withdrawn.")
  else if desk.approval.requestedBy ≠ session.member then
    throw (.permission "Only the requester may withdraw an approval (FLO-7 §4.4).")
  else saveStatus session desk.approval .withdrawn

/-- `cancel_event_request`. -/
def cancelEventRequest (session : Session) : Call ApprovalStatus := do
  let desk ← get
  if ¬ anyRole (session.tables.getRoles session.user) [roleOrgAdmin, roleBranchAdmin] then
    throw (.permission "Only an Org/Branch Admin may cancel an approval (FLO-7 §4.4).")
  else do
    Exec.ofExcept (validateApprovalTransition (some desk.approval.status) .cancelled)
    saveStatus session desk.approval .cancelled

/-- A save of the document in the status `Draft`, as the form makes it. -/
def saveAsDraft (session : Session) : Call ApprovalStatus := do
  let desk ← get
  let saved ← save session (desk.approval.inStatus .draft)
  pure saved.status

/-- The calls on an approval. -/
inductive Action where
  /-- `submit_for_approval`. -/
  | submit
  /-- `approve_event`. -/
  | approve (comment : Option String)
  /-- `reject_event`. -/
  | reject (reason : String)
  /-- `withdraw_event_request`. -/
  | withdraw
  /-- `cancel_event_request`. -/
  | cancel
  /-- A save back to `Draft`. -/
  | reopen
deriving DecidableEq, Repr

/-- The body of a call. -/
def Action.body (session : Session) : Action → Call ApprovalStatus
  | .submit => submitForApproval session
  | .approve comment => approveEvent session comment
  | .reject reason => rejectEvent session reason
  | .withdraw => withdrawEventRequest session
  | .cancel => cancelEventRequest session
  | .reopen => saveAsDraft session

/-- The desk after a call that raised: both documents as they were before. -/
def Desk.rolledBack (desk failed : Desk) : Desk :=
  { desk with publishedEvents := failed.publishedEvents }

/-- The desk after a call. -/
def Desk.perform (desk : Desk) (call : Session × Action) : Desk :=
  match call.2.body call.1 desk with
  | .ok _ next => next
  | .error _ failed => desk.rolledBack failed

end FlockOs.EventApproval
