import FlockOs.Base
import Mathlib.Data.List.MinMax
import Mathlib.Data.Prod.Lex
import Mathlib.Data.String.Basic

/-!
# Registration rules

The pure half of scoped registration, `registrations.py`: the status catalog with its
transitions, the scope catalog with the eligibility predicate over its port, the window and
capacity decisions, and the choice of the waitlisted registration to promote.
-/

namespace FlockOs.Registrations

/-- `SCOPE_NONE`. -/
def scopeNone : String := "None"
/-- `SCOPE_OWN_GROUP`. -/
def scopeOwnGroup : String := "Own Group"
/-- `SCOPE_GROUP_SUBTREE`. -/
def scopeGroupSubtree : String := "Group Subtree"
/-- `SCOPE_BRANCH`. -/
def scopeBranch : String := "Branch"
/-- `SCOPE_BRANCH_SUBTREE`. -/
def scopeBranchSubtree : String := "Branch Subtree"
/-- `SCOPE_ORG_WIDE`. -/
def scopeOrgWide : String := "Org-wide"
/-- `SCOPE_INVITED_ONLY`. -/
def scopeInvitedOnly : String := "Invited Only"

/-- `CLOSED_SCOPES`: the scopes under which nobody is eligible. -/
def closedScopes : List String := [scopeNone]

/-- The options of `registration_status`. -/
inductive RegistrationStatus where
  | registered
  | waitlisted
  | cancelled
  | checkedIn
  | noShow
deriving DecidableEq, Repr

namespace RegistrationStatus

/-- The option's text. -/
def text : RegistrationStatus → String
  | registered => "Registered"
  | waitlisted => "Waitlisted"
  | cancelled => "Cancelled"
  | checkedIn => "Checked-in"
  | noShow => "No-show"

/-- A registration that holds a seat of its event: registered, or already checked in. -/
def seated : RegistrationStatus → Bool
  | registered => true
  | checkedIn => true
  | _ => false

end RegistrationStatus

open RegistrationStatus

/-- `REGISTRATION_TRANSITIONS`: the statuses that a status moves to. -/
def registrationTransitions : RegistrationStatus → List RegistrationStatus
  | registered => [checkedIn, cancelled]
  | waitlisted => [registered, cancelled]
  | cancelled => []
  | checkedIn => []
  | noShow => []

/-- `is_valid_registration_transition`: a listed move, or the same status again. -/
def isValidRegistrationTransition (fromStatus toStatus : RegistrationStatus) : Bool :=
  if fromStatus = toStatus then true
  else (registrationTransitions fromStatus).contains toStatus

/-- `validate_registration_transition`. -/
def validateRegistrationTransition (fromStatus toStatus : RegistrationStatus) :
    Except Error Unit :=
  if isValidRegistrationTransition fromStatus toStatus then .ok ()
  else .error (.registration
    s!"Illegal registration transition: {quoted fromStatus.text} -> {quoted toStatus.text} (FLO-7 §3.5).")

/-- `REGISTRATION_VIA`: how a registration was created. -/
def registrationVia : List String := ["Self", "Leader", "Invite", "Bulk"]

/-- `is_invitation_expired`: without an expiry an invitation does not lapse. -/
def isInvitationExpired (expiresOn : Option Moment) (now : Moment) : Except Error Bool :=
  match expiresOn with
  | none => .ok false
  | some expiresOn => now.ge expiresOn

/-- `GatheringScope`: a gathering's scope anchors. -/
structure GatheringScope where
  /-- Branch anchor. -/
  branch : Option String
  /-- Originating group. -/
  group : Option String
  /-- Tenant. -/
  organization : Option String
deriving DecidableEq, Repr

/-- `RegistrationScopeGateway`: the membership and tree reads that eligibility needs. -/
structure RegistrationScopeGateway where
  /-- Home branch of a member. -/
  memberBranch : String → Option String
  /-- Organization of a member's branch. -/
  memberOrganization : String → Option String
  /-- Groups that a member actively belongs to. -/
  memberGroups : String → List String
  /-- A group and its descendants. -/
  groupSubtree : String → Except Error (List String)
  /-- A branch and its descendants. -/
  branchSubtree : String → Except Error (List String)
  /-- Scope anchors of a gathering. -/
  gatheringScope : String → GatheringScope
  /-- Whether a member holds a valid invitation to a gathering. -/
  hasValidInvitation : String → String → Except Error Bool

/-- `is_member_in_scope`: whether a member is eligible under a gathering's scope. -/
def isMemberInScope (member gathering scope : String) (gateway : RegistrationScopeGateway) :
    Except Error Bool :=
  if member = "" ∨ gathering = "" then .ok false
  else if closedScopes.contains scope then .ok false
  else
    let anchors := gateway.gatheringScope gathering
    if scope = scopeOwnGroup then
      .ok <| match truthy anchors.group with
        | none => false
        | some group => (gateway.memberGroups member).contains group
    else if scope = scopeGroupSubtree then
      match truthy anchors.group with
      | none => .ok false
      | some group => do
        let subtree ← gateway.groupSubtree group
        .ok ((gateway.memberGroups member).any subtree.contains)
    else if scope = scopeBranch then
      .ok <| match truthy anchors.branch with
        | none => false
        | some branch => gateway.memberBranch member == some branch
    else if scope = scopeBranchSubtree then
      match truthy anchors.branch with
      | none => .ok false
      | some branch => do
        let subtree ← gateway.branchSubtree branch
        .ok ((gateway.memberBranch member).any subtree.contains)
    else if scope = scopeOrgWide then
      .ok <| match truthy anchors.organization with
        | none => false
        | some organization => gateway.memberOrganization member == some organization
    else if scope = scopeInvitedOnly then gateway.hasValidInvitation gathering member
    else .error (.registration s!"Unknown registration scope {quoted scope} (FLO-7 §5).")

/-- `eligibility_reason`. -/
def eligibilityReason (member gathering scope : String) (gateway : RegistrationScopeGateway) :
    Except Error String :=
  if closedScopes.contains scope then
    .ok s!"Registration is closed for this event (scope={quoted scope})."
  else if scope = scopeInvitedOnly then do
    let inScope ← isMemberInScope member gathering scope gateway
    if inScope then .ok s!"Member is eligible (matches scope {quoted scope})."
    else .ok s!"Member is out of scope ({quoted scope}) — no valid invitation for this event."
  else do
    let inScope ← isMemberInScope member gathering scope gateway
    if inScope then .ok s!"Member is eligible (matches scope {quoted scope})."
    else .ok s!"Member is out of scope ({quoted scope}) for this event."

/-- `RegistrationWindow`: the inputs of the registration gate. -/
structure RegistrationWindow where
  /-- Approval status copied to the gathering. -/
  approvalStatus : String
  /-- Confirmed registration scope. -/
  scope : String
  /-- Opening bound. -/
  opensOn : Option Moment
  /-- Closing bound. -/
  closesOn : Option Moment
  /-- Capacity of the gathering. -/
  capacity : Option Int
  /-- Seats taken. -/
  registeredCount : Int
deriving DecidableEq, Repr

/-- `is_registration_window_open`: approved, scope not closed, inside the bounds. -/
def isRegistrationWindowOpen (window : RegistrationWindow) (now : Moment) :
    Except Error Bool :=
  if closedScopes.contains window.scope then .ok false
  else if window.approvalStatus ≠ "Approved" then .ok false
  else do
    let early ← match window.opensOn with
      | none => .ok false
      | some opensOn => now.lt opensOn
    if early then .ok false
    else do
      let late ← match window.closesOn with
        | none => .ok false
        | some closesOn => now.gt closesOn
      .ok !late

/-- `CapacityDecision`: the status to record and whether it is a seat. -/
structure CapacityDecision where
  /-- Status of the new registration. -/
  status : RegistrationStatus
  /-- Whether it takes a seat. -/
  seated : Bool
deriving DecidableEq, Repr

/-- `capacity_decision`: no or a non-positive capacity is no limit. -/
def capacityDecision (capacity : Option Int) (registeredCount : Int) : CapacityDecision :=
  match capacity with
  | none => ⟨registered, true⟩
  | some capacity =>
    if capacity ≤ 0 then ⟨registered, true⟩
    else if registeredCount < capacity then ⟨registered, true⟩
    else ⟨waitlisted, false⟩

/-- A decision is a seat or a place on the waitlist. -/
theorem capacityDecision_status (capacity : Option Int) (registeredCount : Int) :
    (capacityDecision capacity registeredCount).status = registered ∨
      (capacityDecision capacity registeredCount).status = waitlisted := by
  unfold capacityDecision
  grind

/-- Under a capacity, a seat is decided exactly while a seat remains. -/
theorem capacityDecision_registered {capacity : Int} (positive : 0 < capacity)
    (registeredCount : Int) :
    (capacityDecision (some capacity) registeredCount).status = registered ↔
      registeredCount < capacity := by
  simp only [capacityDecision, if_neg (not_le.mpr positive)]
  split <;> simp_all

/-- Somebody is waitlisted only under a capacity that is used up. -/
theorem capacityDecision_waitlisted {capacity : Option Int} {registeredCount : Int}
    (waits : (capacityDecision capacity registeredCount).status = waitlisted) :
    ∃ limit, capacity = some limit ∧ 0 < limit ∧ limit ≤ registeredCount := by
  unfold capacityDecision at waits
  grind

/-- `is_capacity_full`. -/
def isCapacityFull (capacity : Option Int) (registeredCount : Int) : Bool :=
  match capacity with
  | none => false
  | some capacity => if capacity ≤ 0 then false else decide (capacity ≤ registeredCount)

/-- A capacity is full exactly when the next member is waitlisted. -/
theorem isCapacityFull_iff {capacity : Option Int} {registeredCount : Int} :
    isCapacityFull capacity registeredCount = true ↔
      (capacityDecision capacity registeredCount).status = waitlisted := by
  unfold isCapacityFull capacityDecision
  grind

/-- `WaitlistCandidate`: what the promotion looks at. -/
structure WaitlistCandidate where
  /-- Row name. -/
  name : String
  /-- Gathering of the row. -/
  gathering : String
  /-- Registered member. -/
  registrant : String
  /-- Registration time. -/
  registeredAt : Int
deriving DecidableEq, Repr

/-- Sort keys are compared by the time, then by the name. -/
instance sortKeyPreorder : Preorder (Int ×ₗ String) :=
  (@Prod.Lex.instLinearOrder Int String Int.instLinearOrder String.instLinearOrder).toPreorder

/-- `select_waitlist_promotion_candidate`: the earliest candidate, ties broken by name. -/
def selectWaitlistPromotionCandidate (candidates : List WaitlistCandidate) :
    Option WaitlistCandidate :=
  candidates.argmin fun candidate => toLex (candidate.registeredAt, candidate.name)

end FlockOs.Registrations
