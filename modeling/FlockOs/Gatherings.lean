import FlockOs.Base

/-!
# Gatherings

`gatherings.py`: the reporting statuses with their transitions, the binding of a gathering to the
branch of its group, and the path of groups that a gathering keeps. From `flock_gathering.json` the
options of the approval status.
-/

namespace FlockOs.Gatherings

/-- `GATHERING_STATUSES`. -/
inductive GatheringStatus where
  /-- `STATUS_SCHEDULED`. -/
  | scheduled
  /-- `STATUS_HELD`. -/
  | held
  /-- `STATUS_REPORTED`. -/
  | reported
  /-- `STATUS_CONFIRMED`. -/
  | confirmed
  /-- `STATUS_CANCELLED`. -/
  | cancelled
deriving DecidableEq, Repr

/-- The text of a status. -/
def GatheringStatus.text : GatheringStatus → String
  | scheduled => "Scheduled"
  | held => "Held"
  | reported => "Reported"
  | confirmed => "Confirmed"
  | cancelled => "Cancelled"

/-- The options of the field `approval_status`. -/
def approvalStatusOptions : List String :=
  ["Not Required", "Draft", "Pending Approval", "Approved", "Rejected", "Cancelled"]

/-- `DEFAULT_STATUS`. -/
def defaultStatus : GatheringStatus := .scheduled

/-- `TRANSITIONS`. -/
def transitions : GatheringStatus → List GatheringStatus
  | .scheduled => [.held, .cancelled]
  | .held => [.reported, .cancelled]
  | .reported => [.confirmed, .held]
  | .confirmed => []
  | .cancelled => []

/-- `TERMINAL_STATUSES`. -/
def terminalStatuses : List GatheringStatus := [.confirmed, .cancelled]

/-- `is_terminal_status`. -/
def isTerminalStatus (status : GatheringStatus) : Bool := terminalStatuses.contains status

/-- `is_valid_transition`: a new gathering starts in the default status, and a save in the same
status is always allowed. -/
def isValidTransition (fromStatus : Option GatheringStatus) (toStatus : GatheringStatus) : Bool :=
  match fromStatus with
  | none => toStatus == defaultStatus
  | some before => before == toStatus || (transitions before).contains toStatus

/-- `validate_status_transition`. -/
def validateStatusTransition (fromStatus : Option GatheringStatus) (toStatus : GatheringStatus) :
    Except Error Unit :=
  if isValidTransition fromStatus toStatus then .ok ()
  else match fromStatus with
    | none => .error (.value
        s!"A new gathering must start as {quoted defaultStatus.text} (got {quoted toStatus.text}).")
    | some before => .error (.value
        s!"Illegal gathering status transition: {quoted before.text} -> {quoted toStatus.text}.")

/-- `validate_gathering_branch_binding`. -/
def validateGatheringBranchBinding (groupBranch : Option String) (gatheringBranch : String) :
    Except Error Unit :=
  if gatheringBranch = "" then .error (.value
    "Flock Gathering.branch is required (the row-level perm anchor).")
  else match groupBranch with
    | none => .error (.value "Flock Gathering.group has no branch — cannot bind the gathering.")
    | some groupBranch =>
      if groupBranch ≠ gatheringBranch then .error (.value
        s!"A gathering's branch must match its group's branch (group branch {quoted groupBranch} != gathering branch {quoted gatheringBranch}). A gathering is branch-bound to its group (ADR §4.2).")
      else .ok ()

/-- `build_group_path`. -/
def buildGroupPath (pathToRoot : List String) : String :=
  if pathToRoot = [] then "" else "/" ++ "/".intercalate pathToRoot.reverse

/-- `_GROUP_PATH_MAX_DEPTH`. -/
def groupPathMaxDepth : Nat := 64

/-- The loop of `_group_path_to_root`, with the groups of the chain as the ones that were seen. -/
def climb (parentGroup : String → Option String) : Nat → List String → String → List String
  | 0, chain, _ => chain
  | turns + 1, chain, current =>
    match truthy (parentGroup current) with
    | none => chain
    | some parent =>
      if parent ∈ chain then chain else climb parentGroup turns (chain ++ [parent]) parent

/-- `_group_path_to_root`. -/
def groupPathToRoot (parentGroup : String → Option String) (group : String) : List String :=
  if group = "" then [] else climb parentGroup groupPathMaxDepth [group] group

end FlockOs.Gatherings
