import FlockOs.Lib.Floats
import FlockOs.Lib.Json
import FlockOs.Lib.Text

/-!
# The decision core of the liveness watchdog

`recovery.py`: who owns the recovery of an agent, the verdict on a run in flight and the action
that follows from it; and the supersession test of `monitor.py`. The ids and the other values that
are only compared and handed on are of an arbitrary type. Times are exact numbers of seconds, and
ages of minutes.
-/

namespace FlockOs.Liveness

open Lib

/-- `HeartbeatRun`. -/
structure HeartbeatRun (Value : Type) where
  /-- `id`. -/
  id : Value
  /-- `status`. -/
  status : String
  /-- `triggered_at_epoch`. -/
  triggeredAtEpoch : Rat
  /-- `completed_at_epoch`; none while the run is in flight. -/
  completedAtEpoch : Option Rat
  /-- `linked_issue_id`. -/
  linkedIssueId : Option Value := none
  /-- `linked_issue_identifier`. -/
  linkedIssueIdentifier : Option Value := none
  /-- `linked_issue_title`. -/
  linkedIssueTitle : Option Value := none
  /-- `linked_issue_status`. -/
  linkedIssueStatus : Option Value := none
  /-- `coalesced_into_run_id`. -/
  coalescedIntoRunId : Option Value := none
  /-- `failure_reason`. -/
  failureReason : Option Value := none

/-- `ACTIVE_RUN_STATUSES`. -/
def activeRunStatuses : List String := ["issue_created", "running", "active", "pending", "queued"]

variable {Value : Type} [BEq Value] [Truth Value] [ToString Value]

/-- The run is a base run: it was not folded into another. -/
def HeartbeatRun.isBase (run : HeartbeatRun Value) : Bool := !run.coalescedIntoRunId.any truth

/-- `is_superseded_by_newer_base_run`. -/
def isSupersededByNewerBaseRun (run : HeartbeatRun Value) (runs : List (HeartbeatRun Value)) :
    Bool :=
  runs.any fun other =>
    !(other.id == run.id) && other.isBase && run.triggeredAtEpoch < other.triggeredAtEpoch

/-- `AgentNode`. -/
structure AgentNode (Value : Type) where
  /-- `id`. -/
  id : Value
  /-- `name`. -/
  name : String
  /-- `reports_to`. -/
  reportsTo : Option Value

/-- `ChainOfCommand`: the agents in the order in which they were indexed. -/
structure ChainOfCommand (Value : Type) where
  /-- `_nodes`; the last agent of an id has its place. -/
  nodes : List (AgentNode Value)

namespace ChainOfCommand

/-- `get`. -/
def get (chain : ChainOfCommand Value) (agentId : Value) : Option (AgentNode Value) :=
  chain.nodes.reverse.find? (·.id == agentId)

/-- `manager_of`. -/
def managerOf (chain : ChainOfCommand Value) (agentId : Value) : Option (AgentNode Value) :=
  (chain.get agentId).bind fun node => node.reportsTo.bind chain.get

end ChainOfCommand

/-- `resolve_recovery_owner`. -/
def resolveRecoveryOwner (stuckAgentId : Value) (chain : ChainOfCommand Value)
    (ceoFallbackOwnerId : Option Value) : Option Value :=
  match chain.get stuckAgentId with
  | none => none
  | some _ =>
    match chain.managerOf stuckAgentId with
    | some manager => some manager.id
    | none => ceoFallbackOwnerId.filter fun owner => !(owner == stuckAgentId)

/-- The `VERDICT_` constants. -/
inductive Verdict where
  | healthy
  | suspicious
  | stuck
  | abort
deriving DecidableEq, Repr

/-- The text of a verdict. -/
def Verdict.text : Verdict → String
  | .healthy => "healthy"
  | .suspicious => "suspicious"
  | .stuck => "stuck"
  | .abort => "abort"

/-- `LivenessThresholds`. -/
structure LivenessThresholds where
  /-- `suspicious_minutes`. -/
  suspiciousMinutes : Rat := 15
  /-- `stuck_minutes`. -/
  stuckMinutes : Rat := 20
  /-- `escalate_minutes`. -/
  escalateMinutes : Rat := 30
  /-- `abort_minutes`. -/
  abortMinutes : Rat := 45
deriving DecidableEq, Repr

/-- `_age_minutes`: the difference and the quotient are rounded. -/
def ageMinutes (triggeredAtEpoch : Option Rat) (nowEpoch : Rat) : Option Rat :=
  triggeredAtEpoch.map fun triggered =>
    max 0 (binary64.round (binary64.round (nowEpoch - triggered) / 60))

/-- `RunVerdict`. -/
structure RunVerdict (Value : Type) where
  /-- `verdict`. -/
  verdict : Verdict
  /-- `age_minutes`. -/
  ageMinutes : Rat
  /-- `stuck_agent_id`. -/
  stuckAgentId : Value
  /-- `recovery_owner_id`. -/
  recoveryOwnerId : Option Value
  /-- `linked_issue_id`. -/
  linkedIssueId : Option Value
  /-- `reason`. -/
  reason : String

/-- `classify_run`. -/
def classifyRun (run : HeartbeatRun Value) (nowEpoch : Rat) (stuckAgentId : Value)
    (chain : ChainOfCommand Value) (thresholds : LivenessThresholds)
    (linkedIssueIsTerminal supersededByNewerBaseRun successfulRunMissingDisposition : Bool)
    (ceoFallbackOwnerId : Option Value) : RunVerdict Value :=
  let ownerId := resolveRecoveryOwner stuckAgentId chain ceoFallbackOwnerId
  let judge (verdict : Verdict) (age : Rat) (reason : String) : RunVerdict Value :=
    ⟨verdict, age, stuckAgentId, ownerId, run.linkedIssueId, reason⟩
  match ageMinutes (some run.triggeredAtEpoch) nowEpoch with
  | none => judge .healthy 0 "run age unknown — treating as healthy"
  | some age =>
    if linkedIssueIsTerminal then
      judge .healthy age "linked issue is terminal — run is not stuck"
    else if supersededByNewerBaseRun then
      judge .healthy age
        "superseded by a newer non-coalesced base run — agent moved on (FLO-419)"
    else if successfulRunMissingDisposition then
      judge .healthy age ("linked issue under a missing_disposition recovery " ++
        "(successful_run_missing_state) — run succeeded, not stuck (FLO-771)")
    else if age ≥ thresholds.abortMinutes then
      judge .abort age
        s!"age {fixed 1 age}m >= T_ABORT {fixed 0 thresholds.abortMinutes}m — stop automated retry"
    else if age ≥ thresholds.stuckMinutes then
      judge .stuck age
        s!"age {fixed 1 age}m >= T_STUCK {fixed 0 thresholds.stuckMinutes}m and linked issue active"
    else if age ≥ thresholds.suspiciousMinutes then
      judge .suspicious age s!"age {fixed 1 age}m in suspicious window — watch"
    else judge .healthy age s!"age {fixed 1 age}m within normal bounds"

/-- The `ACTION_` constants. -/
inductive Action where
  | noop
  | releaseRestart
  | escalateBoard
  | recovered
  | dryRun
deriving DecidableEq, Repr

/-- The text of an action. -/
def Action.text : Action → String
  | .noop => "noop"
  | .releaseRestart => "release_restart"
  | .escalateBoard => "escalate_board"
  | .recovered => "recovered"
  | .dryRun => "dry_run"

/-- `RecoveryPlan`. -/
structure RecoveryPlan (Value : Type) where
  /-- `action`. -/
  action : Action
  /-- `attempts_remaining`. -/
  attemptsRemaining : Int
  /-- `next_backoff_seconds`. -/
  nextBackoffSeconds : Option Int
  /-- `recovery_owner_id`. -/
  recoveryOwnerId : Option Value
  /-- `reason`. -/
  reason : String

/-- `DEFAULT_MAX_ATTEMPTS`. -/
def defaultMaxAttempts : Int := 3

/-- `DEFAULT_BACKOFF_SECONDS`. -/
def defaultBackoffSeconds : List Int := [30, 60, 120]

/-- `DEFAULT_T_ESCALATE_MINUTES`. -/
def defaultEscalateMinutes : Rat := 30

/-- The delay before an attempt. -/
def backoffDelay (priorAttempts : Int) (backoffSeconds : List Int) : Int :=
  if priorAttempts ≤ 0 then 0
  else backoffSeconds.getD (min (priorAttempts - 1) (backoffSeconds.length - 1)).toNat 0

/-- `plan_recovery`. -/
def planRecovery (verdict : RunVerdict Value) (priorAttempts maxAttempts : Int)
    (backoffSeconds : List Int) (escalateMinutes : Rat) : RecoveryPlan Value :=
  let owner := verdict.recoveryOwnerId
  if verdict.verdict = .healthy ∨ verdict.verdict = .suspicious then
    ⟨.noop, max 0 (maxAttempts - priorAttempts), none, owner,
      s!"verdict {verdict.verdict.text} — no recovery action"⟩
  else if verdict.verdict = .abort ∨ priorAttempts ≥ maxAttempts ∨
      verdict.ageMinutes ≥ escalateMinutes then
    ⟨.escalateBoard, 0, none, owner,
      s!"escalate: verdict={verdict.verdict.text} age={fixed 1 verdict.ageMinutes}m " ++
        s!"attempts={priorAttempts}/{maxAttempts}"⟩
  else
    let delay := backoffDelay priorAttempts backoffSeconds
    ⟨.releaseRestart, max 0 (maxAttempts - priorAttempts - 1), some delay, owner,
      s!"release+restart: attempt {priorAttempts + 1}/{maxAttempts} backoff={delay}s"⟩

end FlockOs.Liveness
