import FlockOs.LivenessRecovery

/-!
# The liveness watchdog

`run_watchdog`, one fire over its two ports: a reader that probes the watched agent, and the
recovery actions. What a port answers is given by the number of the call, counted among the calls
of its kind. A fire records the calls it makes, those that raise included. The loop of
`_release_restart_loop` has a bound on its turns.
-/

namespace FlockOs.Liveness

open Lib

/-- The exceptions that a port raises. -/
inductive Fault where
  /-- `RecoveryActionError`. -/
  | recoveryAction (message : String)
  /-- `ReleaseForbidden`, a kind of `RecoveryActionError`. -/
  | releaseForbidden (message : String)
  /-- Any other exception. -/
  | other (kind message : String)
deriving DecidableEq, Repr

/-- `except RecoveryActionError` catches the exception. -/
def Fault.caught : Fault → Option String
  | .recoveryAction message => some message
  | .releaseForbidden message => some message
  | .other _ _ => none

/-- `WatchdogConfig`. -/
structure WatchdogConfig (Value : Type) where
  /-- `watched_agent_id`. -/
  watchedAgentId : Value
  /-- `ceo_fallback_owner_id`. -/
  ceoFallbackOwnerId : Option Value := none
  /-- `watchdog_issue_id`. -/
  watchdogIssueId : Option Value := none
  /-- `thresholds`. -/
  thresholds : LivenessThresholds := {}
  /-- `max_attempts`. -/
  maxAttempts : Int := defaultMaxAttempts
  /-- `backoff_seconds`. -/
  backoffSeconds : List Int := defaultBackoffSeconds
  /-- `admit_wait_seconds`. -/
  admitWaitSeconds : Rat := 45

/-- `LivenessProbe`. -/
structure LivenessProbe (Value : Type) where
  /-- `run`. -/
  run : Option (HeartbeatRun Value)
  /-- `all_runs`. -/
  allRuns : List (HeartbeatRun Value)
  /-- `chain`. -/
  chain : ChainOfCommand Value
  /-- `linked_issue_is_terminal`. -/
  linkedIssueIsTerminal : Bool
  /-- `successful_run_missing_disposition`. -/
  successfulRunMissingDisposition : Bool

/-- What `create_board_approval` returns. -/
inductive BoardApproval (Value : Type) where
  /-- A `dict` with this `id`. -/
  | document (id : Option Value)
  /-- Anything else. -/
  | other

/-- The arguments of `create_board_approval`. -/
structure ApprovalRequest (Value : Type) where
  /-- `issue_ids`. -/
  issueIds : List Value
  /-- `title`. -/
  title : String
  /-- `summary`. -/
  summary : String
  /-- `recommended_action`. -/
  recommendedAction : String
  /-- `risks`. -/
  risks : List String

/-- The answers of the reader, the actions and the clock. -/
structure Ports (Value : Type) where
  /-- `reader.probe()`. -/
  probe : Nat → Except Fault (LivenessProbe Value)
  /-- `clk()`. -/
  clock : Nat → Rat
  /-- `release_issue`. -/
  releaseIssue : Nat → Except Fault Unit
  /-- `invoke_heartbeat`. -/
  invokeHeartbeat : Nat → Except Fault Unit
  /-- `create_board_approval`. -/
  createBoardApproval : Nat → Except Fault (BoardApproval Value)
  /-- `post_comment`. -/
  postComment : Nat → Except Fault Unit

/-- A call that a fire makes. -/
inductive Call (Value : Type) where
  | probe
  | clock
  | sleep (seconds : Rat)
  | release (issueId ownerId : Value)
  | invoke (agentId : Value)
  | approval (request : ApprovalRequest Value)
  | comment (issueId : Value) (body : String)

/-- The kinds of calls. -/
inductive CallKind where
  | probe
  | clock
  | sleep
  | release
  | invoke
  | approval
  | comment
deriving DecidableEq, Repr

/-- The kind of a call. -/
def Call.kind {Value : Type} : Call Value → CallKind
  | .probe => .probe
  | .clock => .clock
  | .sleep _ => .sleep
  | .release _ _ => .release
  | .invoke _ => .invoke
  | .approval _ => .approval
  | .comment _ _ => .comment

/-- The number of calls of a kind. -/
def made {Value : Type} (kind : CallKind) (calls : List (Call Value)) : Nat :=
  calls.countP fun call => call.kind = kind

/-- A fire under way. -/
structure Fire (Value : Type) where
  /-- The calls made. -/
  calls : List (Call Value) := []
  /-- `audit`. -/
  audit : List String := []

/-- A computation of a fire. -/
abbrev Firing (Value α : Type) := Exec Fault (Fire Value) α

variable {Value : Type} [BEq Value] [Truth Value] [ToString Value]

/-- A call of a port; it is recorded whether it returns or raises. -/
def ask {α : Type} (call : Call Value) (answer : Nat → Except Fault α) : Firing Value α :=
  fun fire =>
    match answer (made call.kind fire.calls) with
    | .ok value => .ok value { fire with calls := fire.calls ++ [call] }
    | .error raised => .error raised { fire with calls := fire.calls ++ [call] }

/-- `audit.append(line)`. -/
def note (line : String) : Firing Value Unit :=
  modify fun fire => { fire with audit := fire.audit ++ [line] }

/-- `sleep(seconds)`. -/
def sleep (seconds : Rat) : Firing Value Unit := ask (.sleep seconds) fun _ => .ok ()

/-- `str` of a value that may be `None`. -/
def shown : Option Value → String
  | some value => toString value
  | none => "None"

/-- `repr` of an id that may be `None`. -/
def quoted : Option Value → String
  | some value => s!"'{value}'"
  | none => "None"

section Comments

variable (config : WatchdogConfig Value)

/-- The line that names the runner. -/
def runnerLine : String :=
  "- Runner: `scripts/dev/agent-liveness-watchdog.py` ([FLO-968](/FLO/issues/FLO-968))"

/-- The line that names the procedure. -/
def procedureLine (step : String) : String :=
  s!"- Procedure: `docs/operations/agent-liveness-recovery-runbook.md`{step}\n"

/-- `_comment_healthy_no_run`. -/
def commentHealthyNoRun : String :=
  "## Liveness check — healthy\n\n" ++
    s!"- Watched agent: `{config.watchedAgentId}`\n" ++
    "- No in-flight base run detected; nothing to recover.\n" ++ procedureLine "" ++ runnerLine

/-- `_comment_healthy`. -/
def commentHealthy (verdict : RunVerdict Value) : String :=
  "## Liveness check — healthy\n\n" ++
    s!"- Watched agent: `{config.watchedAgentId}`\n" ++
    s!"- {verdict.reason}.\n" ++ procedureLine "" ++ runnerLine

/-- `_comment_watch`. -/
def commentWatch (verdict : RunVerdict Value) : String :=
  "## Liveness check — suspicious (watch)\n\n" ++
    s!"- Watched agent: `{config.watchedAgentId}`\n" ++
    s!"- {verdict.reason}; no recovery action yet.\n" ++
    s!"- Linked issue: `{shown verdict.linkedIssueId}`\n" ++ procedureLine "" ++ runnerLine

/-- `_comment_recovered`. -/
def commentRecovered (verdict : RunVerdict Value) (owner : Value) (attempts : Int) (age : Rat) :
    String :=
  s!"## Watchdog recovered `{config.watchedAgentId}`\n\n" ++
    s!"- Recovered run `{shown verdict.linkedIssueId}` after ~{fixed 0 age}m via release+invoke " ++
    s!"(attempt {attempts}/{config.maxAttempts}; owner=`{owner}`).\n" ++
    procedureLine " §Step 3" ++ runnerLine

/-- `_comment_escalate`. -/
def commentEscalate (verdict : RunVerdict Value) (attempts : Int) (approvalId : Option Value)
    (forbidden : Bool) (extra : String) : String :=
  let approvalLine :=
    match approvalId.filter truth with
    | some id => s!"- Board approval: [{id}](/FLO/approvals/{id})"
    | none => "- Board approval: (creation failed — see audit)"
  let failure := if forbidden then "release was forbidden (403)" else "recovery did not self-heal"
  let suffix := if extra ≠ "" then s!"\n- {extra}" else ""
  s!"## Watchdog escalating `{config.watchedAgentId}` to the board\n\n" ++
    s!"- Automation exhausted after {attempts}/{config.maxAttempts} attempt(s); {failure}. " ++
    s!"Base run age {fixed 1 verdict.ageMinutes}m; " ++
    s!"recovery owner=`{shown verdict.recoveryOwnerId}`.\n" ++
    s!"- Linked issue: `{shown verdict.linkedIssueId}`\n" ++ s!"{approvalLine}\n" ++
    procedureLine " §Step 4" ++ runnerLine ++ suffix

/-- `_comment_unknown_agent`. -/
def commentUnknownAgent : String :=
  "## Liveness check — misconfiguration\n\n" ++
    s!"- Watched agent `{config.watchedAgentId}` is not in the chain of command; " ++
    "cannot resolve a recovery owner. No action taken.\n" ++ runnerLine

end Comments

/-- `WatchdogOutcome`. -/
structure WatchdogOutcome (Value : Type) where
  /-- `action`. -/
  action : Action
  /-- `verdict`. -/
  verdict : Option (RunVerdict Value)
  /-- `attempts_made`. -/
  attemptsMade : Int
  /-- `recovered`. -/
  recovered : Bool
  /-- `comment_body`. -/
  commentBody : String
  /-- `audit`. -/
  audit : List String

/-- `_outcome`. -/
def outcome (action : Action) (verdict : Option (RunVerdict Value)) (attempts : Int)
    (recovered : Bool) (body : String) : Firing Value (WatchdogOutcome Value) := do
  let fire ← get
  pure ⟨action, verdict, attempts, recovered, body, fire.audit⟩

/-- `_classify_probe`. -/
def classifyProbe (config : WatchdogConfig Value) (probe : LivenessProbe Value) (nowEpoch : Rat) :
    Option (RunVerdict Value) :=
  probe.run.map fun run =>
    classifyRun run nowEpoch config.watchedAgentId probe.chain config.thresholds
      probe.linkedIssueIsTerminal (isSupersededByNewerBaseRun run probe.allRuns)
      probe.successfulRunMissingDisposition config.ceoFallbackOwnerId

section Escalation

variable (config : WatchdogConfig Value) (ports : Ports Value)

/-- `_post`. -/
def post (body : String) : Firing Value Unit :=
  match config.watchdogIssueId with
  | none => note "(no watchdog issue id — comment skipped)"
  | some issueId =>
    tryCatch (ask (.comment issueId body) ports.postComment) fun raised =>
      match raised.caught with
      | some message => note s!"warn: could not post comment: {message}"
      | none => throw raised

/-- The request that `_escalate` sends. -/
def approvalRequest (verdict : RunVerdict Value) (attempts : Int) (reason : String) :
    ApprovalRequest Value where
  issueIds := [config.watchdogIssueId, verdict.linkedIssueId].filterMap (Option.filter truth)
  title := s!"[Liveness] {config.watchedAgentId} stuck run {fixed 0 verdict.ageMinutes}m " ++
    "— authorise recovery"
  summary :=
    s!"Automated recovery for watched agent `{config.watchedAgentId}` could not self-heal " ++
      s!"after {attempts} attempt(s): {reason}. " ++
      s!"Base run age {fixed 1 verdict.ageMinutes}m; " ++
      s!"recovery owner resolved to `{shown verdict.recoveryOwnerId}`."
  recommendedAction :=
    "Authorise force-release / pause-resume of the stuck agent, then re-fire the watchdog."
  risks := ["Force-releasing a senior agent's checkout may interrupt in-flight work.",
    "Pause/resume has org-wide blast radius for a senior agent."]

/-- `_escalate`: the id of the approval, where there is one. -/
def escalate (verdict : RunVerdict Value) (attempts : Int) (reason : String) :
    Firing Value (Option Value) :=
  tryCatch (do
    let approval ← ask (.approval (approvalRequest config verdict attempts reason))
      ports.createBoardApproval
    match approval with
    | .document id => do
      note s!"opened board approval: {shown id}"
      pure id
    | .other => do
      note "opened board approval: ?"
      pure none) fun raised =>
    match raised.caught with
    | some message => do
      note s!"warn: could not open board approval: {message}"
      pure none
    | none => throw raised

/-- The end of a fire that escalates. -/
def escalateBoard (verdict : RunVerdict Value) (attempts : Int) (reason : String)
    (forbidden : Bool) (extra : String) : Firing Value (WatchdogOutcome Value) := do
  let approvalId ← escalate config ports verdict attempts reason
  let body := commentEscalate config verdict attempts approvalId forbidden extra
  post config ports body
  outcome .escalateBoard (some verdict) attempts false body

end Escalation

/-- How the loop is left. -/
structure LoopEnd where
  /-- `attempts`. -/
  attempts : Int
  /-- `recovered`. -/
  recovered : Bool
  /-- `forbidden`. -/
  forbidden : Bool
deriving DecidableEq, Repr

/-- How a turn of the loop ends. -/
inductive TurnEnd (Value : Type) where
  /-- The loop is left. -/
  | leave (state : LoopEnd)
  /-- The loop goes on with a verdict. -/
  | goOn (attempts : Int) (current : RunVerdict Value)

section Loop

variable (config : WatchdogConfig Value) (ports : Ports Value) (owner : Value)
  (linkedId : Option Value)

/-- The plan for a verdict after some attempts. -/
def planFor (verdict : RunVerdict Value) (attempts : Int) : RecoveryPlan Value :=
  planRecovery verdict attempts config.maxAttempts config.backoffSeconds
    config.thresholds.escalateMinutes

/-- The wait before an attempt. -/
def backOff (plan : RecoveryPlan Value) (attempts : Int) : Firing Value Unit :=
  match plan.nextBackoffSeconds.filter (· ≠ 0) with
  | none => pure ()
  | some seconds => do
    note s!"backoff {seconds}s before attempt {attempts + 1}"
    sleep seconds

/-- The release of an attempt: whether it was forbidden. -/
def releaseLinked : Firing Value Bool :=
  match linkedId with
  | none => do
    note "no linked issue to release — skipping release, invoking only"
    pure false
  | some issueId =>
    tryCatch (do
      ask (.release issueId owner) ports.releaseIssue
      note s!"released issue {issueId} (owner={owner})"
      pure false) fun raised =>
      match raised with
      | .releaseForbidden message => do
        note s!"release forbidden (403): {message} — escalating"
        pure true
      | raised => throw raised

/-- What the loop makes of the probe after an attempt. -/
def judgeProbe (attempts : Int) (current : RunVerdict Value) (probe : LivenessProbe Value)
    (now : Rat) : Firing Value (TurnEnd Value) :=
  match probe.run with
  | none => do
    note s!"recovered on attempt {attempts}: run cleared / linked issue terminal"
    pure (.leave ⟨attempts, true, false⟩)
  | some run =>
    if probe.linkedIssueIsTerminal then do
      note s!"recovered on attempt {attempts}: run cleared / linked issue terminal"
      pure (.leave ⟨attempts, true, false⟩)
    else
      match classifyProbe config probe now with
      | none => pure (.goOn attempts current)
      | some verdict =>
        if verdict.verdict = .healthy ∨ isSupersededByNewerBaseRun run probe.allRuns then do
          note s!"recovered on attempt {attempts}: fresh healthy run admitted"
          pure (.leave ⟨attempts, true, false⟩)
        else do
          note s!"attempt {attempts} did not recover — verdict={verdict.verdict.text}"
          pure (.goOn attempts verdict)

/-- The invocation of an attempt and the detection after it. -/
def invokeAndRedetect (attempts : Int) (current : RunVerdict Value) :
    Firing Value (TurnEnd Value) := do
  ask (.invoke config.watchedAgentId) ports.invokeHeartbeat
  note s!"invoked heartbeat for {config.watchedAgentId}"
  sleep config.admitWaitSeconds
  let probe ← ask .probe ports.probe
  let now ← ask .clock fun number => .ok (ports.clock number)
  judgeProbe config attempts current probe now

/-- A turn of the loop. -/
def loopTurn (attempts : Int) (current : RunVerdict Value) : Firing Value (TurnEnd Value) :=
  let plan := planFor config current attempts
  if plan.action ≠ .releaseRestart then do
    note s!"stop retrying: {plan.reason}"
    pure (.leave ⟨attempts, false, false⟩)
  else do
    backOff plan attempts
    let forbidden ← releaseLinked ports owner linkedId
    if forbidden then pure (.leave ⟨attempts + 1, false, true⟩)
    else invokeAndRedetect config ports (attempts + 1) current

/-- The loop, for a number of turns at most. -/
def loop : Nat → Int → RunVerdict Value → Firing Value (Option LoopEnd)
  | 0, _, _ => pure none
  | turns + 1, attempts, current => do
    match ← loopTurn config ports owner linkedId attempts current with
    | .leave state => pure (some state)
    | .goOn attempts next => loop turns attempts next

/-- `_release_restart_loop` after the loop. -/
def finishLoop (verdict : RunVerdict Value) (state : LoopEnd) :
    Firing Value (WatchdogOutcome Value) :=
  if state.recovered then do
    let body := commentRecovered config verdict owner state.attempts verdict.ageMinutes
    post config ports body
    outcome .recovered (some verdict) state.attempts true body
  else
    let reason :=
      if state.forbidden then "release forbidden (403)"
      else s!"exhausted {state.attempts}/{config.maxAttempts} attempts"
    escalateBoard config ports verdict state.attempts reason state.forbidden ""

/-- `_release_restart_loop`. -/
def releaseRestartLoop (turns : Nat) (verdict : RunVerdict Value) (priorAttempts : Int) :
    Firing Value (Option (WatchdogOutcome Value)) := do
  match ← loop config ports owner linkedId turns priorAttempts verdict with
  | none => pure none
  | some state => some <$> finishLoop config ports owner verdict state

end Loop

section Fires

variable (config : WatchdogConfig Value) (ports : Ports Value)

/-- `_finish_dry_run`. -/
def finishDryRun (verdict : Option (RunVerdict Value)) : Firing Value (WatchdogOutcome Value) := do
  match verdict with
  | none => note "dry-run: no in-flight base run — would NOOP"
  | some verdict =>
    let plan := planRecovery verdict 0 config.maxAttempts config.backoffSeconds
      defaultEscalateMinutes
    note (s!"dry-run: verdict={verdict.verdict.text} age={fixed 1 verdict.ageMinutes}m " ++
      s!"→ would {plan.action.text} ({plan.reason})")
  outcome .dryRun verdict 0 false ""

/-- The end of a fire that takes no action. -/
def finishNoop (verdict : RunVerdict Value) : Firing Value (WatchdogOutcome Value) :=
  if verdict.verdict = .suspicious then do
    let body := commentWatch config verdict
    post config ports body
    outcome .noop (some verdict) 0 false body
  else outcome .noop (some verdict) 0 false (commentHealthy config verdict)

/-- A fire after the plan for its first verdict. -/
def carryOut (turns : Nat) (priorAttempts : Int) (verdict : RunVerdict Value) :
    Firing Value (Option (WatchdogOutcome Value)) :=
  let plan := planFor config verdict priorAttempts
  if plan.action = .noop then some <$> finishNoop config ports verdict
  else if plan.action = .escalateBoard then
    some <$> escalateBoard config ports verdict 0 plan.reason false ""
  else
    match verdict.recoveryOwnerId.filter fun owner => !(owner == config.watchedAgentId) with
    | none => do
      note (s!"recovery owner resolved to {quoted verdict.recoveryOwnerId} " ++
        s!"(stuck={config.watchedAgentId}) — unsafe; escalating instead of recovering")
      some <$> escalateBoard config ports verdict 0 "no safe recovery owner" false
        "recovery owner could not be resolved safely"
    | some owner =>
      releaseRestartLoop config ports owner verdict.linkedIssueId turns verdict priorAttempts

/-- `run_watchdog`, with a bound on the turns of its loop; `none` where they do not suffice. -/
def runWatchdog (turns : Nat) (priorAttempts : Int) (dryRun : Bool) :
    Firing Value (Option (WatchdogOutcome Value)) := do
  let now ← ask .clock fun number => .ok (ports.clock number)
  let probe ← ask .probe ports.probe
  match probe.chain.get config.watchedAgentId with
  | none => do
    note s!"unknown watched agent {config.watchedAgentId}; cannot resolve chain"
    some <$> outcome .noop none 0 false (commentUnknownAgent config)
  | some _ =>
    let verdict := classifyProbe config probe now
    if dryRun then some <$> finishDryRun config verdict
    else
      match verdict with
      | none => do
        note "no in-flight base run — healthy"
        some <$> outcome .noop none 0 false (commentHealthyNoRun config)
      | some verdict => do
        let plan := planFor config verdict priorAttempts
        note (s!"verdict={verdict.verdict.text} age={fixed 1 verdict.ageMinutes}m " ++
          s!"→ {plan.action.text} ({plan.reason})")
        carryOut config ports turns priorAttempts verdict

end Fires

end FlockOs.Liveness
