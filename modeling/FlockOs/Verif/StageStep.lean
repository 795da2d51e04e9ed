import FlockOs.EngagementRace
import FlockOs.Verif.SessionCalls

/-!
# One call of the engagement runtime of a site

What a participation does over the session table and the cache: it passes the gate of its
session and ticket, asks the throttle, and then appends its row unless its nonce is known.
-/

namespace FlockOs.EngagementStage

open Lib Reporting Engagement

/-- The status of a session. -/
def Stage.statusOf (stage : Stage) (sessionId : String) : Option SessionStatus :=
  (stage.sessions sessionId).map (·.status)

@[simp] theorem sessionFromRow_status (name : String) (row : SessionRow) :
    (sessionFromRow name row).status = row.status := rfl

/-- The session that a call finds, or the error it raises. -/
theorem requireSession_run (time : Rat) (sessionId : String) (stage : Stage) :
    requireSession (stageGateway time).toSessionStore sessionId stage =
      match stage.sessions sessionId with
      | some row => .ok (sessionFromRow sessionId row) stage
      | none =>
        .error (.engagement ("unknown engagement session: " ++ quoted sessionId)) stage := by
  have loaded : (stageGateway time).getSession sessionId stage =
      .ok (stage.getSession sessionId) stage := rfl
  rw [requireSession, Exec.bind_run_ok loaded, Stage.getSession]
  cases stage.sessions sessionId <;> rfl

@[simp] theorem setSessionStatus_sessions_self (stage : Stage) (sessionId : String)
    (status : SessionStatus) (now : Option Rat) :
    (stage.setSessionStatus sessionId status now).sessions sessionId =
      (stage.sessions sessionId).map (SessionRow.withStatus status now) :=
  Function.update_self ..

/-- Other sessions stay as they are. -/
theorem setSessionStatus_sessions_of_ne (stage : Stage) {sessionId other : String}
    (status : SessionStatus) (now : Option Rat) (different : other ≠ sessionId) :
    (stage.setSessionStatus sessionId status now).sessions other = stage.sessions other :=
  Function.update_of_ne different ..

@[simp] theorem statusOf_setSessionStatus_self (stage : Stage) (sessionId : String)
    (status : SessionStatus) (now : Option Rat) :
    (stage.setSessionStatus sessionId status now).statusOf sessionId =
      (stage.statusOf sessionId).map fun _ => status := by
  rw [Stage.statusOf, Stage.statusOf, setSessionStatus_sessions_self, Option.map_map,
    Option.map_map]
  rfl

section Participation

variable (settings : Settings) (answer : BulkAnswer) (time : Rat) (request : ParticipateRequest)
  (stage : Stage)

/-- The checks of `participate` before the window: an exception, a refusal, or the session. -/
def stageGate : Except Error (Except RefusalReason EngagementSession) :=
  match stage.getSession request.sessionId with
  | none => .error (.engagement ("unknown engagement session: " ++ quoted request.sessionId))
  | some session =>
    if !session.status.isLive then .ok (.error .sessionNotLive)
    else
      match verifyTicket settings.crypto request.ticket (stage.ticketSecret session.organization)
        time with
      | .error raised => .error raised
      | .ok verified =>
        if !verified then .ok (.error .invalidTicket)
        else if request.ticket.attendeeKey ≠ request.attendeeKey then
          .ok (.error .attendeeKeyMismatch)
        else .ok (.ok session)

/-- The attendees seen from the address of a request. -/
def addressCount (session : EngagementSession) : Nat :=
  match truthy request.ipAddress with
  | some address => stage.sameIpAttendeeCount session.sessionId address
  | none => 0

/-- The row of a request. -/
def stageRow (session : EngagementSession) : Participation :=
  EngagementService.participationOf session request (effectiveTime time request)
    (statusFlagsFor
      (validateSessionWindow session (effectiveTime time request) settings.graceSeconds)
      (detectSuspectPattern request.reactionMs (addressCount request stage session))
      request.offlineReplay)

/-- The stage with other buckets. -/
def Stage.withThrottle (stage : Stage) (buckets : String → List Rat) : Stage :=
  { stage with throttle := buckets }

/-- What the throttle answers to a request, with the stage that it leaves. -/
def throttling : Bool × Stage :=
  stage.throttleAllows (EngagementService.throttleKey request) (effectiveTime time request)
    settings.throttlePerSecond

/-- What a request past the gate is to do: the row to append, or the refusal. -/
def decisionOf (session : EngagementSession) : Except ParticipationReceipt Participation :=
  if (throttling settings time request stage).1 then
    .ok (stageRow settings time request stage session)
  else .error (EngagementService.refused request .throttled)

/-- The throttle changes its buckets and nothing else. -/
theorem throttling_stage :
    (throttling settings time request stage).2 =
      stage.withThrottle (throttling settings time request stage).2.throttle := by
  rw [throttling, Stage.throttleAllows]
  split <;> rfl

/-- The count of the attendees at an address. -/
theorem sameIp_run (session : EngagementSession) :
    (stageService settings answer time).sameIp session request stage =
      .ok (addressCount request stage session) stage := by
  rw [EngagementService.sameIp, addressCount]
  cases truthy request.ipAddress <;> rfl

/-- Past the gate the throttle decides. -/
theorem decideInteraction_run (session : EngagementSession) :
    (stageService settings answer time).decideInteraction time session request stage =
      .ok (decisionOf settings time request stage session)
        (throttling settings time request stage).2 := by
  have asked : (stageService settings answer time).gateway.throttleAllows
      (EngagementService.throttleKey request) (request.submittedAt.getD time)
      (stageService settings answer time).throttlePerSecond stage =
    .ok (throttling settings time request stage).1 (throttling settings time request stage).2 :=
    rfl
  rw [EngagementService.decideInteraction, Exec.bind_run_ok asked, decisionOf]
  cases (throttling settings time request stage).1 with
  | false => rfl
  | true =>
    have counted := sameIp_run settings answer time request
      (throttling settings time request stage).2 session
    have sameLog : addressCount request (throttling settings time request stage).2 session =
        addressCount request stage session := by
      rw [throttling_stage]
      rfl
    rw [sameLog] at counted
    simp only [Bool.not_true, Bool.false_eq_true, ↓reduceIte]
    exact Exec.bind_run_ok counted _

/-- A decision passes the gate and asks the throttle. -/
theorem participateDecide_run :
    (stageService settings answer time).participateDecide time request stage =
      match stageGate settings time request stage with
      | .error raised => .error raised stage
      | .ok (.error reason) => .ok (.error (EngagementService.refused request reason)) stage
      | .ok (.ok session) =>
        .ok (decisionOf settings time request stage session)
          (throttling settings time request stage).2 := by
  have required : requireSession (stageService settings answer time).gateway.toSessionStore
      request.sessionId stage = _ := requireSession_run time request.sessionId stage
  rw [EngagementService.participateDecide, stageGate, Stage.getSession]
  cases found : stage.sessions request.sessionId with
  | none =>
    rw [found] at required
    exact Exec.bind_run_error required _
  | some row =>
    rw [found] at required
    rw [Exec.bind_run_ok required, Option.map_some]
    dsimp only
    cases live : (sessionFromRow request.sessionId row).status.isLive with
    | false => rfl
    | true =>
      have secret : (stageService settings answer time).gateway.ticketSecret
          (sessionFromRow request.sessionId row).organization stage =
        .ok (stage.ticketSecret (sessionFromRow request.sessionId row).organization) stage := rfl
      have hashes : (stageService settings answer time).crypto = settings.crypto := rfl
      simp only [Bool.not_true, Bool.false_eq_true, ↓reduceIte]
      rw [Exec.bind_run_ok secret, hashes]
      cases verifyTicket settings.crypto request.ticket
        (stage.ticketSecret (sessionFromRow request.sessionId row).organization) time with
      | error raised => rfl
      | ok verified =>
        cases verified with
        | false => rfl
        | true =>
          by_cases keys : request.ticket.attendeeKey = request.attendeeKey
          · simp only [keys, ne_eq, not_true_eq_false, ↓reduceIte, Bool.not_true,
              Bool.false_eq_true]
            exact decideInteraction_run settings answer time request stage _
          · simp only [keys, ne_eq, not_false_eq_true, ↓reduceIte, Bool.not_true,
              Bool.false_eq_true]
            rfl

/-- The nonce of a row is not known on its session. -/
def Stage.fresh (stage : Stage) (row : Participation) : Bool :=
  decide (EngagementFrappe.nonceMember row ∉ stage.nonceSeen row.sessionId)

theorem append_log (stage : Stage) (row : Participation) :
    (stage.append row).log = Function.update stage.log row.sessionId
      ((stage.log row.sessionId).orderedInsert
        (fun left right => left.submittedAt ≤ right.submittedAt) row) := rfl

/-- The log of a session after an append. -/
theorem mem_append_log {stage : Stage} {row other : Participation} {sessionId : String} :
    other ∈ (stage.append row).log sessionId ↔
      (sessionId = row.sessionId ∧ other = row) ∨ other ∈ stage.log sessionId := by
  rw [append_log]
  by_cases same : sessionId = row.sessionId
  · rw [same, Function.update_self, List.mem_orderedInsert]
    simp only [true_and]
  · rw [Function.update_of_ne same]
    simp only [same, false_and, false_or]

/-- The receipt of a row that was appended, or whose nonce was known. -/
def receiptOf (request : ParticipateRequest) (row : Participation) (recorded : Bool) :
    ParticipationReceipt :=
  ⟨recorded, request.attendeeKey, if recorded then none else some .duplicateNonce,
    some row.submittedAt, some row.statusFlags⟩

/-- A receipt that is not accepted does not count. -/
theorem not_countsFor {request : ParticipateRequest} {receipt : ParticipationReceipt}
    (rejected : receipt.accepted = false) : countsFor (request, receipt) = false := by
  rw [countsFor, rejected, Bool.false_and]

/-- The receipt of an appended row counts when the row is in the window. -/
theorem countsFor_receiptOf (request : ParticipateRequest) (row : Participation) :
    countsFor (request, receiptOf request row true) = !row.statusFlags.outOfScope :=
  Bool.true_and _

/-- An append adds the row when its nonce is fresh. -/
theorem participateAppend_run (row : Participation) :
    (stageService settings answer time).participateAppend request row stage =
      .ok (receiptOf request row (stage.fresh row))
        (if stage.fresh row then stage.append row else stage) := by
  have asked : (stageService settings answer time).gateway.recordParticipation row stage =
      .ok (stage.recordParticipation row).1 (stage.recordParticipation row).2 := rfl
  rw [EngagementService.participateAppend, Exec.bind_run_ok asked, Stage.recordParticipation,
    Stage.fresh]
  by_cases replayed : EngagementFrappe.nonceMember row ∈ stage.nonceSeen row.sessionId
  · simp only [replayed, not_true_eq_false, decide_false, Bool.false_eq_true, ↓reduceIte,
      Bool.not_false]
    rfl
  · simp only [replayed, not_false_eq_true, decide_true, ↓reduceIte, Bool.not_true,
      Bool.false_eq_true]
    rfl

/-- The session row and the nonces stay while the throttle is asked. -/
theorem fresh_throttling (row : Participation) :
    (throttling settings time request stage).2.fresh row = stage.fresh row := by
  rw [throttling_stage]
  rfl

/-- The receipt of a request past the gate, and the stage that it leaves. -/
def stageSettle (session : EngagementSession) : ParticipationReceipt × Stage :=
  if (throttling settings time request stage).1 then
    (receiptOf request (stageRow settings time request stage session)
        (stage.fresh (stageRow settings time request stage session)),
      if stage.fresh (stageRow settings time request stage session) then
        (throttling settings time request stage).2.append
          (stageRow settings time request stage session)
      else (throttling settings time request stage).2)
  else (EngagementService.refused request .throttled, (throttling settings time request stage).2)

/-- A participation passes the gate and is settled. -/
theorem participate_run :
    (stageService settings answer time).participate time request stage =
      match stageGate settings time request stage with
      | .error raised => .error raised stage
      | .ok (.error reason) => .ok (EngagementService.refused request reason) stage
      | .ok (.ok session) =>
        .ok (stageSettle settings time request stage session).1
          (stageSettle settings time request stage session).2 := by
  have decided := participateDecide_run settings answer time request stage
  rw [EngagementService.participate_eq]
  cases verdict : stageGate settings time request stage with
  | error raised =>
    rw [verdict] at decided
    exact Exec.bind_run_error decided _
  | ok admitted =>
    rw [verdict] at decided
    cases admitted with
    | error reason => exact Exec.bind_run_ok decided _
    | ok session =>
      refine (Exec.bind_run_ok decided _).trans ?_
      dsimp only
      rw [decisionOf, stageSettle]
      cases (throttling settings time request stage).1 with
      | false => rfl
      | true =>
        have appended := participateAppend_run settings answer time request
          (throttling settings time request stage).2
          (stageRow settings time request stage session)
        rw [fresh_throttling] at appended
        exact appended

/-- Settling a request leaves the sessions alone. -/
theorem stageSettle_sessions (session : EngagementSession) :
    (stageSettle settings time request stage session).2.sessions = stage.sessions := by
  have asked : (throttling settings time request stage).2.sessions = stage.sessions := by
    rw [throttling_stage]
    rfl
  rw [stageSettle]
  split
  · dsimp only
    split
    · exact asked
    · exact asked
  · exact asked

/-- A participation leaves the sessions alone. -/
theorem participate_sessions :
    (((stageService settings answer time).participate time request).after stage).sessions =
      stage.sessions := by
  rw [Exec.after, participate_run]
  cases stageGate settings time request stage with
  | error raised => rfl
  | ok verdict =>
    cases verdict with
    | error reason => rfl
    | ok session => exact stageSettle_sessions settings time request stage session

variable {settings time request stage}

/-- What passes the gate is the live session that the request names. -/
theorem stageGate_ok {session : EngagementSession}
    (passed : stageGate settings time request stage = .ok (.ok session)) :
    stage.getSession request.sessionId = some session ∧ session.status.isLive = true := by
  rw [stageGate] at passed
  cases found : stage.getSession request.sessionId with
  | none => simp [found] at passed
  | some other =>
    cases live : other.status.isLive with
    | false => simp [found, live] at passed
    | true =>
      simp only [found, live, Bool.not_true, Bool.false_eq_true, ↓reduceIte] at passed
      split at passed
      · cases passed
      · split at passed
        · cases passed
        · split at passed
          · cases passed
          · cases passed
            exact ⟨rfl, live⟩

/-- A session is found under the name it is looked up by. -/
theorem getSession_sessionId {sessionId : String} {session : EngagementSession}
    (found : stage.getSession sessionId = some session) : session.sessionId = sessionId := by
  rw [Stage.getSession, Option.map_eq_some_iff] at found
  obtain ⟨row, _, same⟩ := found
  rw [← same]
  rfl

end Participation

section Finalize

variable (settings : Settings) (answer : BulkAnswer) (time : Rat) (sessionId : String)
  (stage : Stage)

/-- The attendance items of the log of a session. -/
def Stage.projection (stage : Stage) (sessionId : String) : List AttendanceItem :=
  (inWindowAttendees (stage.log sessionId)).map participationToAttendanceItem

/-- The preview of a session. -/
def stagePreview (session : EngagementSession) (stage : Stage) : CloseOutcome :=
  ⟨session.sessionId, session.gathering, (inWindowAttendees (stage.log session.sessionId)).length,
    0, 0, decide (session.status = .closed)⟩

/-- The outcome of a batch. -/
def stageOutcome (answer : BulkAnswer) (session : EngagementSession) (stage : Stage) :
    CloseOutcome :=
  ⟨session.sessionId, session.gathering, (stage.projection session.sessionId).length,
    (answer stage.submitted session.organization (stage.projection session.sessionId)
      ⟨session.branch⟩ (batchId session)).inserted,
    (answer stage.submitted session.organization (stage.projection session.sessionId)
      ⟨session.branch⟩ (batchId session)).deduplicated, true⟩

/-- A finalize goes on with a closing session only. -/
theorem validateStateTransition_closed (status : SessionStatus) :
    validateStateTransition status .closed =
      if status = .closing then .ok ()
      else .error (.engagement ("illegal engagement session transition: " ++ quoted status.text ++
        " → " ++ quoted SessionStatus.closed.text)) := by
  cases status <;> rfl

/-- The test of the status. -/
theorem finalizeRead_run :
    (stageService settings answer time).finalizeRead sessionId stage =
      match stage.sessions sessionId with
      | none =>
        .error (.engagement ("unknown engagement session: " ++ quoted sessionId)) stage
      | some row =>
        if row.status = .closed then
          .ok (.error (stagePreview (sessionFromRow sessionId row) stage)) stage
        else match validateStateTransition row.status .closed with
        | .error raised => .error raised stage
        | .ok _ => .ok (.ok (sessionFromRow sessionId row)) stage := by
  have required : requireSession (stageService settings answer time).gateway.toSessionStore
      sessionId stage = _ := requireSession_run time sessionId stage
  rw [EngagementService.finalizeRead]
  cases found : stage.sessions sessionId with
  | none =>
    rw [found] at required
    exact Exec.bind_run_error required _
  | some row =>
    rw [found] at required
    rw [Exec.bind_run_ok required]
    have same : (sessionFromRow sessionId row).status = row.status := rfl
    by_cases finished : row.status = .closed
    · simp only [if_pos (same.trans finished), if_pos finished]
      rfl
    · simp only [if_neg finished, same]
      cases validateStateTransition row.status .closed <;> rfl

/-- The batch of a session. -/
theorem finalizeSubmit_run :
    (stageService settings answer time).finalizeSubmit sessionId stage =
      match stage.sessions sessionId with
      | none =>
        .error (.engagement ("unknown engagement session: " ++ quoted sessionId)) stage
      | some row =>
        .ok (sessionFromRow sessionId row, stageOutcome answer (sessionFromRow sessionId row) stage)
          (stage.handed (stage.projection sessionId)) := by
  have required : requireSession (stageService settings answer time).gateway.toSessionStore
      sessionId stage = _ := requireSession_run time sessionId stage
  rw [EngagementService.finalizeSubmit]
  cases found : stage.sessions sessionId with
  | none =>
    rw [found] at required
    exact Exec.bind_run_error required _
  | some row =>
    rw [found] at required
    rw [Exec.bind_run_ok required]
    rfl

end Finalize

end FlockOs.EngagementStage
