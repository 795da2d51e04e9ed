import FlockOs.EngagementLifecycle
import FlockOs.Verif.StageStep

/-!
# One call of the engagement API

What each endpoint does to the row of one session: the calls of the lifecycle move its status
along the transitions, and no call stamps a bound of its window.
-/

namespace FlockOs.EngagementApi

open Lib Reporting Engagement EngagementStage Permissions

section Rows

variable {settings : Settings} {answer : BulkAnswer} {caller : Caller} {time : Rat}
  {sessionId : String} {stage : Stage} {row : SessionRow}

/-- The row in another status. -/
def moved (row : SessionRow) (status : SessionStatus) : SessionRow :=
  row.withStatus status none

/-- Without a time no bound is stamped. -/
theorem moved_eq (row : SessionRow) (status : SessionStatus) :
    moved row status = { row with status := status } := by
  rw [moved, SessionRow.withStatus]
  simp only [Option.none_or, ite_self]

@[simp] theorem moved_status (row : SessionRow) (status : SessionStatus) :
    (moved row status).status = status := rfl

@[simp] theorem moved_openAt (row : SessionRow) (status : SessionStatus) :
    (moved row status).openAt = row.openAt := by
  rw [moved_eq]

@[simp] theorem moved_closeAt (row : SessionRow) (status : SessionStatus) :
    (moved row status).closeAt = row.closeAt := by
  rw [moved_eq]

/-- A row moved to its own status stays as it is. -/
theorem moved_self (row : SessionRow) : moved row row.status = row := by
  rw [moved_eq]

/-- A row moved twice is where the last move leaves it. -/
theorem moved_moved (row : SessionRow) (first second : SessionStatus) :
    moved (moved row first) second = moved row second := by
  rw [moved_eq, moved_eq, moved_eq]

/-- The row of a session after its status was set. -/
theorem setSessionStatus_found (found : stage.sessions sessionId = some row)
    (status : SessionStatus) :
    (stage.setSessionStatus sessionId status none).sessions sessionId =
      some (moved row status) := by
  rw [setSessionStatus_sessions_self, found]
  rfl

/-- A legal transition of a session goes on with its new row, an illegal one raises. -/
theorem transition_run {α : Type} (found : stage.sessions sessionId = some row)
    (status : SessionStatus) (rest : EngagementSession → Exec Error Stage α) :
    (Exec.ofExcept (validateStateTransition row.status status) >>= fun _ =>
      (stageGateway time).setSessionStatus sessionId status none >>= fun _ =>
        requireSession (stageGateway time).toSessionStore sessionId >>= rest) stage =
      match validateStateTransition row.status status with
      | .error raised => .error raised stage
      | .ok _ => rest (sessionFromRow sessionId (moved row status))
          (stage.setSessionStatus sessionId status none) := by
  cases validateStateTransition row.status status with
  | error raised => rfl
  | ok _ =>
    have legally : (Exec.ofExcept (.ok ()) : Exec Error Stage Unit) stage = .ok () stage := rfl
    have written : (stageGateway time).setSessionStatus sessionId status none stage =
        .ok ⟨⟩ (stage.setSessionStatus sessionId status none) := rfl
    have again := EngagementStage.requireSession_run time sessionId (stage.setSessionStatus sessionId status none)
    rw [setSessionStatus_found found] at again
    rw [Exec.bind_run_ok legally, Exec.bind_run_ok written, Exec.bind_run_ok again]

/-- The session that a call on a known session finds. -/
theorem requireSession_found (found : stage.sessions sessionId = some row) :
    requireSession (getService settings answer caller).gateway.toSessionStore sessionId stage =
      .ok (sessionFromRow sessionId row) stage := by
  have required := EngagementStage.requireSession_run caller.time sessionId stage
  rw [found] at required
  exact required

variable (settings answer caller) in
/-- `open_session` of the service. -/
theorem serviceOpen_run (found : stage.sessions sessionId = some row) :
    (getService settings answer caller).openSession sessionId none stage =
      match validateStateTransition row.status .open with
      | .error raised => .error raised stage
      | .ok _ => .ok (sessionFromRow sessionId (moved row .open))
          ((stage.setSessionStatus sessionId .open none).publish
            (openedEvent (sessionFromRow sessionId (moved row .open)))) := by
  refine (Exec.bind_run_ok (requireSession_found found) _).trans ?_
  exact transition_run found .open _

variable (settings answer caller) in
/-- `close_session` of the service: the finalize is to run after the grace of the service. -/
theorem serviceClose_run (found : stage.sessions sessionId = some row) :
    (getService settings answer caller).closeSession sessionId none stage =
      match validateStateTransition row.status .closing with
      | .error raised => .error raised stage
      | .ok _ => .ok (stagePreview (sessionFromRow sessionId (moved row .closing)) stage)
          ((stage.setSessionStatus sessionId .closing none).enqueue sessionId
            (caller.time + settings.graceSeconds)) := by
  refine (Exec.bind_run_ok (requireSession_found found) _).trans ?_
  exact transition_run found .closing _

variable (settings answer caller) in
/-- `finalize_close` of the service. -/
theorem serviceFinalize_run (found : stage.sessions sessionId = some row) :
    (getService settings answer caller).finalizeClose sessionId stage =
      if row.status = .closed then
        .ok (stagePreview (sessionFromRow sessionId row) stage) stage
      else match validateStateTransition row.status .closed with
      | .error raised => .error raised stage
      | .ok _ => .ok (stageOutcome answer (sessionFromRow sessionId (moved row .closed)) stage)
          (((stage.setSessionStatus sessionId .closed none).handed
            (stage.projection sessionId)).publish
              (closedEvent (sessionFromRow sessionId (moved row .closed))
                (stage.projection sessionId).length)) := by
  refine (Exec.bind_run_ok (requireSession_found found) _).trans ?_
  have same : (sessionFromRow sessionId row).status = row.status := rfl
  by_cases finished : row.status = .closed
  · simp only [if_pos (same.trans finished), if_pos finished]
    rfl
  · simp only [if_neg finished, same]
    exact transition_run found .closed _

variable (settings answer caller) in
/-- The verdict on the facilitator. -/
theorem assertFacilitator_run (found : stage.sessions sessionId = some row) :
    assertFacilitator settings answer caller sessionId stage =
      match facilitatorVerdict caller row.branch row.facilitator with
      | .error raised => .error raised stage
      | .ok _ => .ok () stage := by
  have asked : (ofStage fun stage => (stage.sessions sessionId).bind (·.facilitator)) stage =
      .ok ((stage.sessions sessionId).bind (·.facilitator)) stage := rfl
  rw [found] at asked
  rw [assertFacilitator, Exec.bind_run_ok (requireSession_found found), Exec.bind_run_ok asked]
  have anchors : facilitatorVerdict caller (sessionFromRow sessionId row).branch
      ((some row).bind (·.facilitator)) = facilitatorVerdict caller row.branch row.facilitator :=
    rfl
  rw [anchors]
  cases facilitatorVerdict caller row.branch row.facilitator <;> rfl

/-- What returned is returned. -/
theorem thrown_run_ok {α : Type} {body : Exec Error Stage α} {value : α} {next : Stage}
    (returned : body stage = .ok value next) : thrown body stage = .ok value next :=
  Exec.tryCatch_run_ok returned

/-- An error is raised in the state it was raised in, as one error or another. -/
theorem thrown_run_error {α : Type} {body : Exec Error Stage α} {raised : Error} {next : Stage}
    (failed : body stage = .error raised next) :
    ∃ again, thrown body stage = .error again next := by
  rw [thrown, Exec.tryCatch_run_error failed]
  cases raised <;> exact ⟨_, rfl⟩

/-- An outcome is the result of the attempt. -/
theorem attempted_run_ok {body : Exec Error Stage CloseOutcome} {outcome : CloseOutcome}
    {next : Stage} (returned : body stage = .ok outcome next) :
    attempted body stage = .ok (.ok outcome) next :=
  Exec.tryCatch_run_ok (Exec.bind_run_ok returned _)

/-- An error of the service is the result of the attempt. -/
theorem attempted_run_error {body : Exec Error Stage CloseOutcome} {message : String}
    {next : Stage} (failed : body stage = .error (.engagement message) next) :
    attempted body stage = .ok (.error message) next :=
  Exec.tryCatch_run_error (Exec.bind_run_error failed _)

/-- An endpoint raised and did nothing, or it returned after a legal transition. -/
inductive Transits {α : Type} (sessionId : String) (row : SessionRow) (status : SessionStatus)
    (stage : Stage) (endpoint : Exec Error Stage α) : Prop
  /-- It raised. -/
  | refused (raised : endpoint.raises stage = true) (idle : endpoint.after stage = stage)
  /-- It returned. -/
  | taken (returned : endpoint.raises stage = false)
      (legal : status ∈ validTransitions row.status)
      (left : (endpoint.after stage).sessions sessionId = some (moved row status))

/-- A call of the service behind the guard and before the write of the document. -/
def guardedEndpoint {α β : Type} (settings : Settings) (answer : BulkAnswer) (caller : Caller)
    (sessionId : String) (status : SessionStatus) (service : Exec Error Stage α) (reply : α → β) :
    Exec Error Stage β := do
  assertFacilitator settings answer caller sessionId
  let outcome ← thrown service
  updateSessionDoc sessionId status
  pure (reply outcome)

/-- Behind the guard an endpoint transits as the service does. -/
theorem guardedEndpoint_transits {α β : Type} {status : SessionStatus}
    {service : Exec Error Stage α} (reply : α → β)
    (found : stage.sessions sessionId = some row)
    (served : Transits sessionId row status stage service) :
    Transits sessionId row status stage
      (guardedEndpoint settings answer caller sessionId status service reply) := by
  have asserted := assertFacilitator_run settings answer caller found
  rw [guardedEndpoint]
  cases verdict : facilitatorVerdict caller row.branch row.facilitator with
  | error raised =>
    rw [verdict] at asserted
    refine .refused ?_ (Exec.after_bind_error asserted _)
    rw [Exec.raises, Exec.bind_run_error asserted]
  | ok _ =>
    rw [verdict] at asserted
    cases outcome : service stage with
    | error raised next =>
      have idle : next = stage := by
        cases served with
        | refused _ idle => rwa [Exec.after, outcome] at idle
        | taken returned _ _ =>
          rw [Exec.raises, outcome] at returned
          cases returned
      obtain ⟨again, failed⟩ := thrown_run_error outcome
      refine .refused ?_ ?_
      · rw [Exec.raises, Exec.bind_run_ok asserted, Exec.bind_run_error failed]
      · rw [Exec.after_bind_ok asserted, Exec.after_bind_error failed, idle]
    | ok value next =>
      cases served with
      | refused raised _ =>
        rw [Exec.raises, outcome] at raised
        cases raised
      | taken _ legal left =>
        rw [Exec.after, outcome] at left
        have returned := thrown_run_ok outcome
        refine .taken ?_ legal ?_
        · rw [Exec.raises, Exec.bind_run_ok asserted, Exec.bind_run_ok returned]
          rfl
        · rw [Exec.after_bind_ok asserted, Exec.after_bind_ok returned]
          show (next.setSessionStatus sessionId status none).sessions sessionId = _
          rw [setSessionStatus_found left, moved_moved]

/-- The test of a transition passes for the legal ones. -/
theorem validateStateTransition_ok {fromStatus toStatus : SessionStatus} {passed : Unit}
    (valid : validateStateTransition fromStatus toStatus = .ok passed) :
    toStatus ∈ validTransitions fromStatus := by
  rw [validateStateTransition] at valid
  split at valid
  · assumption
  · cases valid

/-- `open_session` on a known session. -/
theorem openSession_transits (found : stage.sessions sessionId = some row) :
    Transits sessionId row .open stage (openSession settings answer caller sessionId) := by
  refine guardedEndpoint_transits (fun _ => (⟨sessionId, .open⟩ : StatusReply)) found ?_
  have served := serviceOpen_run settings answer caller found
  cases valid : validateStateTransition row.status .open with
  | error raised =>
    rw [valid] at served
    exact .refused (by rw [Exec.raises, served]) (by rw [Exec.after, served])
  | ok _ =>
    rw [valid] at served
    refine .taken (by rw [Exec.raises, served]) (validateStateTransition_ok valid) ?_
    rw [Exec.after, served]
    exact setSessionStatus_found found .open

/-- `close_session` on a known session. -/
theorem closeSession_transits (found : stage.sessions sessionId = some row) :
    Transits sessionId row .closing stage (closeSession settings answer caller sessionId) := by
  refine guardedEndpoint_transits (fun outcome => closeReply sessionId .closing outcome) found ?_
  have served := serviceClose_run settings answer caller found
  cases valid : validateStateTransition row.status .closing with
  | error raised =>
    rw [valid] at served
    exact .refused (by rw [Exec.raises, served]) (by rw [Exec.after, served])
  | ok _ =>
    rw [valid] at served
    refine .taken (by rw [Exec.raises, served]) (validateStateTransition_ok valid) ?_
    rw [Exec.after, served]
    exact setSessionStatus_found found .closing

variable (settings answer caller) in
/-- `finalize_close` on a known session: only a closing one moves. -/
theorem finalizeClose_row (found : stage.sessions sessionId = some row) :
    ((finalizeClose settings answer caller sessionId).after stage).sessions sessionId =
      some (moved row (if row.status = .closing then .closed else row.status)) := by
  have served := serviceFinalize_run settings answer caller
    found
  rw [finalizeClose]
  by_cases finished : row.status = .closed
  · rw [if_pos finished] at served
    have finalized : (stagePreview (sessionFromRow sessionId row) stage).finalized = true :=
      decide_eq_true finished
    rw [Exec.after_bind_ok (attempted_run_ok served)]
    dsimp only
    rw [finalizeReply, finalized]
    show (stage.setSessionStatus sessionId .closed none).sessions sessionId = _
    rw [setSessionStatus_found found, if_neg (by rw [finished]; nofun), finished]
  · rw [if_neg finished, validateStateTransition_closed] at served
    by_cases closing : row.status = .closing
    · rw [if_pos closing] at served
      rw [Exec.after_bind_ok (attempted_run_ok served), if_pos closing]
      have once := setSessionStatus_found found .closed
      exact (setSessionStatus_found once .closed).trans (congrArg some (moved_moved ..))
    · rw [if_neg closing] at served
      rw [Exec.after_bind_ok (attempted_run_error served), if_neg closing, moved_self]
      exact found

/-- The row of a session. -/
def RowIs (sessionId : String) (row : SessionRow) (stage : Stage) : Prop :=
  stage.sessions sessionId = some row

/-- A look at a session changes nothing. -/
theorem requireSession_after (other : String) (stage : Stage) :
    (requireSession (getService settings answer caller).gateway.toSessionStore other).after stage =
      stage := by
  have required : requireSession (getService settings answer caller).gateway.toSessionStore other
      stage = _ := EngagementStage.requireSession_run caller.time other stage
  rw [Exec.after, required]
  cases stage.sessions other <;> rfl

/-- What an endpoint writes about one session leaves a property alone. -/
structure Spares (settings : Settings) (answer : BulkAnswer) (caller : Caller)
    (holds : Stage → Prop) (other : String) : Prop where
  /-- The status of the session. -/
  status : ∀ stage status, holds stage → holds (stage.setSessionStatus other status none)
  /-- An event. -/
  published : ∀ event, Exec.Keeps holds ((getService settings answer caller).emitEvent event)
  /-- The job that finalizes the session. -/
  enqueued : Exec.Keeps holds ((getService settings answer caller).gateway.scheduleFinalizeClose
    other (getService settings answer caller).graceSeconds)
  /-- The attendance that is handed on. -/
  recorded : ∀ closed, Exec.Keeps holds
    (projectAndRecordAttendance (getService settings answer caller).gateway.toSessionStore
      (getService settings answer caller).bulkService closed)

/-- The session whose status a call may set. -/
def ApiCall.target : ApiCall → Option String
  | .openSession other | .closeSession other | .finalizeClose other => some other
  | _ => none

section Kept

variable {holds : Stage → Prop} {other : String}

/-- A look at a session keeps everything. -/
theorem requireSession_keeps (other : String) :
    Exec.Keeps holds
      (requireSession (getService settings answer caller).gateway.toSessionStore other) :=
  .of_unchanged (requireSession_after other)

/-- A transition keeps what its write leaves alone. -/
theorem transition_keeps {α : Type} (spares : Spares settings answer caller holds other)
    (fromStatus toStatus : SessionStatus) {rest : EngagementSession → Exec Error Stage α}
    (keepsRest : ∀ session, Exec.Keeps holds (rest session)) :
    Exec.Keeps holds
      (Exec.ofExcept (validateStateTransition fromStatus toStatus) >>= fun _ =>
        (getService settings answer caller).gateway.setSessionStatus other toStatus none >>=
          fun _ => requireSession (getService settings answer caller).gateway.toSessionStore
            other >>= rest) := by
  refine (Exec.Keeps.ofExcept _).bind fun _ => ?_
  refine Exec.Keeps.bind (.modify fun stage held => spares.status stage toStatus held) fun _ => ?_
  exact (requireSession_keeps other).bind keepsRest

/-- The handler of the endpoints keeps what the service keeps. -/
theorem thrown_keeps {α : Type} {body : Exec Error Stage α} (keeps : Exec.Keeps holds body) :
    Exec.Keeps holds (thrown body) :=
  keeps.tryCatch fun raised => by
    cases raised <;> exact .throw _

/-- Behind the guard an endpoint keeps what the service and the write to the document keep. -/
theorem guardedEndpoint_keeps {α β : Type} (spares : Spares settings answer caller holds other)
    (status : SessionStatus) {service : Exec Error Stage α} (reply : α → β)
    (keeps : Exec.Keeps holds service) :
    Exec.Keeps holds (guardedEndpoint settings answer caller other status service reply) := by
  have asserted : Exec.Keeps holds (assertFacilitator settings answer caller other) := by
    refine (requireSession_keeps other).bind fun _ => ?_
    exact Exec.Keeps.bind (.of_unchanged fun _ => rfl) fun _ => .ofExcept _
  refine asserted.bind fun _ => (thrown_keeps keeps).bind fun _ => ?_
  exact Exec.Keeps.bind (.modify fun stage held => spares.status stage status held)
    fun _ => .pure _

/-- `open_session`. -/
theorem openSession_keeps (spares : Spares settings answer caller holds other) :
    Exec.Keeps holds (openSession settings answer caller other) := by
  refine guardedEndpoint_keeps spares .open (fun _ => (⟨other, .open⟩ : StatusReply)) ?_
  refine (requireSession_keeps other).bind fun session => ?_
  refine transition_keeps spares session.status .open fun opened => ?_
  exact (spares.published (openedEvent opened)).bind fun _ => .pure _

/-- `close_session`. -/
theorem closeSession_keeps (spares : Spares settings answer caller holds other) :
    Exec.Keeps holds (closeSession settings answer caller other) := by
  refine guardedEndpoint_keeps spares .closing
    (fun outcome => closeReply other .closing outcome) ?_
  refine (requireSession_keeps other).bind fun session => ?_
  refine transition_keeps spares session.status .closing fun closing => ?_
  exact spares.enqueued.bind fun _ => .of_unchanged fun _ => rfl

/-- `finalize_close` of the service. -/
theorem serviceFinalize_keeps (spares : Spares settings answer caller holds other) :
    Exec.Keeps holds ((getService settings answer caller).finalizeClose other) := by
  refine (requireSession_keeps other).bind fun session => .ite (.of_unchanged fun _ => rfl) ?_
  refine transition_keeps spares session.status .closed fun closed => ?_
  exact (spares.recorded closed).bind fun _ => (spares.published _).bind fun _ => .pure _

/-- `finalize_close`. -/
theorem finalizeClose_keeps (spares : Spares settings answer caller holds other) :
    Exec.Keeps holds (finalizeClose settings answer caller other) := by
  have attempt : Exec.Keeps holds
      (attempted ((getService settings answer caller).finalizeClose other)) := by
    refine Exec.Keeps.tryCatch ((serviceFinalize_keeps spares).bind fun _ => .pure _) ?_
    intro raised
    cases raised
    case engagement message => exact .pure _
    all_goals exact .throw _
  refine attempt.bind fun result => ?_
  cases result with
  | error message => exact .pure _
  | ok outcome =>
    show Exec.Keeps _ (finalizeReply other outcome)
    rw [finalizeReply]
    split
    · exact Exec.Keeps.bind (.modify fun stage held => spares.status stage .closed held)
        fun _ => .pure _
    · exact .pure _

/-- `create_session` keeps what a new row leaves alone. -/
theorem createSession_keeps
    (inserted : ∀ stage drawn row, holds stage → holds (insertSession stage drawn row))
    (payload : CreatePayload) (drawn : String) (inserts : Bool) :
    Exec.Keeps holds (createSession settings answer caller payload drawn inserts) := by
  rw [createSession]
  split
  · exact .throw _
  · split
    · refine (Exec.Keeps.ofExcept _).bind fun _ =>
        (thrown_keeps (.of_unchanged fun _ => rfl)).bind fun _ =>
          Exec.Keeps.bind (.modify fun stage held => ?_) fun _ => .pure _
      split
      · exact inserted stage drawn _ held
      · exact held
    · exact .throw _

/-- `session_state` changes nothing. -/
theorem sessionState_keeps (other : String) :
    Exec.Keeps holds (sessionState settings answer caller other) := by
  refine (requireSession_keeps other).bind fun _ => ?_
  exact Exec.Keeps.bind (.of_unchanged fun _ => rfl) fun _ => .pure _

/-- The guard and the ticket of a join change nothing. -/
theorem joinSession_keeps (other : String) (memberId deviceFingerprint : Option String) :
    Exec.Keeps holds (joinSession settings answer caller other memberId deviceFingerprint) := by
  have joined : Exec.Keeps holds
      ((getService settings answer caller).join caller.time other memberId
        ((truthy deviceFingerprint).getD "")) := by
    refine (requireSession_keeps other).bind fun session => .ite (.throw _) ?_
    exact Exec.Keeps.bind (.of_unchanged fun _ => rfl) fun _ => .ofExcept _
  have state : Exec.Keeps holds (sessionState settings answer caller other) :=
    sessionState_keeps other
  rw [joinSession]
  split
  · exact (Exec.Keeps.throw _).bind fun _ => (thrown_keeps joined).bind fun _ =>
      state.bind fun _ => .pure _
  · exact (thrown_keeps joined).bind fun _ => state.bind fun _ => .pure _

/-- A call keeps what its writes, a new row and a participation leave alone. -/
theorem runCall_keeps {call : ApiCall}
    (spares : ∀ other, call.target = some other → Spares settings answer caller holds other)
    (inserted : ∀ stage drawn row, holds stage → holds (insertSession stage drawn row))
    (participated : ∀ request, Exec.Keeps holds
      ((getService settings answer caller).participate caller.time request)) :
    Exec.Keeps holds (runCall settings answer caller call) := by
  cases call with
  | createSession payload drawn inserts =>
    exact (createSession_keeps inserted payload drawn inserts).bind fun _ => .pure _
  | openSession other => exact (openSession_keeps (spares other rfl)).bind fun _ => .pure _
  | closeSession other => exact (closeSession_keeps (spares other rfl)).bind fun _ => .pure _
  | finalizeClose other => exact (finalizeClose_keeps (spares other rfl)).bind fun _ => .pure _
  | joinSession other memberId deviceFingerprint =>
    exact (joinSession_keeps other memberId deviceFingerprint).bind fun _ => .pure _
  | participate payload =>
    refine Exec.Keeps.bind ?_ fun _ => .pure _
    exact (Exec.Keeps.ofExcept _).bind participated
  | bulkAttendance other items =>
    refine Exec.Keeps.bind ?_ fun _ => .pure _
    refine (Exec.Keeps.ofExcept _).bind fun requests => Exec.Keeps.bind ?_ fun _ => .pure _
    exact .mapM participated requests
  | sessionState other => exact (sessionState_keeps other).bind fun _ => .pure _

end Kept

/-- What is written about another session leaves the row alone. -/
theorem rowIs_spares {other : String} (different : sessionId ≠ other) :
    Spares settings answer caller (RowIs sessionId row) other where
  status stage status held := by
    show (stage.setSessionStatus other status none).sessions sessionId = some row
    rw [setSessionStatus_sessions_of_ne stage status none different]
    exact held
  published _ _ held := held
  enqueued _ held := held
  recorded _ _ held := held

/-- A name that is taken stays with its row. -/
theorem insertSession_found (found : stage.sessions sessionId = some row) {drawn : String}
    (other : SessionRow) : (insertSession stage drawn other).sessions sessionId = some row := by
  show Function.update stage.sessions drawn ((stage.sessions drawn).or (some other)) sessionId = _
  by_cases same : sessionId = drawn
  · rw [← same, Function.update_self, found]
    rfl
  · rw [Function.update_of_ne same]
    exact found

/-- A participation keeps the row. -/
theorem participate_keeps (request : ParticipateRequest) :
    Exec.Keeps (RowIs sessionId row)
      ((getService settings answer caller).participate caller.time request) := by
  intro stage held
  have same := participate_sessions settings answer caller.time request stage
  show (((stageService settings answer caller.time).participate caller.time request).after
    stage).sessions sessionId = some row
  rw [same]
  exact held

/-- How a call moves the status of a session, where the call raises or returns. -/
inductive Shifted (sessionId : String) (before : SessionStatus) :
    ApiCall → Bool → SessionStatus → Prop
  /-- The status stays. -/
  | stays (call : ApiCall) (raised : Bool) (noOpen : call = .openSession sessionId → raised = true)
      (noClose : call = .closeSession sessionId → raised = true)
      (noFinalize : call = .finalizeClose sessionId → before ≠ .closing) :
      Shifted sessionId before call raised before
  /-- The session is opened. -/
  | opens (legal : .open ∈ validTransitions before) :
      Shifted sessionId before (.openSession sessionId) false .open
  /-- The session is closing. -/
  | closes (legal : .closing ∈ validTransitions before) :
      Shifted sessionId before (.closeSession sessionId) false .closing
  /-- The session is closed. -/
  | finalizes (raised : Bool) (closing : before = .closing) :
      Shifted sessionId before (.finalizeClose sessionId) raised .closed

/-- A call leaves the row of a session in the status that it shifts it to. -/
def ShiftsRow (settings : Settings) (answer : BulkAnswer) (caller : Caller) (sessionId : String)
    (row : SessionRow) (stage : Stage) (call : ApiCall) : Prop :=
  ∃ status,
    ((runCall settings answer caller call).after stage).sessions sessionId =
      some (moved row status) ∧
    Shifted sessionId row.status call ((runCall settings answer caller call).raises stage) status

/-- A call that keeps the row and is no call of the lifecycle on the session. -/
theorem ShiftsRow.of_keeps {call : ApiCall} (found : stage.sessions sessionId = some row)
    (keeps : Exec.Keeps (RowIs sessionId row) (runCall settings answer caller call))
    (noOpen : call ≠ .openSession sessionId) (noClose : call ≠ .closeSession sessionId)
    (noFinalize : call ≠ .finalizeClose sessionId) :
    ShiftsRow settings answer caller sessionId row stage call := by
  refine ⟨row.status, ?_, .stays call _ (absurd · noOpen) (absurd · noClose) (absurd · noFinalize)⟩
  rw [moved_self]
  exact keeps stage found

/-- An endpoint that transits shifts the status, or raises and leaves it. -/
theorem Transits.shiftsRow {α : Type} {call : ApiCall} {status : SessionStatus}
    {endpoint : Exec Error Stage α} (found : stage.sessions sessionId = some row)
    (transits : Transits sessionId row status stage endpoint)
    (same : runCall settings answer caller call = endpoint >>= fun _ => pure ())
    (noFinalize : call ≠ .finalizeClose sessionId)
    (shifts : status ∈ validTransitions row.status →
      Shifted sessionId row.status call false status) :
    ShiftsRow settings answer caller sessionId row stage call := by
  rw [ShiftsRow, same, Exec.after_bind_pure, Exec.raises_bind_pure]
  cases transits with
  | refused raised idle =>
    refine ⟨row.status, ?_, .stays call _ (fun _ => raised) (fun _ => raised)
      (absurd · noFinalize)⟩
    rw [idle, moved_self]
    exact found
  | taken returned legal left =>
    rw [returned]
    exact ⟨status, left, shifts legal⟩

variable (settings answer caller) in
/-- What a call does to the row of a session. -/
theorem runCall_row (call : ApiCall) (found : stage.sessions sessionId = some row) :
    ShiftsRow settings answer caller sessionId row stage call := by
  by_cases own : call.target = some sessionId
  · cases call with
    | openSession other =>
      cases own
      exact (openSession_transits found).shiftsRow found rfl nofun .opens
    | closeSession other =>
      cases own
      exact (closeSession_transits found).shiftsRow found rfl nofun .closes
    | finalizeClose other =>
      cases own
      have left := finalizeClose_row settings answer caller found
      rw [← Exec.after_bind_pure _ fun _ => ()] at left
      by_cases closing : row.status = .closing
      · rw [if_pos closing] at left
        exact ⟨.closed, left, .finalizes _ closing⟩
      · rw [if_neg closing] at left
        exact ⟨row.status, left, .stays _ _ nofun nofun fun _ => closing⟩
    | _ => cases own
  · have keeps : Exec.Keeps (RowIs sessionId row) (runCall settings answer caller call) := by
      refine runCall_keeps (fun other same => rowIs_spares fun equal => own (equal ▸ same))
        (fun stage drawn other held => insertSession_found held other) participate_keeps
    exact .of_keeps found keeps (fun same => own (same ▸ rfl)) (fun same => own (same ▸ rfl))
      fun same => own (same ▸ rfl)

end Rows

end FlockOs.EngagementApi
