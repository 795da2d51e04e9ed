import FlockOs.Lib.Runs
import FlockOs.Verif.EngagementStep

/-!
# Calls on one engagement session

Players and hosts call the service over the in-memory gateway, with a bulk service behind it
that does not raise. A lifecycle call takes the session through one transition or raises; a
participation adds to the log what it answers as accepted.
-/

namespace FlockOs.Engagement

open Lib Reporting

/-- The runtime with a batch handed to the bulk service. -/
def Runtime.handed (runtime : Runtime) (items : List AttendanceItem) : Runtime :=
  { runtime with submitted := runtime.submitted ++ [items] }

/-- The runtime with an event published. -/
def Runtime.publish (runtime : Runtime) (event : DomainEvent) : Runtime :=
  { runtime with publishedEvents := runtime.publishedEvents ++ [event] }

/-- A bulk service that does not raise, with the batch noted. -/
def steadyBulkService (answer : BulkAnswer) (organization : String) (items : List AttendanceItem)
    (scope : AttendanceScope) (batchId : String) : Exec Error Runtime BulkBatchOutcome := do
  let runtime ← get
  set (runtime.handed items)
  pure (answer runtime.submitted organization items scope batchId)

/-- The service over the in-memory gateway with such a bulk service behind it. -/
def steadyService (settings : Settings) (answer : BulkAnswer) (time : Rat) :
    EngagementService Runtime :=
  { memoryService settings time with bulkService := steadyBulkService answer }

/-- The calls on a session, each with the server's time. -/
inductive Play where
  | openSession (time : Rat) (sessionId : String) (now : Option Rat)
  | join (time : Rat) (sessionId : String) (memberId : Option String)
      (deviceFingerprint : String)
  | participate (time : Rat) (request : ParticipateRequest)
  | bulkParticipate (time : Rat) (requests : List ParticipateRequest)
  | closeSession (time : Rat) (sessionId : String) (now : Option Rat)
  | finalizeClose (time : Rat) (sessionId : String)

/-- The runtime with the history of a session. -/
structure PlayRun where
  /-- The runtime. -/
  runtime : Runtime
  /-- The states that the session has entered. -/
  entered : List SessionStatus := []
  /-- The requests that `participate` has answered, those inside `bulk_participate` included. -/
  answered : List (ParticipateRequest × ParticipationReceipt) := []
  /-- The outcomes that `finalize_close` has returned. -/
  finalized : List CloseOutcome := []

/-- The status of a session. -/
def Runtime.statusOf (runtime : Runtime) (sessionId : String) : Option SessionStatus :=
  (runtime.store.sessions sessionId).map (·.status)

/-- The state that the session has entered from one runtime to the next, if it has. -/
def enteredBy (sessionId : String) (before after : Runtime) : List SessionStatus :=
  if after.statusOf sessionId = before.statusOf sessionId then []
  else (after.statusOf sessionId).toList

/-- The answers to requests that are served one after the other, up to one that raises. -/
def answers (service : EngagementService Runtime) (time : Rat) :
    List ParticipateRequest → Runtime → List (ParticipateRequest × ParticipationReceipt)
  | [], _ => []
  | request :: rest, runtime =>
    match service.participate time request runtime with
    | .ok receipt next => (request, receipt) :: answers service time rest next
    | .error _ _ => []

/-- The outcome of a call that returned. -/
def returned {α : Type} : EStateM.Result Error Runtime α → List α
  | .ok outcome _ => [outcome]
  | .error _ _ => []

/-- The run after its runtime has changed. -/
def PlayRun.moved (run : PlayRun) (sessionId : String) (runtime : Runtime) : PlayRun :=
  { run with
    runtime := runtime
    entered := run.entered ++ enteredBy sessionId run.runtime runtime }

/-- The run with more answers. -/
def PlayRun.answering (run : PlayRun)
    (answered : List (ParticipateRequest × ParticipationReceipt)) : PlayRun :=
  { run with answered := run.answered ++ answered }

/-- The run with more outcomes. -/
def PlayRun.finalizing (run : PlayRun) (outcomes : List CloseOutcome) : PlayRun :=
  { run with finalized := run.finalized ++ outcomes }

/-- Perform a call. -/
def PlayRun.perform (settings : Settings) (answer : BulkAnswer) (sessionId : String)
    (run : PlayRun) : Play → PlayRun
  | .openSession time id now =>
    run.moved sessionId (((steadyService settings answer time).openSession id now).after
      run.runtime)
  | .join time id memberId deviceFingerprint =>
    run.moved sessionId (((steadyService settings answer time).join time id memberId
      deviceFingerprint).after run.runtime)
  | .participate time request =>
    (run.moved sessionId (((steadyService settings answer time).participate time request).after
      run.runtime)).answering (answers (steadyService settings answer time) time [request]
        run.runtime)
  | .bulkParticipate time requests =>
    (run.moved sessionId (((steadyService settings answer time).bulkParticipate time
      requests).after run.runtime)).answering (answers (steadyService settings answer time) time
        requests run.runtime)
  | .closeSession time id now =>
    run.moved sessionId (((steadyService settings answer time).closeSession id now).after
      run.runtime)
  | .finalizeClose time id =>
    (run.moved sessionId (((steadyService settings answer time).finalizeClose id).after
      run.runtime)).finalizing (returned ((steadyService settings answer time).finalizeClose id
        run.runtime))

/-- The request was accepted and is in the window. -/
def countsFor (answer : ParticipateRequest × ParticipationReceipt) : Bool :=
  answer.2.accepted && answer.2.statusFlags.any fun flags => !flags.outOfScope

/-- The attendance item of a request to a session. -/
def creditOf (session : EngagementSession) (request : ParticipateRequest) : AttendanceItem where
  event := session.gathering
  attendeeRef := (truthy request.memberId).getD request.attendeeKey
  branch := session.branch
  status := "Present"
  source := "engagement"
  clientReqId := some request.attendeeKey
  gathering := some session.gathering
  member := request.memberId
  engagementSession := some session.sessionId
  attendeeKey := some request.attendeeKey

/-- One item for each attendee key that has an accepted in-window participation, from the
earliest of them. -/
def credits (session : EngagementSession)
    (answered : List (ParticipateRequest × ParticipationReceipt)) : List AttendanceItem :=
  (firstPerKey (·.1.attendeeKey) (answered.filter countsFor)).map fun answer =>
    creditOf session answer.1

section Lifecycle

variable {settings : Settings} {answer : BulkAnswer} {time : Rat} {sessionId : String}
  {runtime : Runtime} {session : EngagementSession}

/-- The runtime after a transition of a session. -/
def Runtime.shifted (runtime : Runtime) (sessionId : String) (session : EngagementSession)
    (status : SessionStatus) (ts : Rat) : Runtime :=
  runtime.withStore (runtime.store.withSession sessionId (InMemory.stamped session status ts))

/-- A legal transition of a stored session goes on with the stamped session, an illegal one
raises. -/
theorem transition_run {α : Type} (found : runtime.store.sessions sessionId = some session)
    (time : Rat) (status : SessionStatus) (now : Option Rat)
    (rest : EngagementSession → Exec Error Runtime α) :
    (Exec.ofExcept (validateStateTransition session.status status) >>= fun _ =>
      (memoryGateway time).setSessionStatus sessionId status now >>= fun _ =>
        requireSession (memoryGateway time).toSessionStore sessionId >>= rest) runtime =
      match validateStateTransition session.status status with
      | .error raised => .error raised runtime
      | .ok _ => rest (InMemory.stamped session status (now.getD time))
          (runtime.shifted sessionId session status (now.getD time)) := by
  cases validateStateTransition session.status status with
  | error raised => rfl
  | ok _ =>
    have legally : (Exec.ofExcept (.ok ()) : Exec Error Runtime Unit) runtime = .ok () runtime :=
      rfl
    have moved := setSessionStatus_run time sessionId status now runtime
    rw [found] at moved
    have again := requireSession_run time sessionId
      (runtime.shifted sessionId session status (now.getD time))
    rw [Runtime.shifted, Runtime.withStore_store, InMemory.withSession_sessions_self] at again
    rw [Exec.bind_run_ok legally, Exec.bind_run_ok moved, Exec.bind_run_ok again]
    rfl

/-- An open publishes that the session is open. -/
theorem openSession_run (found : runtime.store.sessions sessionId = some session)
    (now : Option Rat) :
    (steadyService settings answer time).openSession sessionId now runtime =
      match validateStateTransition session.status .open with
      | .error raised => .error raised runtime
      | .ok _ => .ok (InMemory.stamped session .open (now.getD time))
          ((runtime.shifted sessionId session .open (now.getD time)).publish
            (openedEvent (InMemory.stamped session .open (now.getD time)))) := by
  have required := requireSession_run time sessionId runtime
  rw [found] at required
  refine (Exec.bind_run_ok required _).trans ?_
  exact transition_run found time .open now _

/-- The runtime with a finalize scheduled. -/
def Runtime.scheduled (runtime : Runtime) (sessionId : String) (graceSeconds : Int) : Runtime :=
  runtime.withStore { runtime.store with
    pendingFinalizes := runtime.store.pendingFinalizes ++ [(sessionId, graceSeconds)] }

/-- The preview of a session. -/
def previewOf (session : EngagementSession) (store : InMemory) : CloseOutcome :=
  ⟨session.sessionId, session.gathering,
    (inWindowAttendees (store.participations session.sessionId)).length, 0, 0,
    decide (session.status = .closed)⟩

/-- A close leaves the session closing, with the finalize scheduled. -/
theorem closeSession_run (found : runtime.store.sessions sessionId = some session)
    (now : Option Rat) :
    (steadyService settings answer time).closeSession sessionId now runtime =
      match validateStateTransition session.status .closing with
      | .error raised => .error raised runtime
      | .ok _ => .ok
          (previewOf (InMemory.stamped session .closing (now.getD time)) runtime.store)
          ((runtime.shifted sessionId session .closing (now.getD time)).scheduled sessionId
            settings.graceSeconds) := by
  have required := requireSession_run time sessionId runtime
  rw [found] at required
  refine (Exec.bind_run_ok required _).trans ?_
  exact transition_run found time .closing now _

/-- The outcome of a finalize that closes a session. -/
def closedOutcome (answer : BulkAnswer) (session : EngagementSession) (runtime : Runtime) :
    CloseOutcome :=
  ⟨session.sessionId, session.gathering, (projection runtime.store session.sessionId).length,
    (answer runtime.submitted session.organization
      (projection runtime.store session.sessionId) ⟨session.branch⟩ (batchId session)).inserted,
    (answer runtime.submitted session.organization
      (projection runtime.store session.sessionId) ⟨session.branch⟩ (batchId session)).deduplicated,
    true⟩

/-- A finalize of a closed session is a preview; one of a closing session hands the projection
to the bulk service and publishes that the session is closed. -/
theorem finalizeClose_run (found : runtime.store.sessions sessionId = some session) :
    (steadyService settings answer time).finalizeClose sessionId runtime =
      if session.status = .closed then .ok (previewOf session runtime.store) runtime
      else match validateStateTransition session.status .closed with
      | .error raised => .error raised runtime
      | .ok _ => .ok (closedOutcome answer (InMemory.stamped session .closed time) runtime)
          (((runtime.shifted sessionId session .closed time).handed
            (projection runtime.store session.sessionId)).publish
              (closedEvent (InMemory.stamped session .closed time)
                (projection runtime.store session.sessionId).length)) := by
  have required := requireSession_run time sessionId runtime
  rw [found] at required
  refine (Exec.bind_run_ok required _).trans ?_
  by_cases finished : session.status = .closed
  · simp only [if_pos finished]
    rfl
  · simp only [if_neg finished]
    exact transition_run found time .closed none _

/-- A call on a session that the store does not know raises and leaves the runtime alone. -/
theorem unknown_run {α : Type} (absent : runtime.store.sessions sessionId = none)
    (rest : EngagementSession → Exec Error Runtime α) :
    (requireSession (memoryGateway time).toSessionStore sessionId >>= rest) runtime =
      .error (.engagement ("unknown engagement session: " ++ quoted sessionId)) runtime := by
  have required := requireSession_run time sessionId runtime
  rw [absent] at required
  exact Exec.bind_run_error required _

end Lifecycle

/-- The session in another state of its lifecycle. -/
def EngagementSession.staged (session : EngagementSession) (status : SessionStatus)
    (openAt closeAt : Option Rat) : EngagementSession :=
  { session with
    status := status
    openAt := openAt
    closeAt := closeAt }

/-- The attendee key and the item of each in-window row of the log of a session. -/
def loggedCredits (store : InMemory) (sessionId : String) : List (String × AttendanceItem) :=
  ((store.participations sessionId).filter fun row => !row.statusFlags.outOfScope).map fun row =>
    (row.attendeeKey, participationToAttendanceItem row)

/-- The attendee key and the item of each accepted in-window request. -/
def answeredCredits (session : EngagementSession)
    (answered : List (ParticipateRequest × ParticipationReceipt)) :
    List (String × AttendanceItem) :=
  (answered.filter countsFor).map fun answer =>
    (answer.1.attendeeKey, creditOf session answer.1)

/-- Where the log holds what was accepted, the projection of the session is what it calls
for. -/
theorem projection_eq_credits {session : EngagementSession} {store : InMemory}
    {answered : List (ParticipateRequest × ParticipationReceipt)}
    (logged : loggedCredits store session.sessionId = answeredCredits session answered) :
    projection store session.sessionId = credits session answered := by
  have fromLog : projection store session.sessionId =
      (firstPerKey Prod.fst (loggedCredits store session.sessionId)).map Prod.snd := by
    rw [loggedCredits, firstPerKey_map, List.map_map]
    rfl
  have fromAnswers : credits session answered =
      (firstPerKey Prod.fst (answeredCredits session answered)).map Prod.snd := by
    rw [answeredCredits, firstPerKey_map, List.map_map]
    rfl
  rw [fromLog, fromAnswers, logged]

/-- Requests were served: the log has grown by what was accepted in the window, nothing else
has changed but the store, and a session that is not live has accepted nothing. -/
structure Served (session : EngagementSession) (live : Bool) (runtime next : Runtime)
    (answered : List (ParticipateRequest × ParticipationReceipt)) : Prop where
  /-- Nothing but the store. -/
  store : next = runtime.withStore next.store
  /-- The sessions stay. -/
  sessions : next.store.sessions = runtime.store.sessions
  /-- The log. -/
  logged : loggedCredits next.store session.sessionId =
    loggedCredits runtime.store session.sessionId ++ answeredCredits session answered
  /-- A session that is not live. -/
  dead : live = false → ∀ answer ∈ answered, answer.2.accepted = false

section Serving

variable {settings : Settings} {answer : BulkAnswer} {time : Rat} {session : EngagementSession}
  {live : Bool} {runtime next : Runtime}

/-- Nothing was served. -/
theorem Served.refl (session : EngagementSession) (live : Bool) (runtime : Runtime) :
    Served session live runtime runtime [] :=
  ⟨rfl, rfl, (List.append_nil _).symm, fun _ _ member => by cases member⟩

/-- Requests were served after others. -/
theorem Served.trans {last : Runtime}
    {first second : List (ParticipateRequest × ParticipationReceipt)}
    (before : Served session live runtime next first)
    (after : Served session live next last second) :
    Served session live runtime last (first ++ second) where
  store := by
    rw [after.store, before.store]
    rfl
  sessions := after.sessions.trans before.sessions
  logged := by
    rw [after.logged, before.logged, answeredCredits, answeredCredits, answeredCredits,
      List.filter_append, List.map_append, List.append_assoc]
  dead stopped answer member := by
    rcases List.mem_append.mp member with early | late
    · exact before.dead stopped answer early
    · exact after.dead stopped answer late

/-- An answer that is not an acceptance leaves the log as it was. -/
theorem Served.refused {store : InMemory} {request : ParticipateRequest}
    {receipt : ParticipationReceipt} (refused : receipt.accepted = false)
    (sessions : store.sessions = runtime.store.sessions)
    (participations : store.participations = runtime.store.participations) :
    Served session live runtime (runtime.withStore store) [(request, receipt)] where
  store := rfl
  sessions := sessions
  logged := by
    have none : answeredCredits session [(request, receipt)] = [] := by
      simp [answeredCredits, countsFor, refused]
    rw [none, List.append_nil, Runtime.withStore_store, loggedCredits, participations]
    rfl
  dead _ answer member := by
    rw [List.mem_singleton.mp member]
    exact refused

/-- A request past the gate of a live session is served. -/
theorem settle_served {openAt closeAt : Option Rat} {status : SessionStatus}
    (request : ParticipateRequest) (lively : live = true) :
    Served session live runtime
      (runtime.withStore (settle settings time (session.staged status openAt closeAt) request
        runtime.store).2)
      [(request, (settle settings time (session.staged status openAt closeAt) request
        runtime.store).1)] := by
  have sessions : (settle settings time (session.staged status openAt closeAt) request
      runtime.store).2.sessions = runtime.store.sessions := by
    rw [settle]
    split
    · rfl
    · split <;> rfl
  cases accepted : (settle settings time (session.staged status openAt closeAt) request
      runtime.store).1.accepted with
  | false => exact .refused accepted sessions (settle_refused accepted).participations
  | true =>
    refine ⟨rfl, sessions, ?_, fun stopped => ?_⟩
    · obtain ⟨free, fresh⟩ := settle_accepted.mp accepted
      have receipt : (settle settings time (session.staged status openAt closeAt) request
          runtime.store).1.statusFlags = some (flagsOf settings time
            (session.staged status openAt closeAt) request runtime.store) := by
        rw [settle]
        simp only [free, fresh, Bool.false_eq_true, ↓reduceIte]
        rfl
      rw [Runtime.withStore_store, settle_recorded accepted, loggedCredits,
        recorded_participations]
      have here : (session.staged status openAt closeAt).sessionId = session.sessionId := rfl
      rw [here, Function.update_self, List.filter_append, List.map_append]
      congr 1
      cases judged : (flagsOf settings time (session.staged status openAt closeAt) request
          runtime.store).outOfScope with
      | true =>
        have row : (rowOf settings time (session.staged status openAt closeAt) request
            runtime.store).statusFlags.outOfScope = true := judged
        simp [answeredCredits, countsFor, receipt, accepted, judged, row]
      | false =>
        have row : (rowOf settings time (session.staged status openAt closeAt) request
            runtime.store).statusFlags.outOfScope = false := judged
        simp only [answeredCredits, countsFor, receipt, accepted, judged, row, List.filter_cons,
          List.filter_nil, Option.any_some, Bool.not_false, Bool.and_true, ↓reduceIte,
          List.map_cons, List.map_nil]
        rfl
    · rw [lively] at stopped
      cases stopped

/-- A store that knows one session only, in a state of its lifecycle. -/
structure OnlySession (session : EngagementSession) (status : SessionStatus)
    (store : InMemory) : Prop where
  /-- The session. -/
  stored : ∃ openAt closeAt,
    store.sessions session.sessionId = some (session.staged status openAt closeAt)
  /-- No other. -/
  alone : ∀ other, other ≠ session.sessionId → store.sessions other = none

variable {status : SessionStatus}

/-- Serving keeps the sessions of the store. -/
theorem OnlySession.served {answered : List (ParticipateRequest × ParticipationReceipt)}
    (only : OnlySession session status runtime.store)
    (served : Served session live runtime next answered) :
    OnlySession session status next.store := by
  constructor
  · rw [served.sessions]
    exact only.stored
  · rw [served.sessions]
    exact only.alone

/-- A participation is served, or raises and leaves the runtime alone. -/
theorem participate_cases (settings : Settings) (answer : BulkAnswer) (time : Rat)
    (request : ParticipateRequest) (only : OnlySession session status runtime.store) :
    (∃ receipt next, (steadyService settings answer time).participate time request runtime =
        .ok receipt next ∧ Served session status.isLive runtime next [(request, receipt)]) ∨
      ∃ raised, (steadyService settings answer time).participate time request runtime =
        .error raised runtime := by
  have same : (steadyService settings answer time).participate time request runtime =
      (memoryService settings time).participate time request runtime := rfl
  rw [same, participate_run]
  cases passed : gate settings time request runtime.store with
  | error raised => exact .inr ⟨raised, rfl⟩
  | ok judged =>
    left
    cases judged with
    | error reason => exact ⟨_, _, rfl, .refused rfl rfl rfl⟩
    | ok admitting =>
      refine ⟨_, _, rfl, ?_⟩
      obtain ⟨openAt, closeAt, stored⟩ := only.stored
      rw [gate] at passed
      by_cases here : request.sessionId = session.sessionId
      · rw [here, stored] at passed
        dsimp only at passed
        cases live : (session.staged status openAt closeAt).status.isLive with
        | false =>
          rw [live] at passed
          cases passed
        | true =>
          have admitted : admitting = session.staged status openAt closeAt := by
            rw [live, Bool.not_true, if_neg Bool.false_ne_true] at passed
            split at passed
            · cases passed
            · split at passed
              · cases passed
              · split at passed
                · cases passed
                · exact (Except.ok.inj (Except.ok.inj passed)).symm
          rw [admitted]
          exact settle_served request live
      · rw [only.alone _ here] at passed
        cases passed

/-- One participation is served. -/
theorem participate_served (settings : Settings) (answer : BulkAnswer) (time : Rat)
    (request : ParticipateRequest) (only : OnlySession session status runtime.store) :
    Served session status.isLive runtime
      (((steadyService settings answer time).participate time request).after runtime)
      (answers (steadyService settings answer time) time [request] runtime) := by
  rcases participate_cases settings answer time request only with
    ⟨receipt, next, ran, served⟩ | ⟨raised, ran⟩
  · rw [Exec.after, answers, ran]
    exact served
  · rw [Exec.after, answers, ran]
    exact .refl session _ runtime

/-- A batch of participations is served up to the first one that raises. -/
theorem bulkParticipate_served (settings : Settings) (answer : BulkAnswer) (time : Rat) :
    ∀ (requests : List ParticipateRequest) {runtime : Runtime},
      OnlySession session status runtime.store →
      Served session status.isLive runtime
        (((steadyService settings answer time).bulkParticipate time requests).after runtime)
        (answers (steadyService settings answer time) time requests runtime)
  | [], runtime, _ => .refl session _ runtime
  | request :: rest, runtime, only => by
    have unfolded : (steadyService settings answer time).bulkParticipate time (request :: rest) =
        ((steadyService settings answer time).participate time request >>= fun receipt =>
          (steadyService settings answer time).bulkParticipate time rest >>= fun receipts =>
            pure (receipt :: receipts)) := List.mapM_cons
    rw [unfolded, answers]
    rcases participate_cases settings answer time request only with
      ⟨receipt, next, ran, served⟩ | ⟨raised, ran⟩
    · have later := bulkParticipate_served settings answer time rest (only.served served)
      rw [Exec.after_bind_ok ran, ran]
      have ended : ((steadyService settings answer time).bulkParticipate time rest >>=
          fun receipts => pure (receipt :: receipts)).after next =
          ((steadyService settings answer time).bulkParticipate time rest).after next := by
        cases outcome : (steadyService settings answer time).bulkParticipate time rest next with
        | ok receipts last =>
          rw [Exec.after_bind_ok outcome, Exec.after, Exec.after, outcome]
          rfl
        | error raised last => rw [Exec.after_bind_error outcome, Exec.after, outcome]
      rw [ended]
      exact served.trans later
    · rw [Exec.after_bind_error ran, ran]
      exact .refl session _ runtime

end Serving

end FlockOs.Engagement
