import FlockOs.EngagementMemory

/-!
# One call of the engagement runtime

What each call does over the in-memory gateways: a participation passes the gate of its
session and ticket and is then settled against the throttle and the nonces; a join issues a
ticket; the calls of the lifecycle leave the log and the secret alone.
-/

namespace FlockOs.Engagement

open Lib Reporting

@[simp] theorem InMemory.withSession_sessions_self (store : InMemory) (sessionId : String)
    (session : EngagementSession) :
    (store.withSession sessionId session).sessions sessionId = some session :=
  Function.update_self ..

/-- Other sessions stay as they are. -/
theorem InMemory.withSession_sessions_of_ne (store : InMemory) {sessionId other : String}
    (session : EngagementSession) (different : other ≠ sessionId) :
    (store.withSession sessionId session).sessions other = store.sessions other :=
  Function.update_of_ne different ..

@[simp] theorem ofStore_run {α : Type} (read : InMemory → α) (runtime : Runtime) :
    ofStore read runtime = .ok (read runtime.store) runtime := rfl

/-- The runtime with its store replaced. -/
def Runtime.withStore (runtime : Runtime) (store : InMemory) : Runtime :=
  { runtime with store := store }

@[simp] theorem Runtime.withStore_store (runtime : Runtime) (store : InMemory) :
    (runtime.withStore store).store = store := rfl

@[simp] theorem Runtime.withStore_withStore (runtime : Runtime) (store later : InMemory) :
    (runtime.withStore store).withStore later = runtime.withStore later := rfl

@[simp] theorem onStore_run {α : Type} (answer : InMemory → α × InMemory) (runtime : Runtime) :
    onStore answer runtime =
      .ok (answer runtime.store).1 (runtime.withStore (answer runtime.store).2) := rfl

/-- A transition stores the stamped session, or raises where there is none. -/
theorem setSessionStatus_run (time : Rat) (sessionId : String) (status : SessionStatus)
    (now : Option Rat) (runtime : Runtime) :
    (memoryGateway time).setSessionStatus sessionId status now runtime =
      match runtime.store.sessions sessionId with
      | none => .error (.engagement ("unknown session: " ++ quoted sessionId)) runtime
      | some session =>
        .ok ⟨⟩ (runtime.withStore (runtime.store.withSession sessionId
          (InMemory.stamped session status (now.getD time)))) := by
  show (Exec.ofExcept (runtime.store.setSessionStatus sessionId status (now.getD time)) >>=
    fun store => set { runtime with store := store } : Exec Error Runtime PUnit) runtime = _
  rw [InMemory.setSessionStatus]
  cases runtime.store.sessions sessionId <;> rfl

/-- The session that a call finds, or the error it raises. -/
theorem requireSession_run (time : Rat) (sessionId : String) (runtime : Runtime) :
    requireSession (memoryGateway time).toSessionStore sessionId runtime =
      match runtime.store.sessions sessionId with
      | some session => .ok session runtime
      | none =>
        .error (.engagement ("unknown engagement session: " ++ quoted sessionId)) runtime := by
  have read : (memoryGateway time).getSession sessionId runtime =
      .ok (runtime.store.sessions sessionId) runtime := rfl
  rw [requireSession, Exec.bind_run_ok read]
  cases runtime.store.sessions sessionId <;> rfl

/-- The checks of `participate` before the window: an exception, a refusal, or the session. -/
def gate (settings : Settings) (time : Rat) (request : ParticipateRequest) (store : InMemory) :
    Except Error (Except RefusalReason EngagementSession) :=
  match store.sessions request.sessionId with
  | none => .error (.engagement ("unknown engagement session: " ++ quoted request.sessionId))
  | some session =>
    if !session.status.isLive then .ok (.error .sessionNotLive)
    else
      match verifyTicket settings.crypto request.ticket store.secret time with
      | .error raised => .error raised
      | .ok verified =>
        if !verified then .ok (.error .invalidTicket)
        else if request.ticket.attendeeKey ≠ request.attendeeKey then
          .ok (.error .attendeeKeyMismatch)
        else .ok (.ok session)

/-- The time that a request is judged at. -/
def effectiveTime (time : Rat) (request : ParticipateRequest) : Rat :=
  request.submittedAt.getD time

/-- The attendees seen from the address of a request. -/
def sameIpOf (session : EngagementSession) (request : ParticipateRequest) (store : InMemory) :
    Nat :=
  match truthy request.ipAddress with
  | some address => store.sameIpAttendeeCount session.sessionId address
  | none => 0

/-- The flags of the row of a request. -/
def flagsOf (settings : Settings) (time : Rat) (session : EngagementSession)
    (request : ParticipateRequest) (store : InMemory) : StatusFlags :=
  statusFlagsFor
    (validateSessionWindow session (effectiveTime time request) settings.graceSeconds)
    (detectSuspectPattern request.reactionMs (sameIpOf session request store))
    request.offlineReplay

/-- The row of a request. -/
def rowOf (settings : Settings) (time : Rat) (session : EngagementSession)
    (request : ParticipateRequest) (store : InMemory) : Participation :=
  EngagementService.participationOf session request (effectiveTime time request)
    (flagsOf settings time session request store)

/-- The throttle refuses a request. -/
def throttled (settings : Settings) (time : Rat) (request : ParticipateRequest)
    (store : InMemory) : Bool :=
  store.bucketFull (EngagementService.throttleKey request) (effectiveTime time request)
    settings.throttlePerSecond

/-- The store after the throttle has allowed a request. -/
def allowed (time : Rat) (request : ParticipateRequest) (store : InMemory) : InMemory :=
  let key := EngagementService.throttleKey request
  store.setBucket key (store.recent key (effectiveTime time request) ++ [effectiveTime time request])

/-- What becomes of a request past the gate. -/
def settle (settings : Settings) (time : Rat) (session : EngagementSession)
    (request : ParticipateRequest) (store : InMemory) : ParticipationReceipt × InMemory :=
  let key := EngagementService.throttleKey request
  let row := rowOf settings time session request store
  if throttled settings time request store then
    (EngagementService.refused request .throttled,
      store.setBucket key (store.recent key (effectiveTime time request)))
  else if InMemory.nonceKey row ∈ store.nonceSeen then
    (⟨false, request.attendeeKey, some .duplicateNonce, some row.submittedAt,
      some row.statusFlags⟩, allowed time request store)
  else
    (⟨true, request.attendeeKey, none, some row.submittedAt, some row.statusFlags⟩,
      (allowed time request store).append row)

/-- The count of the attendees at an address. -/
theorem sameIp_run (settings : Settings) (time : Rat) (session : EngagementSession)
    (request : ParticipateRequest) (runtime : Runtime) :
    (memoryService settings time).sameIp session request runtime =
      .ok (sameIpOf session request runtime.store) runtime := by
  rw [EngagementService.sameIp, sameIpOf]
  cases truthy request.ipAddress <;> rfl

/-- Past the gate a request is settled against the throttle and the nonces. -/
theorem recordInteraction_run (settings : Settings) (time : Rat) (session : EngagementSession)
    (request : ParticipateRequest) (runtime : Runtime) :
    (memoryService settings time).recordInteraction time session request runtime =
      .ok (settle settings time session request runtime.store).1
        (runtime.withStore (settle settings time session request runtime.store).2) := by
  have asked : (memoryService settings time).gateway.throttleAllows
      (EngagementService.throttleKey request) (request.submittedAt.getD time)
      (memoryService settings time).throttlePerSecond runtime =
    .ok (runtime.store.throttleAllows (EngagementService.throttleKey request)
        (effectiveTime time request) settings.throttlePerSecond).1
      (runtime.withStore (runtime.store.throttleAllows (EngagementService.throttleKey request)
        (effectiveTime time request) settings.throttlePerSecond).2) := rfl
  rw [EngagementService.recordInteraction, Exec.bind_run_ok asked, settle, throttled,
    InMemory.throttleAllows]
  cases full : runtime.store.bucketFull (EngagementService.throttleKey request)
      (effectiveTime time request) settings.throttlePerSecond with
  | true => rfl
  | false =>
    simp only [Bool.false_eq_true, ↓reduceIte, Bool.not_true]
    rw [Exec.bind_run_ok (sameIp_run settings time session request _)]
    have asked : (memoryService settings time).gateway.recordParticipation
        (rowOf settings time session request runtime.store)
        (runtime.withStore (allowed time request runtime.store)) =
      .ok ((allowed time request runtime.store).recordParticipation
          (rowOf settings time session request runtime.store)).1
        (runtime.withStore ((allowed time request runtime.store).recordParticipation
          (rowOf settings time session request runtime.store)).2) := rfl
    refine (Exec.bind_run_ok asked _).trans ?_
    rw [InMemory.recordParticipation]
    by_cases replayed : InMemory.nonceKey (rowOf settings time session request runtime.store) ∈
        runtime.store.nonceSeen
    · have same : (allowed time request runtime.store).nonceSeen = runtime.store.nonceSeen := rfl
      simp only [same, replayed, ↓reduceIte]
      rfl
    · have same : (allowed time request runtime.store).nonceSeen = runtime.store.nonceSeen := rfl
      simp only [same, replayed, ↓reduceIte]
      rfl

/-- A participation passes the gate and is settled. -/
theorem participate_run (settings : Settings) (time : Rat) (request : ParticipateRequest)
    (runtime : Runtime) :
    (memoryService settings time).participate time request runtime =
      match gate settings time request runtime.store with
      | .error raised => .error raised runtime
      | .ok (.error reason) => .ok (EngagementService.refused request reason) runtime
      | .ok (.ok session) =>
        .ok (settle settings time session request runtime.store).1
          (runtime.withStore (settle settings time session request runtime.store).2) := by
  have required : requireSession (memoryService settings time).gateway.toSessionStore
      request.sessionId runtime = _ := requireSession_run time request.sessionId runtime
  rw [EngagementService.participate, gate]
  cases found : runtime.store.sessions request.sessionId with
  | none =>
    rw [found] at required
    exact Exec.bind_run_error required _
  | some session =>
    rw [found] at required
    rw [Exec.bind_run_ok required]
    dsimp only
    cases live : session.status.isLive with
    | false => rfl
    | true =>
      have secret : (memoryService settings time).gateway.ticketSecret session.organization
          runtime = .ok runtime.store.secret runtime := rfl
      simp only [Bool.not_true, Bool.false_eq_true, ↓reduceIte]
      rw [Exec.bind_run_ok secret]
      have checked : (memoryService settings time).crypto = settings.crypto := rfl
      rw [checked]
      cases verifyTicket settings.crypto request.ticket runtime.store.secret time with
      | error raised => rfl
      | ok verified =>
        cases verified with
        | false => rfl
        | true =>
          by_cases keys : request.ticket.attendeeKey = request.attendeeKey
          · simp only [keys, ne_eq, not_true_eq_false, ↓reduceIte, Bool.not_true,
              Bool.false_eq_true]
            exact recordInteraction_run settings time session request runtime
          · simp only [keys, ne_eq, not_false_eq_true, ↓reduceIte, Bool.not_true,
              Bool.false_eq_true]
            rfl

/-- The ticket that a join returns, or the error it raises. -/
def ticketFor (settings : Settings) (time : Rat) (sessionId : String) (memberId : Option String)
    (deviceFingerprint : String) (store : InMemory) : Except Error SessionTicket :=
  match store.sessions sessionId with
  | none => .error (.engagement ("unknown engagement session: " ++ quoted sessionId))
  | some session =>
    if !session.status.isLive then
      .error (.engagement ("session " ++ quoted sessionId ++ " is not live (status=" ++
        quoted session.status.text ++ ")"))
    else issueSessionTicket settings.crypto session memberId deviceFingerprint store.secret time

/-- A join leaves the runtime alone. -/
theorem join_run (settings : Settings) (time : Rat) (sessionId : String)
    (memberId : Option String) (deviceFingerprint : String) (runtime : Runtime) :
    (memoryService settings time).join time sessionId memberId deviceFingerprint runtime =
      match ticketFor settings time sessionId memberId deviceFingerprint runtime.store with
      | .ok ticket => .ok ticket runtime
      | .error raised => .error raised runtime := by
  have required : requireSession (memoryService settings time).gateway.toSessionStore sessionId
      runtime = _ := requireSession_run time sessionId runtime
  rw [EngagementService.join, ticketFor]
  cases found : runtime.store.sessions sessionId with
  | none =>
    rw [found] at required
    exact Exec.bind_run_error required _
  | some session =>
    rw [found] at required
    rw [Exec.bind_run_ok required]
    dsimp only
    cases live : session.status.isLive with
    | false => rfl
    | true =>
      have secret : (memoryService settings time).gateway.ticketSecret session.organization
          runtime = .ok runtime.store.secret runtime := rfl
      simp only [Bool.not_true, Bool.false_eq_true, ↓reduceIte]
      rw [Exec.bind_run_ok secret]
      have same : (memoryService settings time).crypto = settings.crypto := rfl
      rw [same]
      cases issueSessionTicket settings.crypto session memberId deviceFingerprint
        runtime.store.secret time <;> rfl

/-- What a ticket issued for a session says. -/
structure SignedFor (crypto : Crypto) (session : EngagementSession) (memberId : Option String)
    (deviceFingerprint secret : String) (ticket : SessionTicket) : Prop where
  /-- It names the session. -/
  session : ticket.sessionId = session.sessionId
  /-- Its attendee key is the one of the member or the device. -/
  key : attendeeKey crypto ticket.sessionId memberId deviceFingerprint = .ok ticket.attendeeKey
  /-- It names the member. -/
  member : ticket.memberId = memberId
  /-- It is signed with the secret. -/
  signed : signTicket crypto ticket.sessionId ticket.attendeeKey ticket.issuedAt ticket.expiresAt
    secret = .ok ticket.signature

/-- Every ticket issued is such a ticket. -/
theorem issueSessionTicket_ok {crypto : Crypto} {session : EngagementSession}
    {memberId : Option String} {deviceFingerprint secret : String} {time : Rat} {ttlSeconds : Int}
    {ticket : SessionTicket}
    (issued : issueSessionTicket crypto session memberId deviceFingerprint secret time ttlSeconds =
      .ok ticket) : SignedFor crypto session memberId deviceFingerprint secret ticket := by
  rw [issueSessionTicket] at issued
  cases live : session.status.isLive with
  | false =>
    rw [live] at issued
    cases issued
  | true =>
    rw [live] at issued
    cases key : attendeeKey crypto session.sessionId memberId deviceFingerprint with
    | error raised =>
      rw [key] at issued
      cases issued
    | ok value =>
      rw [key] at issued
      cases signed : signTicket crypto session.sessionId value time (time + ttlSeconds) secret with
      | error raised =>
        simp only [bind, Except.bind, signed] at issued
        cases issued
      | ok signature =>
        simp only [bind, Except.bind, signed] at issued
        cases issued
        exact ⟨rfl, key, rfl, signed⟩

/-- What a ticket returned by a join says. -/
structure IssuedBy (settings : Settings) (store : InMemory) (sessionId : String)
    (memberId : Option String) (deviceFingerprint : String) (ticket : SessionTicket) : Prop where
  /-- It names the session that was found. -/
  session : ∃ session, store.sessions sessionId = some session ∧
    ticket.sessionId = session.sessionId
  /-- Its attendee key is the one of the member or the device. -/
  key : attendeeKey settings.crypto ticket.sessionId memberId deviceFingerprint =
    .ok ticket.attendeeKey
  /-- It names the member. -/
  member : ticket.memberId = memberId
  /-- It is signed with the secret. -/
  signed : signTicket settings.crypto ticket.sessionId ticket.attendeeKey ticket.issuedAt
    ticket.expiresAt store.secret = .ok ticket.signature

/-- A join that returns returns such a ticket. -/
theorem ticketFor_ok {settings : Settings} {time : Rat} {sessionId : String}
    {memberId : Option String} {deviceFingerprint : String} {store : InMemory}
    {ticket : SessionTicket}
    (returned : ticketFor settings time sessionId memberId deviceFingerprint store = .ok ticket) :
    IssuedBy settings store sessionId memberId deviceFingerprint ticket := by
  rw [ticketFor] at returned
  cases found : store.sessions sessionId with
  | none => simp [found] at returned
  | some session =>
    cases live : session.status.isLive with
    | false => simp [found, live] at returned
    | true =>
      simp only [found, live, Bool.not_true, Bool.false_eq_true, ↓reduceIte] at returned
      have made := issueSessionTicket_ok returned
      exact ⟨⟨session, found, made.session⟩, made.key, made.member, made.signed⟩

/-- Every session is stored under its own id. -/
def InMemory.Keyed (store : InMemory) : Prop :=
  ∀ sessionId session, store.sessions sessionId = some session → session.sessionId = sessionId

/-- A store reached without recording a row. -/
structure SameLog (before after : InMemory) : Prop where
  secret : after.secret = before.secret
  participations : after.participations = before.participations
  nonceSeen : after.nonceSeen = before.nonceSeen
  keyed : before.Keyed → after.Keyed

/-- A store has its own log. -/
theorem SameLog.refl (store : InMemory) : SameLog store store := ⟨rfl, rfl, rfl, id⟩

/-- A session stored under its own id leaves the log alone. -/
theorem SameLog.setSession {before after : InMemory} (same : SameLog before after)
    {sessionId : String} {session : EngagementSession}
    (named : before.Keyed → session.sessionId = sessionId) :
    SameLog before (after.withSession sessionId session) where
  secret := same.secret
  participations := same.participations
  nonceSeen := same.nonceSeen
  keyed keyed other found present := by
    by_cases here : other = sessionId
    · subst here
      rw [InMemory.withSession_sessions_self] at present
      rw [← Option.some.inj present]
      exact named keyed
    · rw [InMemory.withSession_sessions_of_ne after session here] at present
      exact same.keyed keyed other found present

/-- The log of the runtime is the one of the store. -/
def LogOf (before : InMemory) (runtime : Runtime) : Prop := SameLog before runtime.store

section Keeps

variable {before : InMemory} {α : Type}

/-- Reading keeps the log. -/
theorem keeps_ofStore (read : InMemory → α) : Exec.Keeps (LogOf before) (ofStore read) :=
  Exec.Keeps.of_unchanged fun _ => rfl

/-- Looking a session up keeps the log. -/
theorem keeps_requireSession (time : Rat) (sessionId : String) :
    Exec.Keeps (LogOf before) (requireSession (memoryGateway time).toSessionStore sessionId) := by
  rw [requireSession]
  refine Exec.Keeps.bind (keeps_ofStore fun store => store.sessions sessionId) fun found => ?_
  cases found with
  | none => exact .throw _
  | some session => exact .pure _

/-- A preview keeps the log. -/
theorem keeps_previewOutcome (time : Rat) (session : EngagementSession) :
    Exec.Keeps (LogOf before) (previewOutcome (memoryGateway time).toSessionStore session) := by
  rw [previewOutcome]
  exact Exec.Keeps.bind (keeps_ofStore fun store => store.participations session.sessionId)
    fun _ => .pure _

/-- A transition keeps the log. -/
theorem keeps_setSessionStatus (time : Rat) (sessionId : String) (status : SessionStatus)
    (now : Option Rat) :
    Exec.Keeps (LogOf before) ((memoryGateway time).setSessionStatus sessionId status now) := by
  intro runtime same
  rw [Exec.after, setSessionStatus_run]
  cases found : runtime.store.sessions sessionId with
  | none => exact same
  | some session =>
    exact SameLog.setSession same fun keyed => same.keyed keyed sessionId session found

/-- The bulk service does not touch the engagement store. -/
theorem keeps_memoryBulkService (organization : String) (items : List AttendanceItem)
    (scope : AttendanceScope) (batchId : String) :
    Exec.Keeps (LogOf before) (memoryBulkService organization items scope batchId) := by
  intro runtime same
  have stored : (Exec.after (memoryBulkService organization items scope batchId) runtime).store =
      runtime.store := by
    rw [Exec.after, memoryBulkService, Exec.bind_run_ok (Exec.get_run runtime)]
    dsimp only
    cases Reporting.submit inMemoryGateway items scope batchId runtime.attendance <;> rfl
  rw [LogOf, stored]
  exact same

/-- The projection keeps the log. -/
theorem keeps_projectAndRecordAttendance (time : Rat) (session : EngagementSession) :
    Exec.Keeps (LogOf before) (projectAndRecordAttendance (memoryGateway time).toSessionStore
      memoryBulkService session) := by
  rw [projectAndRecordAttendance]
  refine Exec.Keeps.bind (keeps_ofStore fun store => store.participations session.sessionId)
    fun participations => ?_
  exact Exec.Keeps.bind (keeps_memoryBulkService _ _ _ _) fun _ => .pure _

/-- A finalize keeps the log. -/
theorem keeps_finalizeClose (settings : Settings) (time : Rat) (sessionId : String) :
    Exec.Keeps (LogOf before) ((memoryService settings time).finalizeClose sessionId) := by
  rw [EngagementService.finalizeClose, finalizeClose]
  refine Exec.Keeps.bind (keeps_requireSession time sessionId) fun session => ?_
  refine Exec.Keeps.ite (keeps_previewOutcome time session) ?_
  refine Exec.Keeps.bind (.ofExcept _) fun _ => ?_
  refine Exec.Keeps.bind (keeps_setSessionStatus time sessionId .closed none) fun _ => ?_
  refine Exec.Keeps.bind (keeps_requireSession time sessionId) fun closed => ?_
  refine Exec.Keeps.bind (keeps_projectAndRecordAttendance time closed) fun outcome => ?_
  exact Exec.Keeps.bind (Exec.Keeps.modify fun _ same => same) fun _ => .pure _

/-- Opening a session keeps the log. -/
theorem keeps_openSession (settings : Settings) (time : Rat) (sessionId : String)
    (now : Option Rat) :
    Exec.Keeps (LogOf before) ((memoryService settings time).openSession sessionId now) := by
  rw [EngagementService.openSession]
  refine Exec.Keeps.bind (keeps_requireSession time sessionId) fun session => ?_
  refine Exec.Keeps.bind (.ofExcept _) fun _ => ?_
  refine Exec.Keeps.bind (keeps_setSessionStatus time sessionId .open now) fun _ => ?_
  refine Exec.Keeps.bind (keeps_requireSession time sessionId) fun opened => ?_
  exact Exec.Keeps.bind (Exec.Keeps.modify fun _ same => same) fun _ => .pure _

/-- Closing a session keeps the log. -/
theorem keeps_closeSession (settings : Settings) (time : Rat) (sessionId : String)
    (now : Option Rat) :
    Exec.Keeps (LogOf before) ((memoryService settings time).closeSession sessionId now) := by
  rw [EngagementService.closeSession]
  refine Exec.Keeps.bind (keeps_requireSession time sessionId) fun session => ?_
  refine Exec.Keeps.bind (.ofExcept _) fun _ => ?_
  refine Exec.Keeps.bind (keeps_setSessionStatus time sessionId .closing now) fun _ => ?_
  refine Exec.Keeps.bind (keeps_requireSession time sessionId) fun closing => ?_
  refine Exec.Keeps.bind ?_ fun _ => keeps_previewOutcome time closing
  exact fun runtime same => ⟨same.secret, same.participations, same.nonceSeen, same.keyed⟩

/-- Creating a session keeps the log. -/
theorem keeps_createSession (settings : Settings) (time : Rat) (session : EngagementSession) :
    Exec.Keeps (LogOf before) ((memoryService settings time).createSession session) := by
  rw [EngagementService.createSession]
  refine Exec.Keeps.bind ?_ fun _ => .pure _
  exact fun runtime same => SameLog.setSession same fun _ => rfl

end Keeps

/-- The items of the in-window attendees of a session. -/
def projection (store : InMemory) (sessionId : String) : List AttendanceItem :=
  (inWindowAttendees (store.participations sessionId)).map participationToAttendanceItem

/-- The bulk service notes the batch. -/
theorem memoryBulkService_submitted (organization : String) (items : List AttendanceItem)
    (scope : AttendanceScope) (batchId : String) (runtime : Runtime) :
    ((memoryBulkService organization items scope batchId).after runtime).submitted =
      runtime.submitted ++ [items] := by
  rw [memoryBulkService, Exec.after_bind_ok (Exec.get_run runtime)]
  dsimp only
  cases Reporting.submit inMemoryGateway items scope batchId runtime.attendance <;> rfl

/-- Recording the attendance of a session submits its projection. -/
theorem projectAndRecordAttendance_submitted (time : Rat) {session : EngagementSession}
    {sessionId : String} (named : session.sessionId = sessionId) (runtime : Runtime) :
    ((projectAndRecordAttendance (memoryGateway time).toSessionStore memoryBulkService
      session).after runtime).submitted =
        runtime.submitted ++ [projection runtime.store sessionId] := by
  have read : (memoryGateway time).participations session.sessionId runtime =
      .ok (runtime.store.participations session.sessionId) runtime := rfl
  rw [projectAndRecordAttendance, Exec.after_bind_ok read, named]
  refine Exec.after_bind (fun later : Runtime => later.submitted = runtime.submitted ++
    [projection runtime.store sessionId]) ?_ fun outcome => .pure _
  exact memoryBulkService_submitted _ _ _ _ runtime

/-- A finalize submits the projection of its session, or nothing. -/
theorem finalizeClose_submitted (settings : Settings) (time : Rat) (sessionId : String)
    (runtime : Runtime) (keyed : runtime.store.Keyed) :
    let next := ((memoryService settings time).finalizeClose sessionId).after runtime
    next.submitted = runtime.submitted ∨
      next.submitted = runtime.submitted ++ [projection runtime.store sessionId] := by
  have required := requireSession_run time sessionId runtime
  have unfolded : (memoryService settings time).finalizeClose sessionId =
      finalizeClose (memoryGateway time).toSessionStore memoryBulkService
        (memoryService settings time).emitEvent sessionId := rfl
  rw [unfolded, finalizeClose]
  cases found : runtime.store.sessions sessionId with
  | none =>
    rw [found] at required
    exact .inl (congrArg Runtime.submitted (Exec.after_bind_error required _))
  | some session =>
    rw [found] at required
    rw [Exec.after_bind_ok required]
    by_cases finished : session.status = .closed
    · rw [if_pos finished]
      exact .inl rfl
    · rw [if_neg finished]
      cases legal : validateStateTransition session.status .closed with
      | error raised => exact .inl rfl
      | ok _ =>
        have moved := setSessionStatus_run time sessionId .closed none runtime
        rw [found] at moved
        have legally : (Exec.ofExcept (.ok ()) : Exec Error Runtime Unit) runtime =
          .ok () runtime := rfl
        rw [Exec.after_bind_ok legally, Exec.after_bind_ok moved]
        have again := requireSession_run time sessionId (runtime.withStore
          (runtime.store.withSession sessionId (InMemory.stamped session .closed time)))
        rw [Runtime.withStore_store, InMemory.withSession_sessions_self] at again
        rw [Option.getD_none, Exec.after_bind_ok again]
        refine .inr (Exec.after_bind (fun later : Runtime => later.submitted = runtime.submitted ++
          [projection runtime.store sessionId]) ?_ fun outcome => ?_)
        · exact projectAndRecordAttendance_submitted time (keyed sessionId session found) _
        · exact Exec.Keeps.bind (Exec.Keeps.modify fun _ same => same) fun _ => .pure _

/-- The request passes the gate and is settled as accepted. -/
structure Admitted (settings : Settings) (time : Rat) (request : ParticipateRequest)
    (store : InMemory) (session : EngagementSession) : Prop where
  /-- It passes the checks of the session and the ticket. -/
  gate : gate settings time request store = .ok (.ok session)
  /-- The throttle lets it through. -/
  allowed : throttled settings time request store = false
  /-- Its nonce is new. -/
  fresh : InMemory.nonceKey (rowOf settings time session request store) ∉ store.nonceSeen

/-- The store after an accepted request. -/
def recorded (settings : Settings) (time : Rat) (session : EngagementSession)
    (request : ParticipateRequest) (store : InMemory) : InMemory :=
  (allowed time request store).append (rowOf settings time session request store)

/-- The log after an accepted request. -/
theorem recorded_participations (settings : Settings) (time : Rat) (session : EngagementSession)
    (request : ParticipateRequest) (store : InMemory) :
    (recorded settings time session request store).participations =
      Function.update store.participations session.sessionId
        (store.participations session.sessionId ++ [rowOf settings time session request store]) :=
  rfl

/-- The nonces after an accepted request. -/
theorem recorded_nonceSeen (settings : Settings) (time : Rat) (session : EngagementSession)
    (request : ParticipateRequest) (store : InMemory) :
    (recorded settings time session request store).nonceSeen =
      insert (InMemory.nonceKey (rowOf settings time session request store)) store.nonceSeen :=
  rfl

/-- A call leaves log and history alone, issues a ticket, or accepts a request. -/
inductive TraceStep (settings : Settings) (trace next : Trace) : Call → Prop
  | quiet {call : Call} (log : SameLog trace.runtime.store next.runtime.store)
      (issued : next.issued = trace.issued) (accepted : next.accepted = trace.accepted) :
      TraceStep settings trace next call
  | issue {time : Rat} {sessionId : String} {memberId : Option String}
      {deviceFingerprint : String} (ticket : SessionTicket)
      (returned : ticketFor settings time sessionId memberId deviceFingerprint
        trace.runtime.store = .ok ticket)
      (same : next = { trace with issued := trace.issued ++ [(sessionId, ticket)] }) :
      TraceStep settings trace next (.join time sessionId memberId deviceFingerprint)
  | accept {time : Rat} {request : ParticipateRequest} (session : EngagementSession)
      (admitted : Admitted settings time request trace.runtime.store session)
      (same : next =
        { trace with
          runtime := trace.runtime.withStore
            (recorded settings time session request trace.runtime.store)
          accepted := trace.accepted ++ [(request, trace.issued)] }) :
      TraceStep settings trace next (.participate time request)

/-- A request past the gate is accepted exactly when it is admitted. -/
theorem settle_accepted {settings : Settings} {time : Rat} {session : EngagementSession}
    {request : ParticipateRequest} {store : InMemory} :
    (settle settings time session request store).1.accepted = true ↔
      throttled settings time request store = false ∧
        InMemory.nonceKey (rowOf settings time session request store) ∉ store.nonceSeen := by
  rw [settle]
  by_cases full : throttled settings time request store = true
  · simp [full, EngagementService.refused]
  · by_cases replayed : InMemory.nonceKey (rowOf settings time session request store) ∈
        store.nonceSeen
    · simp [full, replayed]
    · simp [full, replayed]

/-- An accepted request is recorded. -/
theorem settle_recorded {settings : Settings} {time : Rat} {session : EngagementSession}
    {request : ParticipateRequest} {store : InMemory}
    (accepted : (settle settings time session request store).1.accepted = true) :
    (settle settings time session request store).2 =
      recorded settings time session request store := by
  obtain ⟨free, fresh⟩ := settle_accepted.mp accepted
  rw [settle]
  simp only [free, fresh, Bool.false_eq_true, ↓reduceIte]
  rfl

/-- A request that is not accepted leaves the log alone. -/
theorem settle_refused {settings : Settings} {time : Rat} {session : EngagementSession}
    {request : ParticipateRequest} {store : InMemory}
    (refused : (settle settings time session request store).1.accepted = false) :
    SameLog store (settle settings time session request store).2 := by
  rw [settle] at refused ⊢
  by_cases full : throttled settings time request store = true
  · simp only [full, ↓reduceIte]
    exact ⟨rfl, rfl, rfl, id⟩
  · by_cases replayed : InMemory.nonceKey (rowOf settings time session request store) ∈
        store.nonceSeen
    · simp only [full, replayed, ↓reduceIte]
      exact ⟨rfl, rfl, rfl, id⟩
    · simp [full, replayed] at refused

/-- Every call takes such a step. -/
theorem perform_step (settings : Settings) (trace : Trace) (call : Call) :
    TraceStep settings trace (call.perform settings trace) call := by
  cases call with
  | createSession session =>
    exact .quiet (keeps_createSession settings 0 session _ (.refl _)) rfl rfl
  | openSession time sessionId now =>
    exact .quiet (keeps_openSession settings time sessionId now _ (.refl _)) rfl rfl
  | closeSession time sessionId now =>
    exact .quiet (keeps_closeSession settings time sessionId now _ (.refl _)) rfl rfl
  | finalizeClose time sessionId =>
    exact .quiet (keeps_finalizeClose settings time sessionId _ (.refl _)) rfl rfl
  | join time sessionId memberId deviceFingerprint =>
    have run := join_run settings time sessionId memberId deviceFingerprint trace.runtime
    cases returned : ticketFor settings time sessionId memberId deviceFingerprint
      trace.runtime.store with
    | error raised =>
      rw [returned] at run
      simp only [Call.perform, run]
      exact .quiet (.refl _) rfl rfl
    | ok ticket =>
      rw [returned] at run
      simp only [Call.perform, run]
      exact .issue ticket returned rfl
  | participate time request =>
    have run := participate_run settings time request trace.runtime
    cases passed : gate settings time request trace.runtime.store with
    | error raised =>
      rw [passed] at run
      simp only [Call.perform, run]
      exact .quiet (.refl _) rfl rfl
    | ok judged =>
      cases judged with
      | error reason =>
        rw [passed] at run
        simp only [Call.perform, run]
        exact .quiet (.refl _) rfl rfl
      | ok session =>
        rw [passed] at run
        simp only [Call.perform, run]
        cases accepted : (settle settings time session request trace.runtime.store).1.accepted with
        | false => exact .quiet (settle_refused accepted) rfl rfl
        | true =>
          obtain ⟨free, fresh⟩ := settle_accepted.mp accepted
          refine .accept session ⟨passed, free, fresh⟩ ?_
          rw [settle_recorded accepted]
          rfl

end FlockOs.Engagement
