import FlockOs.Verif.ApiStep
import FlockOs.Verif.EngagementRun
import Mathlib.Algebra.Order.Ring.Rat
import Mathlib.Tactic.Linarith

/-!
# The closing grace of a session

A session that was created through the API, with the times at which it was opened and closed.
No call stamps its window, so a participation is judged by the status alone, and the status
moves when somebody finalizes.
-/

namespace FlockOs.EngagementApi

open Lib Reporting Engagement EngagementStage

/-- The site, with the times at which a session was opened and closed. -/
structure Timeline where
  /-- The site. -/
  stage : Stage
  /-- Time of the last call. -/
  clock : Rat
  /-- Time of the `open_session` that returned. -/
  openedAt : Option Rat := none
  /-- Time of the `close_session` that returned. -/
  closedAt : Option Rat := none

/-- A call with its caller. -/
abbrev Received := Caller × ApiCall

/-- The opening time after a call, where the call raises or returns. -/
def openStamp (sessionId : String) (received : Received) (raised : Bool)
    (openedAt : Option Rat) : Option Rat :=
  match received.2 with
  | .openSession other =>
    if other = sessionId ∧ raised = false then some received.1.time else openedAt
  | _ => openedAt

/-- The closing time after a call, where the call raises or returns. -/
def closeStamp (sessionId : String) (received : Received) (raised : Bool)
    (closedAt : Option Rat) : Option Rat :=
  match received.2 with
  | .closeSession other =>
    if other = sessionId ∧ raised = false then some received.1.time else closedAt
  | _ => closedAt

section Law

variable (settings : Settings) (answer : BulkAnswer) (sessionId : String)

/-- Perform a call. -/
def Timeline.perform (timeline : Timeline) (received : Received) : Timeline where
  stage := (runCall settings answer received.1 received.2).after timeline.stage
  clock := received.1.time
  openedAt := openStamp sessionId received
    ((runCall settings answer received.1 received.2).raises timeline.stage) timeline.openedAt
  closedAt := closeStamp sessionId received
    ((runCall settings answer received.1 received.2).raises timeline.stage) timeline.closedAt

/-- The server's clock does not go back. -/
def InOrder (timeline : Timeline) (received : Received) : Prop :=
  timeline.clock ≤ received.1.time

instance (timeline : Timeline) (received : Received) : Decidable (InOrder timeline received) :=
  inferInstanceAs (Decidable (timeline.clock ≤ received.1.time))

/-- The requests of a batch, each with the stage it is served at, up to one that raises. -/
def visits (time : Rat) : List ParticipateRequest → Stage → List (ParticipateRequest × Stage)
  | [], _ => []
  | request :: rest, stage =>
    (request, stage) ::
      match (stageService settings answer time).participate time request stage with
      | .ok _ next => visits time rest next
      | .error _ _ => []

/-- The participations that a call serves. -/
def served (stage : Stage) (received : Received) : List (ParticipateRequest × Stage) :=
  match received.2 with
  | .participate payload =>
    match participateRequest received.1.clientIp payload with
    | .ok request => visits settings answer received.1.time [request] stage
    | .error _ => []
  | .bulkAttendance other items =>
    match requestsFromItems received.1.clientIp other 0 items with
    | .ok requests => visits settings answer received.1.time requests stage
    | .error _ => []
  | _ => []

/-- A participation is accepted and not flagged. -/
def creditedAt (time : Rat) (visit : ParticipateRequest × Stage) : Bool :=
  match (stageService settings answer time).participate time visit.1 visit.2 with
  | .ok receipt _ => countsFor (visit.1, receipt)
  | .error _ _ => false

/-- A participation passes the checks of the ticket, the throttle and the nonce. -/
def passes (time : Rat) (visit : ParticipateRequest × Stage) : Bool :=
  match visit.2.getSession visit.1.sessionId with
  | none => false
  | some session =>
    match verifyTicket settings.crypto visit.1.ticket (visit.2.ticketSecret session.organization)
      time with
    | .ok true => decide (visit.1.ticket.attendeeKey = visit.1.attendeeKey) &&
        ((throttling settings time visit.1 visit.2).1 &&
          visit.2.fresh (stageRow settings time visit.1 visit.2 session))
    | _ => false

/-- The time lies between the opening and the end of the grace. -/
def Timely (graceSeconds : Int) (timeline : Timeline) (time : Rat) : Prop :=
  (∃ opened, timeline.openedAt = some opened ∧ opened ≤ time) ∧
    ∀ closed, timeline.closedAt = some closed → time ≤ closed + graceSeconds

/-- What the grace promises of a call. -/
structure GraceLaw (graceSeconds : Int) (timeline : Timeline) (received : Received) : Prop where
  /-- A participation that passes its checks is accepted without a flag exactly when it comes
  between the opening and the end of the grace. -/
  window : ∀ visit ∈ served settings answer timeline.stage received,
    visit.1.sessionId = sessionId →
      (creditedAt settings answer received.1.time visit = true ↔
        passes settings received.1.time visit = true ∧
          Timely graceSeconds timeline received.1.time)
  /-- The session is not closed before the end of the grace. -/
  dwell : timeline.stage.statusOf sessionId ≠ some .closed →
    (timeline.perform settings answer sessionId received).stage.statusOf sessionId =
      some .closed →
    ∃ closed, timeline.closedAt = some closed ∧ closed + graceSeconds ≤ received.1.time

/-- When a call keeps the promise. -/
structure GraceMet (graceSeconds : Int) (timeline : Timeline) (received : Received) : Prop where
  /-- No participation passes its checks while the session is closing after the grace. -/
  late : ∀ visit ∈ served settings answer timeline.stage received,
    visit.1.sessionId = sessionId → passes settings received.1.time visit = true →
    timeline.stage.statusOf sessionId = some .closing →
    ∀ closed, timeline.closedAt = some closed → received.1.time ≤ closed + graceSeconds
  /-- None passes its checks at the last moment of the grace when the session is closed. -/
  moment : ∀ visit ∈ served settings answer timeline.stage received,
    visit.1.sessionId = sessionId → passes settings received.1.time visit = true →
    timeline.stage.statusOf sessionId = some .closed →
    timeline.closedAt ≠ some (received.1.time - graceSeconds)
  /-- Nobody finalizes the closing session before the end of the grace. -/
  patient : received.2 = .finalizeClose sessionId →
    timeline.stage.statusOf sessionId = some .closing →
    ∀ closed, timeline.closedAt = some closed → closed + graceSeconds ≤ received.1.time

end Law

section Facts

variable {settings : Settings} {answer : BulkAnswer} {sessionId : String} {time : Rat}
  {stage : Stage}

/-- When a batch returns, its requests were all served, and its receipts are theirs. -/
theorem visits_receipts : ∀ (requests : List ParticipateRequest)
    {stage last : Stage} {receipts : List ParticipationReceipt},
    (stageService settings answer time).bulkParticipate time requests stage =
      .ok receipts last →
    List.Forall₂ (fun visit receipt => ∃ next,
      (stageService settings answer time).participate time visit.1 visit.2 = .ok receipt next)
      (visits settings answer time requests stage) receipts
  | [], stage, last, receipts, returned => by
    cases returned
    exact .nil
  | request :: rest, stage, last, receipts, returned => by
    rw [EngagementService.bulkParticipate, List.mapM_cons] at returned
    obtain ⟨receipt, next, first, later⟩ := Exec.bind_ok returned
    obtain ⟨others, _, second, whole⟩ := Exec.bind_ok later
    cases whole
    rw [visits, first]
    exact .cons ⟨next, first⟩ (visits_receipts rest second)

/-- A batch leaves the sessions alone. -/
theorem visits_sessions : ∀ (requests : List ParticipateRequest) {stage : Stage},
    ∀ visit ∈ visits settings answer time requests stage, visit.2.sessions = stage.sessions
  | [], _, _, member => by cases member
  | request :: rest, stage, visit, member => by
    rw [visits, List.mem_cons] at member
    cases member with
    | inl first => rw [first]
    | inr later =>
      have same := participate_sessions settings answer time request stage
      rw [Exec.after] at same
      cases outcome : (stageService settings answer time).participate time request stage with
      | error raised next =>
        rw [outcome] at later
        cases later
      | ok receipt next =>
        rw [outcome] at later same
        exact (visits_sessions rest visit later).trans same

/-- The participations of a call find the sessions as the call does. -/
theorem served_sessions {received : Received} {visit : ParticipateRequest × Stage}
    (member : visit ∈ served settings answer stage received) :
    visit.2.sessions = stage.sessions := by
  rw [served] at member
  split at member
  · split at member
    · exact visits_sessions _ visit member
    · cases member
  · split at member
    · exact visits_sessions _ visit member
    · cases member
  · cases member

/-- A participation is credited when the session is live, the window holds it and the checks
pass. -/
theorem creditedAt_iff {visit : ParticipateRequest × Stage} {session : EngagementSession}
    (found : visit.2.getSession visit.1.sessionId = some session)
    (inWindow : validateSessionWindow session (effectiveTime time visit.1)
      settings.graceSeconds = none) :
    creditedAt settings answer time visit = true ↔
      session.status.isLive = true ∧ passes settings time visit = true := by
  rw [creditedAt, EngagementStage.participate_run, passes, stageGate, found]
  dsimp only
  cases session.status.isLive with
  | false => exact iff_of_false (by rintro ⟨⟩) (fun both => by cases both.1)
  | true =>
    simp only [Bool.not_true, Bool.false_eq_true, ↓reduceIte, true_and]
    cases verifyTicket settings.crypto visit.1.ticket (visit.2.ticketSecret session.organization)
      time with
    | error raised => exact Iff.rfl
    | ok verified =>
      cases verified with
      | false => exact Iff.rfl
      | true =>
        simp only [Bool.not_true, Bool.false_eq_true, ↓reduceIte]
        by_cases keys : visit.1.ticket.attendeeKey = visit.1.attendeeKey
        · rw [if_neg (not_not_intro keys), decide_eq_true keys, Bool.true_and]
          dsimp only
          rw [stageSettle]
          cases (throttling settings time visit.1 visit.2).1 with
          | false => exact Iff.rfl
          | true =>
            cases visit.2.fresh (stageRow settings time visit.1 visit.2 session) with
            | false => exact Iff.rfl
            | true =>
              simp only [↓reduceIte, Bool.true_and, iff_true]
              rw [countsFor_receiptOf]
              show (!(validateSessionWindow session (effectiveTime time visit.1)
                settings.graceSeconds).isSome) = true
              rw [inWindow]
              rfl
        · rw [if_pos keys, decide_eq_false keys]
          exact Iff.rfl

/-- The times that go with a status. -/
def Phase (timeline : Timeline) : SessionStatus → Prop
  | .draft | .scheduled => timeline.openedAt = none ∧ timeline.closedAt = none
  | .open =>
    (∃ opened, timeline.openedAt = some opened ∧ opened ≤ timeline.clock) ∧
      timeline.closedAt = none
  | .closing | .closed =>
    (∃ opened, timeline.openedAt = some opened ∧ opened ≤ timeline.clock) ∧
      ∃ closed, timeline.closedAt = some closed
  | .archived => False

/-- The row of the session is never stamped, its status goes with the times, and it is closed
after the grace only. -/
structure Tracked (sessionId : String) (graceSeconds : Int) (timeline : Timeline)
    (row : SessionRow) : Prop where
  /-- The row. -/
  found : timeline.stage.sessions sessionId = some row
  /-- No start. -/
  openAt : row.openAt = none
  /-- No end. -/
  closeAt : row.closeAt = none
  /-- The times. -/
  phase : Phase timeline row.status
  /-- The grace. -/
  elapsed : row.status = .closed → ∀ closed, timeline.closedAt = some closed →
    closed + graceSeconds ≤ timeline.clock

variable {graceSeconds : Int} {timeline : Timeline} {row : SessionRow} {received : Received}

/-- The status of a tracked session. -/
theorem Tracked.status (tracked : Tracked sessionId graceSeconds timeline row) :
    timeline.stage.statusOf sessionId = some row.status := by
  rw [Stage.statusOf, tracked.found]
  rfl

/-- A window without bounds holds every time. -/
theorem Tracked.inWindow (tracked : Tracked sessionId graceSeconds timeline row) (time : Rat)
    (grace : Int) : validateSessionWindow (sessionFromRow sessionId row) time grace = none := by
  have noStart : (sessionFromRow sessionId row).openAt = none := tracked.openAt
  have noEnd : (sessionFromRow sessionId row).closeAt = none := tracked.closeAt
  rw [validateSessionWindow, noStart, noEnd]
  rfl

variable (time) in
/-- When the live states of a session are the times between its opening and the end of its
grace. -/
theorem Tracked.live_iff_timely (tracked : Tracked sessionId graceSeconds timeline row)
    (inOrder : timeline.clock ≤ time) :
    (row.status.isLive = true ↔ Timely graceSeconds timeline time) ↔
      (row.status = .closing → ∀ closed, timeline.closedAt = some closed →
        time ≤ closed + graceSeconds) ∧
      (row.status = .closed → timeline.closedAt ≠ some (time - graceSeconds)) := by
  have phase := tracked.phase
  have elapsed := tracked.elapsed
  cases status : row.status with
  | draft =>
    rw [status] at phase
    refine iff_of_true (iff_of_false nofun fun timely => ?_) ⟨nofun, nofun⟩
    obtain ⟨opened, already, _⟩ := timely.1
    rw [phase.1] at already
    cases already
  | scheduled =>
    rw [status] at phase
    refine iff_of_true (iff_of_false nofun fun timely => ?_) ⟨nofun, nofun⟩
    obtain ⟨opened, already, _⟩ := timely.1
    rw [phase.1] at already
    cases already
  | «open» =>
    rw [status] at phase
    obtain ⟨opened, since, before⟩ := phase.1
    refine iff_of_true (iff_of_true rfl ⟨⟨opened, since, before.trans inOrder⟩, ?_⟩) ⟨nofun, nofun⟩
    rw [phase.2]
    nofun
  | closing =>
    rw [status] at phase
    obtain ⟨opened, since, before⟩ := phase.1
    constructor
    · intro same
      exact ⟨fun _ => (same.mp rfl).2, nofun⟩
    · intro both
      exact iff_of_true rfl ⟨⟨opened, since, before.trans inOrder⟩, both.1 rfl⟩
  | closed =>
    rw [status] at phase
    obtain ⟨opened, since, before⟩ := phase.1
    obtain ⟨closed, began⟩ := phase.2
    have late := elapsed status closed began
    rw [began]
    constructor
    · intro same
      refine ⟨nofun, fun _ last => ?_⟩
      have edge : closed = time - graceSeconds := Option.some.inj last
      have live : SessionStatus.closed.isLive = true := by
        refine same.mpr ⟨⟨opened, since, before.trans inOrder⟩, fun other same' => ?_⟩
        rw [began] at same'
        cases same'
        rw [edge]
        linarith
      cases live
    · intro both
      refine iff_of_false nofun fun timely => both.2 rfl ?_
      have early := timely.2 closed began
      have together : closed = time - graceSeconds := by linarith
      rw [together]
  | archived =>
    rw [status] at phase
    cases phase

/-- The participations of a call keep the window exactly when none comes late or at the last
moment. -/
theorem Tracked.window_iff (tracked : Tracked sessionId graceSeconds timeline row)
    (inOrder : InOrder timeline received) {visit : ParticipateRequest × Stage}
    (member : visit ∈ served settings answer timeline.stage received)
    (onSession : visit.1.sessionId = sessionId) :
    (creditedAt settings answer received.1.time visit = true ↔
        passes settings received.1.time visit = true ∧
          Timely graceSeconds timeline received.1.time) ↔
      (passes settings received.1.time visit = true →
        timeline.stage.statusOf sessionId = some .closing →
        ∀ closed, timeline.closedAt = some closed →
          received.1.time ≤ closed + graceSeconds) ∧
      (passes settings received.1.time visit = true →
        timeline.stage.statusOf sessionId = some .closed →
        timeline.closedAt ≠ some (received.1.time - graceSeconds)) := by
  have found : visit.2.getSession visit.1.sessionId = some (sessionFromRow sessionId row) := by
    rw [Stage.getSession, served_sessions member, onSession, tracked.found]
    rfl
  have live := tracked.live_iff_timely received.1.time inOrder
  rw [creditedAt_iff found (tracked.inWindow _ _), sessionFromRow_status, tracked.status,
    Option.some.injEq, Option.some.injEq]
  cases passes settings received.1.time visit with
  | false => simp
  | true =>
    simp only [and_true, true_and, true_implies]
    exact live

/-- The session gets closed by a finalize of the closing session only. -/
theorem Shifted.dwell_iff {before status : SessionStatus} {call : ApiCall} {raised : Bool}
    (shifted : Shifted sessionId before call raised status) (phase : Phase timeline before) :
    (some before ≠ some SessionStatus.closed → some status = some SessionStatus.closed →
      ∃ closed, timeline.closedAt = some closed ∧ closed + graceSeconds ≤ time) ↔
    (call = .finalizeClose sessionId → some before = some SessionStatus.closing →
      ∀ closed, timeline.closedAt = some closed → closed + graceSeconds ≤ time) := by
  cases shifted with
  | stays call raised noOpen noClose noFinalize =>
    refine iff_of_true (fun unclosed closed => absurd closed unclosed) fun finalizes closing => ?_
    exact absurd (Option.some.inj closing) (noFinalize finalizes)
  | opens legal => exact iff_of_true (fun _ closed => by cases closed) nofun
  | closes legal => exact iff_of_true (fun _ closed => by cases closed) nofun
  | finalizes raised closing =>
    subst closing
    obtain ⟨closed, began⟩ := phase.2
    rw [began]
    constructor
    · intro dwell _ _ other same
      obtain ⟨known, same', late⟩ := dwell nofun rfl
      cases same
      cases same'
      exact late
    · intro patient _ _
      exact ⟨closed, rfl, patient rfl rfl closed rfl⟩

/-- A call keeps the promise exactly when it meets the condition. -/
theorem Tracked.law_iff (tracked : Tracked sessionId graceSeconds timeline row)
    (inOrder : InOrder timeline received) :
    GraceLaw settings answer sessionId graceSeconds timeline received ↔
      GraceMet settings answer sessionId graceSeconds timeline received := by
  obtain ⟨status, left, shifted⟩ := runCall_row settings answer received.1 received.2
    tracked.found
  have after : (timeline.perform settings answer sessionId received).stage.statusOf sessionId =
      some status := by
    show (((runCall settings answer received.1 received.2).after timeline.stage).sessions
      sessionId).map (·.status) = some status
    rw [left]
    rfl
  have dwell : (timeline.stage.statusOf sessionId ≠ some .closed →
      (timeline.perform settings answer sessionId received).stage.statusOf sessionId =
        some .closed →
      ∃ closed, timeline.closedAt = some closed ∧ closed + graceSeconds ≤ received.1.time) ↔
    (received.2 = .finalizeClose sessionId →
      timeline.stage.statusOf sessionId = some .closing →
      ∀ closed, timeline.closedAt = some closed →
        closed + graceSeconds ≤ received.1.time) := by
    rw [after, tracked.status]
    exact shifted.dwell_iff tracked.phase
  constructor
  · intro law
    refine ⟨fun visit member onSession => ?_, fun visit member onSession => ?_, dwell.mp law.dwell⟩
    · exact ((tracked.window_iff inOrder member onSession).mp
        (law.window visit member onSession)).1
    · exact ((tracked.window_iff inOrder member onSession).mp
        (law.window visit member onSession)).2
  · intro met
    refine ⟨fun visit member onSession => ?_, dwell.mpr met.patient⟩
    exact (tracked.window_iff inOrder member onSession).mpr
      ⟨met.late visit member onSession, met.moment visit member onSession⟩

variable (received) in
/-- A call that leaves the status alone leaves the times alone. -/
theorem stamps_stay {raised : Bool}
    (noOpen : received.2 = .openSession sessionId → raised = true)
    (noClose : received.2 = .closeSession sessionId → raised = true)
    (openedAt closedAt : Option Rat) :
    openStamp sessionId received raised openedAt = openedAt ∧
      closeStamp sessionId received raised closedAt = closedAt := by
  rw [openStamp, closeStamp]
  constructor
  · split
    · rename_i other call
      refine if_neg fun both => ?_
      rw [both.1] at call
      rw [noOpen call] at both
      cases both.2
    · rfl
  · split
    · rename_i other call
      refine if_neg fun both => ?_
      rw [both.1] at call
      rw [noClose call] at both
      cases both.2
    · rfl

/-- The times of a status go with it later too. -/
theorem Phase.later {next : Timeline} {status : SessionStatus} (phase : Phase timeline status)
    (clock : timeline.clock ≤ next.clock) (opened : next.openedAt = timeline.openedAt)
    (closed : next.closedAt = timeline.closedAt) : Phase next status := by
  have since (known : ∃ opened, timeline.openedAt = some opened ∧ opened ≤ timeline.clock) :
      ∃ opened, next.openedAt = some opened ∧ opened ≤ next.clock := by
    obtain ⟨time, began, before⟩ := known
    exact ⟨time, opened.trans began, before.trans clock⟩
  cases status with
  | draft => exact ⟨opened.trans phase.1, closed.trans phase.2⟩
  | scheduled => exact ⟨opened.trans phase.1, closed.trans phase.2⟩
  | «open» => exact ⟨since phase.1, closed.trans phase.2⟩
  | closing =>
    obtain ⟨time, began⟩ := phase.2
    exact ⟨since phase.1, time, closed.trans began⟩
  | closed =>
    obtain ⟨time, began⟩ := phase.2
    exact ⟨since phase.1, time, closed.trans began⟩
  | archived => cases phase

/-- A session moved to a status is tracked when the times go with it. -/
theorem Tracked.move {next : Timeline} {status : SessionStatus}
    (tracked : Tracked sessionId graceSeconds timeline row)
    (found : next.stage.sessions sessionId = some (moved row status)) (phase : Phase next status)
    (elapsed : status = .closed → ∀ closed, next.closedAt = some closed →
      closed + graceSeconds ≤ next.clock) :
    Tracked sessionId graceSeconds next (moved row status) where
  found := found
  openAt := by
    rw [moved_openAt]
    exact tracked.openAt
  closeAt := by
    rw [moved_closeAt]
    exact tracked.closeAt
  phase := phase
  elapsed := elapsed

/-- The times after a call go with the status that it leaves. -/
theorem Shifted.phase {before status : SessionStatus} {raised : Bool} {next : Timeline}
    (shifted : Shifted sessionId before received.2 raised status)
    (phase : Phase timeline before) (inOrder : InOrder timeline received)
    (clock : next.clock = received.1.time)
    (opened : next.openedAt = openStamp sessionId received raised timeline.openedAt)
    (closed : next.closedAt = closeStamp sessionId received raised timeline.closedAt) :
    Phase next status := by
  have later : timeline.clock ≤ next.clock := by
    rw [clock]
    exact inOrder
  obtain ⟨caller, call⟩ := received
  cases shifted with
  | stays _ _ noOpen noClose _ =>
    have stay := stamps_stay (caller, call) noOpen noClose timeline.openedAt
      timeline.closedAt
    exact phase.later later (opened.trans stay.1) (closed.trans stay.2)
  | opens legal =>
    have stamped : openStamp sessionId (caller, .openSession sessionId) false timeline.openedAt =
        some caller.time := if_pos ⟨rfl, rfl⟩
    have unclosed : timeline.closedAt = none := by
      cases before
      case draft => exact phase.2
      case scheduled => exact phase.2
      all_goals exact absurd legal (by decide)
    exact ⟨⟨caller.time, opened.trans stamped, clock.ge⟩, closed.trans unclosed⟩
  | closes legal =>
    have stamped : closeStamp sessionId (caller, .closeSession sessionId) false
        timeline.closedAt = some caller.time := if_pos ⟨rfl, rfl⟩
    cases before
    case «open» =>
      obtain ⟨time, began, soon⟩ := phase.1
      exact ⟨⟨time, opened.trans began, soon.trans later⟩, caller.time, closed.trans stamped⟩
    all_goals exact absurd legal (by decide)
  | finalizes _ closing =>
    subst closing
    obtain ⟨time, began, soon⟩ := phase.1
    obtain ⟨end_, ended⟩ := phase.2
    exact ⟨⟨time, opened.trans began, soon.trans later⟩, end_, closed.trans ended⟩

/-- A call that keeps the promise leaves the session closed after the grace only. -/
theorem Tracked.elapsed_step {status : SessionStatus} {raised : Bool}
    (tracked : Tracked sessionId graceSeconds timeline row)
    (shifted : Shifted sessionId row.status received.2 raised status)
    (inOrder : InOrder timeline received)
    (dwell : row.status ≠ .closed → status = .closed →
      ∃ closed, timeline.closedAt = some closed ∧ closed + graceSeconds ≤ received.1.time)
    (ended : status = .closed) (closed : Rat)
    (began : closeStamp sessionId received raised timeline.closedAt = some closed) :
    closed + graceSeconds ≤ received.1.time := by
  obtain ⟨caller, call⟩ := received
  cases shifted with
  | stays _ _ noOpen noClose _ =>
    have stay := stamps_stay (caller, call) noOpen noClose timeline.openedAt
      timeline.closedAt
    rw [stay.2] at began
    exact (tracked.elapsed ended closed began).trans inOrder
  | opens legal => cases ended
  | closes legal => cases ended
  | finalizes _ closing =>
    obtain ⟨known, since, past⟩ := dwell (by rw [closing]; nofun) ended
    have same : timeline.closedAt = some closed := began
    rw [since] at same
    cases same
    exact past

/-- A call that keeps the promise keeps the invariant. -/
theorem Tracked.step (tracked : Tracked sessionId graceSeconds timeline row)
    (inOrder : InOrder timeline received)
    (law : GraceLaw settings answer sessionId graceSeconds timeline received) :
    ∃ row, Tracked sessionId graceSeconds (timeline.perform settings answer sessionId received)
      row := by
  obtain ⟨status, left, shifted⟩ := runCall_row settings answer received.1 received.2
    tracked.found
  have after : (timeline.perform settings answer sessionId received).stage.statusOf sessionId =
      some status := by
    show (((runCall settings answer received.1 received.2).after timeline.stage).sessions
      sessionId).map (·.status) = some status
    rw [left]
    rfl
  have dwell := law.dwell
  rw [after, tracked.status] at dwell
  refine ⟨moved row status, tracked.move left ?_ ?_⟩
  · exact shifted.phase tracked.phase inOrder rfl rfl rfl
  · refine tracked.elapsed_step shifted inOrder fun unclosed ended => ?_
    exact dwell (fun same => unclosed (Option.some.inj same)) (congrArg some ended)

/-- Inside the scope of the caller a session is inserted. -/
theorem createResolved_run {caller : Caller} {branch : String} {passed : Unit}
    (inScope : Permissions.assertBranchScope (some branch) caller.user caller.permissions =
      .ok passed)
    (payload : CreatePayload) (organization : String) (group : Option String) (drawn : String)
    (before : Stage) :
    createResolved settings answer caller payload branch organization group drawn true before =
      .ok ⟨drawn, (newSessionRow payload branch organization group).status⟩
        (insertSession before drawn (newSessionRow payload branch organization group)) := by
  have granted : (Exec.ofExcept (Permissions.assertBranchScope (some branch) caller.user
      caller.permissions) : Exec Error Stage Unit) before = .ok () before := by
    rw [inScope]
    rfl
  rw [createResolved, Exec.bind_run_ok granted]
  rfl

/-- A session that was inserted has no window, and has been neither opened nor closed. -/
theorem createResolved_tracked {caller : Caller} {payload : CreatePayload}
    {branch organization : String} {group : Option String} {drawn : String}
    {before created : Stage} {reply : StatusReply} (absent : before.sessions drawn = none)
    (made : createResolved settings answer caller payload branch organization group drawn true
      before = .ok reply created) :
    ∃ row, Tracked drawn graceSeconds { stage := created, clock := caller.time } row := by
  obtain ⟨_, _, granted, _⟩ := Exec.bind_ok made
  cases inScope : Permissions.assertBranchScope (some branch) caller.user caller.permissions with
  | error raised =>
    rw [inScope] at granted
    cases granted
  | ok _ =>
    rw [createResolved_run inScope] at made
    cases made
    refine ⟨newSessionRow payload branch organization group, ?_, rfl, rfl, ?_, ?_⟩
    · show Function.update before.sessions drawn _ drawn = _
      rw [Function.update_self, absent]
      rfl
    · rw [newSessionRow]
      cases (truthy payload.scheduledAt).isSome
      · exact ⟨rfl, rfl⟩
      · exact ⟨rfl, rfl⟩
    · intro _ closed began
      cases began

/-- A session that was created has no window, and has been neither opened nor closed. -/
theorem createSession_tracked {caller : Caller} {payload : CreatePayload} {drawn : String}
    {before created : Stage} {reply : StatusReply} (absent : before.sessions drawn = none)
    (made : createSession settings answer caller payload drawn true before = .ok reply created) :
    ∃ row, Tracked drawn graceSeconds { stage := created, clock := caller.time } row := by
  rw [createSession] at made
  cases known : caller.gatherings payload.gathering with
  | none =>
    rw [known] at made
    cases made
  | some gathering =>
    rw [known] at made
    dsimp only at made
    cases anchored : truthy ((truthy payload.branch).or gathering.branch) with
    | none =>
      rw [anchored] at made
      cases made
    | some branch =>
      cases owned : truthy ((truthy payload.organization).or gathering.organization) with
      | none =>
        rw [anchored, owned] at made
        cases made
      | some organization =>
        rw [anchored, owned] at made
        exact createResolved_tracked absent made

/-- A session is created through the API with a grace, and calls of anyone follow in the order
of their times. The grace is kept by every call exactly when no participation passes its checks
while the session is closing after the grace, none does at its last moment when the session is
closed, and nobody finalizes the closing session before it ends. -/
theorem closing_grace_iff (settings : Settings) (answer : BulkAnswer) (caller : Caller)
    (payload : CreatePayload) (drawn : String) (before created : Stage) (reply : StatusReply)
    (absent : before.sessions drawn = none)
    (made : createSession settings answer caller payload drawn true before = .ok reply created)
    (calls : List Received)
    (inOrder : EveryCall (Timeline.perform settings answer drawn) InOrder
      { stage := created, clock := caller.time } calls) :
    EveryCall (Timeline.perform settings answer drawn)
        (GraceLaw settings answer drawn payload.graceSeconds)
        { stage := created, clock := caller.time } calls ↔
      EveryCall (Timeline.perform settings answer drawn)
        (GraceMet settings answer drawn payload.graceSeconds)
        { stage := created, clock := caller.time } calls := by
  refine everyCall_congr_guarded
    (fun timeline => ∃ row, Tracked drawn payload.graceSeconds timeline row) ?_ ?_
    (createSession_tracked absent made) inOrder
  · intro timeline received known ordered law
    have ⟨_, tracked⟩ := known
    exact tracked.step ordered law
  · intro timeline received known ordered
    have ⟨_, tracked⟩ := known
    exact tracked.law_iff ordered

end Facts

/-- Ann's ticket as her phone sends it. -/
def annTicketPayload : TicketPayload where
  sessionId := some "ENG-1"
  attendeeKey := some annKey
  memberId := some "ann"
  deviceFingerprint := some "phone"
  issuedAt := some 100
  expiresAt := some 3700
  signature := some annTicket.signature

/-- Ann takes part. -/
def annPlay : ApiCall :=
  .participate
    { sessionId := "ENG-1"
      ticket := annTicketPayload
      attendeeKey := annKey
      nonce := "1"
      memberId := some "ann"
      attendeeDisplayName := "Ann"
      deviceFingerprint := "phone" }

/-- A user at a time; the host is an organization admin. -/
def userAt (user : String) (time : Rat) : Caller where
  time := time
  user := user
  permissions :=
    { getUserRoles := fun user => if user = "host" then [Permissions.roleOrgAdmin] else []
      listBranchUserPermissions := fun _ => [] }
  gatherings := fun name =>
    if name = "camp" then some { branch := some "north", organization := some "flock" } else none

/-- A night with a grace of a minute. -/
def nightPayload : CreatePayload where
  gathering := "camp"
  kind := .tapBurst
  graceSeconds := 60

/-- The site after the night was created. -/
def nightCreated : Stage :=
  insertSession {} "ENG-1" (newSessionRow nightPayload "north" "flock" none)

/-- The night was created. -/
theorem nightCreated_made :
    createSession sampleSettings insertsAll (userAt "host" 80) nightPayload "ENG-1" true {} =
      .ok ⟨"ENG-1", .draft⟩ nightCreated := by
  have inScope : Permissions.assertBranchScope (some "north") (userAt "host" 80).user
      (userAt "host" 80).permissions = .ok () := by
    decide +kernel
  exact createResolved_run inScope nightPayload "flock" none "ENG-1" {}

/-- The host opens the night at 90 and closes it at 200, and then calls follow. -/
def nightWith (during after : List Received) : List Received :=
  (userAt "host" 90, .openSession "ENG-1") :: during ++
    (userAt "host" 200, .closeSession "ENG-1") :: after

/-- Ann plays in the night, and the worker finalizes when the minute is over. -/
def patientNight : List Received :=
  nightWith [(userAt "ann" 101, annPlay)] [(userAt "worker" 260, .finalizeClose "ENG-1")]

/-- The grace of the night is kept. -/
theorem closing_grace_iff_night :
    EveryCall (Timeline.perform sampleSettings insertsAll "ENG-1")
      (GraceLaw sampleSettings insertsAll "ENG-1" 60) { stage := nightCreated, clock := 80 }
      patientNight := by
  refine (closing_grace_iff sampleSettings insertsAll (userAt "host" 80) nightPayload "ENG-1" {}
    nightCreated _ rfl nightCreated_made patientNight (by decide +kernel)).mpr ?_
  refine ⟨⟨fun _ => ?_, fun _ => ?_, nofun⟩, ⟨?_, ?_, nofun⟩, ⟨fun _ => ?_, fun _ => ?_, nofun⟩,
    ⟨fun _ => ?_, fun _ => ?_, ?_⟩, trivial⟩
  · nofun
  · nofun
  · intro _ _ _ _ closing
    exact absurd closing (by decide +kernel)
  · intro _ _ _ _ closed
    exact absurd closed (by decide +kernel)
  · nofun
  · nofun
  · nofun
  · nofun
  · intro _ _ closed began
    have known : (runAll (Timeline.perform sampleSettings insertsAll "ENG-1")
        { stage := nightCreated, clock := 80 }
        (nightWith [(userAt "ann" 101, annPlay)] [])).closedAt = some 200 := by
      decide +kernel
    have same : some (200 : Rat) = some closed := known.symm.trans began
    cases same
    show (200 : Rat) + ((60 : Int) : Rat) ≤ 260
    norm_num

/-- The job is to run when the half minute of the service is over. -/
def hastyNight : List Received :=
  nightWith [] [(userAt "worker" 230, .finalizeClose "ENG-1"), (userAt "ann" 240, annPlay)]

/-- Ann plays after the minute, and nobody has finalized yet. -/
def lateNight : List Received :=
  nightWith [] [(userAt "ann" 300, annPlay)]

/-- The job of the close closes the session inside its grace, where Ann is then refused; and
without a finalize she is accepted without a flag after the grace. -/
theorem grace_cut_short_and_overrun :
    ¬ EveryCall (Timeline.perform sampleSettings insertsAll "ENG-1")
        (GraceLaw sampleSettings insertsAll "ENG-1" 60) { stage := nightCreated, clock := 80 }
        hastyNight ∧
      ¬ EveryCall (Timeline.perform sampleSettings insertsAll "ENG-1")
        (GraceLaw sampleSettings insertsAll "ENG-1" 60) { stage := nightCreated, clock := 80 }
        lateNight ∧
      (runAll (Timeline.perform sampleSettings insertsAll "ENG-1")
        { stage := nightCreated, clock := 80 } (nightWith [] [])).stage.jobs =
        [("ENG-1", 230)] := by
  have known : (runAll (Timeline.perform sampleSettings insertsAll "ENG-1")
      { stage := nightCreated, clock := 80 } (nightWith [] [])).closedAt = some 200 := by
    decide +kernel
  refine ⟨?_, ?_, by decide +kernel⟩
  · intro every
    have law := every.2.2.1
    have ⟨closed, began, past⟩ := law.dwell (by decide +kernel) (by decide +kernel)
    have same : some (200 : Rat) = some closed := known.symm.trans began
    cases same
    exact absurd past (by decide +kernel)
  · intro every
    have law := every.2.2.1
    have window := law.window (annRequest "ENG-1", _) List.mem_cons_self rfl
    have credited : creditedAt sampleSettings insertsAll 300 (annRequest "ENG-1",
        (runAll (Timeline.perform sampleSettings insertsAll "ENG-1")
          { stage := nightCreated, clock := 80 } (nightWith [] [])).stage) = true := by
      decide +kernel
    exact absurd ((window.mp credited).2.2 200 known) (by decide +kernel)

end FlockOs.EngagementApi
