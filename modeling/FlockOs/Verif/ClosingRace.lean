import FlockOs.Verif.EngagementRun
import FlockOs.Verif.StageStep

/-!
# The closing race

Participations and finalizes of one session whose steps come in any order. A row that is
appended after the last batch was read is credited by nobody, and two finalizes that both read
the session before either has written publish twice.
-/

namespace FlockOs.EngagementStage

open Lib Reporting Engagement

namespace Race

/-- The session is closed, and every finalize that has tested the status has handed its batch
over. -/
def Settled (sessionId : String) (race : Race) : Prop :=
  race.stage.statusOf sessionId = some .closed ∧
    ∀ id, race.closers id ≠ some .toWrite ∧ race.closers id ≠ some .toSubmit

/-- A batch has the attendee of the session. -/
def Covered (sessionId : String) (race : Race) (key : String) : Prop :=
  ∃ items ∈ race.stage.submitted, ∃ item ∈ items,
    item.engagementSession = some sessionId ∧ item.attendeeKey = some key

/-- Once the race is settled, every participation that was accepted in the window is in a
batch. -/
def NoLoss (sessionId : String) (race : Race) : Prop :=
  race.Settled sessionId → ∀ answer ∈ race.answered, answer.1.sessionId = sessionId →
    countsFor answer = true → race.Covered sessionId answer.1.attendeeKey

/-- The event says that the session is closed. -/
def closes (sessionId : String) (event : DomainEvent) : Bool :=
  event.name == Events.engagementSessionClosed &&
    decide (("session", Value.str sessionId) ∈ event.payload)

/-- How many events have said that the session is closed. -/
def emissions (sessionId : String) (race : Race) : Nat :=
  race.stage.publishedEvents.countP (closes sessionId)

/-- The session was published as closed at most once. -/
def EmitsOnce (sessionId : String) (race : Race) : Prop :=
  race.emissions sessionId ≤ 1

/-- An in-window row with a fresh nonce is appended before the race is settled, or is of an
attendee who is in a batch already. -/
def InTime (sessionId : String) (race : Race) : RaceStep → Prop
  | .append id => ∀ request row, race.players id = some (request, row) →
      request.sessionId = sessionId → row.statusFlags.outOfScope = false →
      race.stage.fresh row = true → race.Settled sessionId →
      race.Covered sessionId row.attendeeKey
  | _ => True

/-- A finalize reads a session that is not closed only while no other has still to write. -/
def Alone (sessionId : String) (race : Race) : RaceStep → Prop
  | .read _ => race.stage.statusOf sessionId ≠ some .closed →
      ∀ other, race.closers other ≠ some .toWrite
  | _ => True

/-- No call is in progress, nothing is answered, the log holds rows of the session, and no
event has said that it is closed. -/
structure Quiet (sessionId : String) (race : Race) : Prop where
  /-- No participation. -/
  players : ∀ id, race.players id = none
  /-- No finalize. -/
  closers : ∀ id, race.closers id = none
  /-- No answer. -/
  answered : race.answered = []
  /-- The log. -/
  own : ∀ row ∈ race.stage.log sessionId, row.sessionId = sessionId
  /-- No event. -/
  silent : race.emissions sessionId = 0

section Frame

variable (race : Race) (stage : Stage) (id : Nat) (request : ParticipateRequest)
  (receipt : ParticipationReceipt) (player : Option (ParticipateRequest × Participation))
  (closer : Option Closer)

@[simp] theorem atStage_stage : (race.atStage stage).stage = stage := rfl
@[simp] theorem atStage_players : (race.atStage stage).players = race.players := rfl
@[simp] theorem atStage_closers : (race.atStage stage).closers = race.closers := rfl
@[simp] theorem atStage_answered : (race.atStage stage).answered = race.answered := rfl
@[simp] theorem answer_stage : (race.answer request receipt).stage = race.stage := rfl
@[simp] theorem answer_players : (race.answer request receipt).players = race.players := rfl
@[simp] theorem answer_closers : (race.answer request receipt).closers = race.closers := rfl
@[simp] theorem answer_answered :
    (race.answer request receipt).answered = race.answered ++ [(request, receipt)] := rfl
@[simp] theorem setPlayer_stage : (race.setPlayer id player).stage = race.stage := rfl
@[simp] theorem setPlayer_players :
    (race.setPlayer id player).players = Function.update race.players id player := rfl
@[simp] theorem setPlayer_closers : (race.setPlayer id player).closers = race.closers := rfl
@[simp] theorem setPlayer_answered : (race.setPlayer id player).answered = race.answered := rfl
@[simp] theorem setCloser_stage : (race.setCloser id closer).stage = race.stage := rfl
@[simp] theorem setCloser_players : (race.setCloser id closer).players = race.players := rfl
@[simp] theorem setCloser_closers :
    (race.setCloser id closer).closers = Function.update race.closers id closer := rfl
@[simp] theorem setCloser_answered : (race.setCloser id closer).answered = race.answered := rfl

end Frame

/-- A row carries the session and the attendee of its request. -/
structure RowOf (request : ParticipateRequest) (row : Participation) : Prop where
  session : row.sessionId = request.sessionId
  key : row.attendeeKey = request.attendeeKey

/-- What a step of a race does. -/
inductive Stepped (sessionId : String) (race : Race) :
    RaceStep → Race → Prop
  /-- Nothing happens. -/
  | idle (step : RaceStep) (nothing : ∀ id, step = .append id → race.players id = none) :
      Stepped sessionId race step race
  /-- A participation is refused. -/
  | refused (id : Nat) (time : Rat) (request : ParticipateRequest)
      (receipt : ParticipationReceipt) (buckets : String → List Rat)
      (rejected : receipt.accepted = false) :
      Stepped sessionId race (.decide id time request)
        ((race.atStage (race.stage.withThrottle buckets)).answer request receipt)
  /-- A participation has a row to append. -/
  | ready (id : Nat) (time : Rat) (request : ParticipateRequest) (row : Participation)
      (buckets : String → List Rat) (own : RowOf request row) :
      Stepped sessionId race (.decide id time request)
        ((race.atStage (race.stage.withThrottle buckets)).setPlayer id (some (request, row)))
  /-- A row with a known nonce is not appended. -/
  | replayed (id : Nat) (request : ParticipateRequest) (row : Participation)
      (pending : race.players id = some (request, row)) (known : race.stage.fresh row = false) :
      Stepped sessionId race (.append id)
        ((race.setPlayer id none).answer request (receiptOf request row false))
  /-- A row is appended. -/
  | appended (id : Nat) (request : ParticipateRequest) (row : Participation)
      (pending : race.players id = some (request, row)) (fresh : race.stage.fresh row = true) :
      Stepped sessionId race (.append id)
        (((race.atStage (race.stage.append row)).setPlayer id none).answer request
          (receiptOf request row true))
  /-- A finalize has read that the session is closing. -/
  | tested (id : Nat) (free : race.closers id = none)
      (closing : race.stage.statusOf sessionId = some .closing) :
      Stepped sessionId race (.read id) (race.setCloser id (some .toWrite))
  /-- A finalize has written that the session is closed. -/
  | written (id : Nat) (waiting : race.closers id = some .toWrite) :
      Stepped sessionId race (.write id)
        ((race.atStage (race.stage.setSessionStatus sessionId .closed none)).setCloser id
          (some .toSubmit))
  /-- A finalize no longer finds its session. -/
  | missed (id : Nat) (waiting : race.closers id = some .toSubmit)
      (absent : race.stage.sessions sessionId = none) :
      Stepped sessionId race (.submit id) (race.setCloser id none)
  /-- A finalize has handed the log over. -/
  | counted (id : Nat) (closed : EngagementSession) (outcome : CloseOutcome)
      (waiting : race.closers id = some .toSubmit) :
      Stepped sessionId race (.submit id)
        ((race.atStage (race.stage.handed (race.stage.projection sessionId))).setCloser id
          (some (.toEmit closed outcome)))
  /-- A finalize has published. -/
  | published (id : Nat) (closed : EngagementSession) (outcome : CloseOutcome)
      (waiting : race.closers id = some (.toEmit closed outcome)) :
      Stepped sessionId race (.emit id)
        ((race.atStage (race.stage.publish
          (closedEvent closed outcome.attendeeCount))).setCloser id none)

variable {settings : Settings} {answers : BulkAnswer} {sessionId : String} {race : Race}

/-- The row of a request past the gate is of the request. -/
theorem rowOf_stageRow {time : Rat} {request : ParticipateRequest} {session : EngagementSession}
    (passed : stageGate settings time request race.stage = .ok (.ok session)) :
    RowOf request (stageRow settings time request race.stage session) where
  session := getSession_sessionId (stageGate_ok passed).1
  key := rfl

/-- A decision refuses the request, or has its row. -/
theorem decide_cases (id : Nat) (time : Rat) (request : ParticipateRequest) :
    Stepped sessionId race (.decide id time request)
      (race.decided id request
        ((stageService settings answers time).participateDecide time request race.stage)) := by
  rw [participateDecide_run]
  cases passed : stageGate settings time request race.stage with
  | error raised => exact .idle _ nofun
  | ok verdict =>
    cases verdict with
    | error reason => exact .refused id time request _ race.stage.throttle rfl
    | ok session =>
      show Stepped _ _ _ (race.decided id request
        (.ok (decisionOf settings time request race.stage session) _))
      rw [throttling_stage, decisionOf]
      cases (throttling settings time request race.stage).1 with
      | false => exact .refused id time request _ _ rfl
      | true => exact .ready id time request _ _ (rowOf_stageRow passed)

/-- An append adds the pending row unless its nonce is known. -/
theorem append_cases {id : Nat} {request : ParticipateRequest} {row : Participation}
    (pending : race.players id = some (request, row)) :
    Stepped sessionId race (.append id)
      (race.appended id request
        ((service settings answers).participateAppend request row race.stage)) := by
  rw [service, participateAppend_run]
  cases fresh : race.stage.fresh row with
  | false => exact .replayed id request row pending fresh
  | true => exact .appended id request row pending fresh

/-- A test goes on when the session is closing. -/
theorem read_cases {id : Nat} (free : race.closers id = none) :
    Stepped sessionId race (.read id)
      (race.tested id ((service settings answers).finalizeRead sessionId race.stage)) := by
  rw [service, finalizeRead_run]
  cases found : race.stage.sessions sessionId with
  | none => exact .idle _ nofun
  | some row =>
    dsimp only
    split
    · exact .idle _ nofun
    · rw [validateStateTransition_closed]
      by_cases closing : row.status = .closing
      · rw [if_pos closing]
        refine .tested id free ?_
        rw [Stage.statusOf, found, Option.map_some, closing]
      · rw [if_neg closing]
        exact .idle _ nofun

/-- What a step does. -/
theorem step_cases (step : RaceStep) :
    Stepped sessionId race step (race.step settings answers sessionId step) := by
  cases step with
  | decide id time request =>
    rw [Race.step]
    cases race.players id with
    | some player => exact .idle _ nofun
    | none => exact decide_cases id time request
  | append id =>
    rw [Race.step]
    cases pending : race.players id with
    | none =>
      refine .idle _ fun other same => ?_
      cases same
      exact pending
    | some player => exact append_cases pending
  | read id =>
    rw [Race.step]
    cases free : race.closers id with
    | some closer => exact .idle _ nofun
    | none => exact read_cases free
  | write id =>
    rw [Race.step]
    split
    · rename_i waiting
      exact .written id waiting
    · exact .idle _ nofun
  | submit id =>
    rw [Race.step]
    split
    · rename_i waiting
      rw [service, finalizeSubmit_run]
      cases absent : race.stage.sessions sessionId with
      | none => exact .missed id waiting absent
      | some row => exact .counted id _ _ waiting
    · exact .idle _ nofun
  | emit id =>
    rw [Race.step]
    split
    · rename_i closed outcome waiting
      exact .published id closed outcome waiting
    · exact .idle _ nofun

/-- The log holds rows of the session, pending rows are of their requests, and every
participation that was accepted in the window has a row. -/
structure Logged (sessionId : String) (race : Race) : Prop where
  /-- The log. -/
  own : ∀ row ∈ race.stage.log sessionId, row.sessionId = sessionId
  /-- Pending rows. -/
  pending : ∀ id request row, race.players id = some (request, row) → RowOf request row
  /-- Accepted participations. -/
  rows : ∀ answer ∈ race.answered, answer.1.sessionId = sessionId → countsFor answer = true →
    ∃ row ∈ race.stage.log sessionId,
      row.attendeeKey = answer.1.attendeeKey ∧ row.statusFlags.outOfScope = false

/-- Under a number that has been replaced stands what was put there or what stood there. -/
theorem update_some {α : Type} {table : Nat → Option α} {id other : Nat} {put : Option α}
    {entry : α} (found : Function.update table id put other = some entry) :
    put = some entry ∨ table other = some entry := by
  by_cases same : other = id
  · rw [same, Function.update_self] at found
    exact .inl found
  · rw [Function.update_of_ne same] at found
    exact .inr found

/-- Other calls of the race have no part in what the log holds. -/
theorem Logged.frame {next : Race} (logged : race.Logged sessionId)
    (log : next.stage.log = race.stage.log) (players : next.players = race.players)
    (answered : next.answered = race.answered) : next.Logged sessionId where
  own := by
    rw [log]
    exact logged.own
  pending := by
    rw [players]
    exact logged.pending
  rows := by
    rw [log, answered]
    exact logged.rows

/-- An answer that does not count needs no row. -/
theorem Logged.answer {request : ParticipateRequest} {receipt : ParticipationReceipt}
    (logged : race.Logged sessionId)
    (row : request.sessionId = sessionId → countsFor (request, receipt) = true →
      ∃ row ∈ race.stage.log sessionId,
        row.attendeeKey = request.attendeeKey ∧ row.statusFlags.outOfScope = false) :
    (race.answer request receipt).Logged sessionId where
  own := logged.own
  pending := logged.pending
  rows answer member := by
    rw [answer_answered, List.mem_append, List.mem_singleton] at member
    cases member with
    | inl earlier => exact logged.rows answer earlier
    | inr last =>
      rw [last]
      exact row

/-- A participation that goes on or ends leaves the rest pending. -/
theorem Logged.setPlayer {id : Nat} {player : Option (ParticipateRequest × Participation)}
    (logged : race.Logged sessionId)
    (own : ∀ request row, player = some (request, row) → RowOf request row) :
    (race.setPlayer id player).Logged sessionId where
  own := logged.own
  pending other request row found := by
    cases update_some found with
    | inl put => exact own request row put
    | inr stood => exact logged.pending other request row stood
  rows := logged.rows

/-- An append keeps the log. -/
theorem Logged.append {row : Participation} (logged : race.Logged sessionId) :
    (race.atStage (race.stage.append row)).Logged sessionId where
  own other member := by
    cases mem_append_log.mp member with
    | inl added => rw [added.2, ← added.1]
    | inr stood => exact logged.own other stood
  pending := logged.pending
  rows answer member onSession counts := by
    obtain ⟨other, stood, same⟩ := logged.rows answer member onSession counts
    exact ⟨other, mem_append_log.mpr (.inr stood), same⟩

/-- Every step keeps what the log holds. -/
theorem Logged.step {step : RaceStep} {next : Race} (logged : race.Logged sessionId)
    (stepped : Stepped sessionId race step next) : next.Logged sessionId := by
  cases stepped with
  | idle _ _ => exact logged
  | refused id time request receipt buckets rejected =>
    refine Logged.answer (logged.frame rfl rfl rfl) fun _ counts => ?_
    rw [not_countsFor rejected] at counts
    cases counts
  | ready id time request row buckets own =>
    refine Logged.setPlayer (logged.frame rfl rfl rfl) fun other pending same => ?_
    cases same
    exact own
  | replayed id request row pending known =>
    have cleared : (race.setPlayer id none).Logged sessionId :=
      logged.setPlayer fun _ _ nothing => by cases nothing
    refine cleared.answer fun _ counts => ?_
    rw [not_countsFor rfl] at counts
    cases counts
  | appended id request row pending fresh =>
    have cleared : ((race.atStage (race.stage.append row)).setPlayer id none).Logged sessionId :=
      logged.append.setPlayer fun _ _ nothing => by cases nothing
    refine cleared.answer fun onSession counts => ?_
    have own := logged.pending id request row pending
    rw [countsFor_receiptOf, Bool.not_eq_true'] at counts
    exact ⟨row, mem_append_log.mpr (.inl ⟨(own.session.trans onSession).symm, rfl⟩), own.key,
      counts⟩
  | tested id _ _ => exact logged.frame rfl rfl rfl
  | written id _ => exact logged.frame rfl rfl rfl
  | missed id _ _ => exact logged.frame rfl rfl rfl
  | counted id _ _ _ => exact logged.frame rfl rfl rfl
  | published id _ _ _ => exact logged.frame rfl rfl rfl

/-- A batch of the log has every participation that was accepted in the window. -/
theorem Logged.covered {items : List AttendanceItem} {stage : Stage}
    (logged : race.Logged sessionId) (batch : items ∈ stage.submitted)
    (whole : items = race.stage.projection sessionId)
    {answer : ParticipateRequest × ParticipationReceipt} (member : answer ∈ race.answered)
    (onSession : answer.1.sessionId = sessionId) (counts : countsFor answer = true) :
    (race.atStage stage).Covered sessionId answer.1.attendeeKey := by
  obtain ⟨row, stands, key, inWindow⟩ := logged.rows answer member onSession counts
  have credited : row ∈ (race.stage.log sessionId).filter fun row =>
      !row.statusFlags.outOfScope := by
    rw [List.mem_filter, inWindow]
    exact ⟨stands, rfl⟩
  obtain ⟨first, kept, same⟩ := exists_mem_firstPerKey (·.attendeeKey) credited
  have offered : first ∈ race.stage.log sessionId :=
    (List.mem_filter.mp (mem_of_mem_firstPerKey kept)).1
  refine ⟨items, batch, participationToAttendanceItem first, ?_, ?_, ?_⟩
  · rw [whole]
    exact List.mem_map_of_mem kept
  · exact congrArg some (logged.own first offered)
  · exact congrArg some (same.trans key)

/-- Where no more is settled or answered and no batch is taken back, no credit gets lost. -/
theorem NoLoss.frame {next : Race} (kept : race.NoLoss sessionId)
    (settled : next.Settled sessionId → race.Settled sessionId)
    (batches : ∀ items ∈ race.stage.submitted, items ∈ next.stage.submitted)
    (answered : ∀ answer ∈ next.answered, countsFor answer = true → answer ∈ race.answered) :
    next.NoLoss sessionId := by
  intro done answer member onSession counts
  obtain ⟨items, batch, covers⟩ := kept (settled done) answer (answered answer member counts)
    onSession counts
  exact ⟨items, batches items batch, covers⟩

/-- A new answer that does not count is not among those that do. -/
theorem mem_answered {request : ParticipateRequest} {receipt : ParticipationReceipt}
    (rejected : receipt.accepted = false)
    {answer : ParticipateRequest × ParticipationReceipt}
    (member : answer ∈ race.answered ++ [(request, receipt)]) (counts : countsFor answer = true) :
    answer ∈ race.answered := by
  rw [List.mem_append, List.mem_singleton] at member
  cases member with
  | inl earlier => exact earlier
  | inr last =>
    rw [last, not_countsFor rejected] at counts
    cases counts

/-- An append keeps the law exactly when it comes in time. -/
theorem noLoss_append_iff {id : Nat} {request : ParticipateRequest} {row : Participation}
    (logged : race.Logged sessionId) (kept : race.NoLoss sessionId)
    (pending : race.players id = some (request, row)) (fresh : race.stage.fresh row = true) :
    (((race.atStage (race.stage.append row)).setPlayer id none).answer request
        (receiptOf request row true)).NoLoss sessionId ↔
      race.InTime sessionId (.append id) := by
  have own := logged.pending id request row pending
  constructor
  · intro safe other row' found onSession inWindow _ settled
    rw [pending] at found
    cases found
    rw [own.key]
    refine safe settled (request, receiptOf request row true) ?_ onSession ?_
    · exact List.mem_append_right _ (List.mem_singleton_self _)
    · rw [countsFor_receiptOf, inWindow]
      rfl
  · intro inTime settled answer member onSession counts
    rw [answer_answered, List.mem_append, List.mem_singleton] at member
    cases member with
    | inl earlier => exact kept settled answer earlier onSession counts
    | inr last =>
      rw [last] at onSession counts ⊢
      rw [countsFor_receiptOf, Bool.not_eq_true'] at counts
      have covered := inTime request row pending onSession counts fresh settled
      rw [own.key] at covered
      exact covered

/-- A step keeps the law exactly when it is no append that comes too late. -/
theorem noLoss_step_iff {step : RaceStep} {next : Race} (logged : race.Logged sessionId)
    (kept : race.NoLoss sessionId) (stepped : Stepped sessionId race step next) :
    next.NoLoss sessionId ↔ race.InTime sessionId step := by
  cases stepped with
  | idle _ nothing =>
    refine iff_of_true kept ?_
    cases step with
    | append id =>
      intro request row pending
      rw [nothing id rfl] at pending
      cases pending
    | _ => trivial
  | refused id time request receipt buckets rejected =>
    exact iff_of_true (kept.frame (fun settled => settled) (fun _ batch => batch)
      fun _ => mem_answered rejected) trivial
  | ready id time request row buckets own =>
    exact iff_of_true (kept.frame (fun settled => settled) (fun _ batch => batch)
      fun _ member _ => member) trivial
  | replayed id request row pending known =>
    refine iff_of_true (kept.frame (fun settled => settled) (fun _ batch => batch)
      fun _ => mem_answered rfl) ?_
    intro other row' found _ _ fresh
    rw [pending] at found
    cases found
    rw [known] at fresh
    cases fresh
  | appended id request row pending fresh => exact noLoss_append_iff logged kept pending fresh
  | tested id free closing =>
    refine iff_of_true (fun settled => ?_) trivial
    have both := settled.1
    rw [setCloser_stage, closing] at both
    cases both
  | written id waiting =>
    refine iff_of_true (fun settled => ?_) trivial
    have none := (settled.2 id).2
    rw [setCloser_closers, Function.update_self] at none
    exact absurd rfl none
  | missed id waiting absent =>
    refine iff_of_true (fun settled => ?_) trivial
    have found := settled.1
    rw [setCloser_stage, Stage.statusOf, absent] at found
    cases found
  | counted id closed outcome waiting =>
    refine iff_of_true (fun _ answer member onSession counts => ?_) trivial
    have handed : race.stage.projection sessionId ∈
        (race.stage.handed (race.stage.projection sessionId)).submitted :=
      List.mem_append_right _ (List.mem_singleton_self _)
    exact logged.covered handed rfl member onSession counts
  | published id closed outcome waiting =>
    refine iff_of_true (kept.frame (fun settled => ⟨settled.1, fun other => ?_⟩)
      (fun _ batch => batch) fun _ member _ => member) trivial
    have before := settled.2 other
    rw [setCloser_closers] at before
    by_cases same : other = id
    · rw [same, waiting]
      exact ⟨(by rintro ⟨⟩), (by rintro ⟨⟩)⟩
    · rw [Function.update_of_ne same] at before
      exact before

/-- While the session is not closed every finalize has still to write. At most one finalize is
under way, and none has published before it. -/
structure Exclusive (sessionId : String) (race : Race) : Prop where
  /-- Before the session is closed. -/
  waiting : race.stage.statusOf sessionId ≠ some .closed → ∀ id closer,
    race.closers id = some closer → closer = .toWrite
  /-- One finalize. -/
  one : ∀ id other, race.closers id ≠ none → race.closers other ≠ none → id = other
  /-- The session is there. -/
  found : ∀ id, race.closers id ≠ none → race.stage.statusOf sessionId ≠ none
  /-- No event while a finalize is under way or may still start. -/
  silent : (race.stage.statusOf sessionId ≠ some .closed ∨ ∃ id, race.closers id ≠ none) →
    race.emissions sessionId = 0
  /-- One event. -/
  once : race.emissions sessionId ≤ 1

/-- What leaves the session, the finalizes and the events alone keeps the invariant. -/
theorem Exclusive.frame {next : Race} (exclusive : race.Exclusive sessionId)
    (sessions : next.stage.sessions = race.stage.sessions)
    (closers : next.closers = race.closers)
    (events : next.stage.publishedEvents = race.stage.publishedEvents) :
    next.Exclusive sessionId := by
  have status : next.stage.statusOf sessionId = race.stage.statusOf sessionId := by
    rw [Stage.statusOf, Stage.statusOf, sessions]
  have count : next.emissions sessionId = race.emissions sessionId := by
    rw [emissions, emissions, events]
  constructor
  · rw [status, closers]
    exact exclusive.waiting
  · rw [closers]
    exact exclusive.one
  · rw [status, closers]
    exact exclusive.found
  · rw [status, closers, count]
    exact exclusive.silent
  · rw [count]
    exact exclusive.once

/-- A finalize that starts is the only one. -/
theorem Exclusive.tested {id : Nat} (exclusive : race.Exclusive sessionId)
    (closing : race.stage.statusOf sessionId = some .closing)
    (alone : ∀ other, race.closers other ≠ some .toWrite) :
    (race.setCloser id (some .toWrite)).Exclusive sessionId := by
  have unclosed : race.stage.statusOf sessionId ≠ some .closed := by
    rw [closing]
    nofun
  have nobody (other : Nat) : race.closers other = none := by
    cases under : race.closers other with
    | none => rfl
    | some closer =>
      have writes := exclusive.waiting unclosed other closer under
      rw [writes] at under
      exact absurd under (alone other)
  have itself {other : Nat} (busy : (race.setCloser id (some .toWrite)).closers other ≠ none) :
      other = id := by
    by_contra different
    rw [setCloser_closers, Function.update_of_ne different] at busy
    exact busy (nobody other)
  constructor
  · intro _ other closer under
    rw [itself (Option.ne_none_iff_exists'.mpr ⟨closer, under⟩), setCloser_closers,
      Function.update_self] at under
    exact (Option.some.inj under).symm
  · intro first second busy busy'
    rw [itself busy, itself busy']
  · intro _ _
    rw [setCloser_stage, closing]
    nofun
  · intro _
    exact exclusive.silent (.inl unclosed)
  · exact exclusive.once

/-- A finalize that goes on remains the only one. -/
theorem Exclusive.advance {next : Race} {id : Nat} {closer : Closer} {closer' : Option Closer}
    (exclusive : race.Exclusive sessionId) (under : race.closers id = some closer)
    (closers : next.closers = Function.update race.closers id closer')
    (closed : next.stage.statusOf sessionId = some .closed)
    (silent : closer' ≠ none → next.emissions sessionId = race.emissions sessionId)
    (once : next.emissions sessionId ≤ race.emissions sessionId + 1) :
    next.Exclusive sessionId := by
  have busy : race.closers id ≠ none := by
    rw [under]
    nofun
  have before : race.emissions sessionId = 0 := exclusive.silent (.inr ⟨id, busy⟩)
  have itself {other : Nat} (goesOn : next.closers other ≠ none) : other = id := by
    by_contra different
    rw [closers, Function.update_of_ne different] at goesOn
    exact different (exclusive.one other id goesOn busy)
  constructor
  · intro unclosed
    exact absurd closed unclosed
  · intro first second goesOn goesOn'
    rw [itself goesOn, itself goesOn']
  · intro _ _
    rw [closed]
    nofun
  · intro either
    cases either with
    | inl unclosed => exact absurd closed unclosed
    | inr still =>
      obtain ⟨other, goesOn⟩ := still
      have same := itself goesOn
      rw [closers, same, Function.update_self] at goesOn
      rw [silent goesOn, before]
  · rw [before] at once
    exact once

/-- A finalize past its write has the session closed. -/
theorem Exclusive.closed {id : Nat} {closer : Closer} (exclusive : race.Exclusive sessionId)
    (under : race.closers id = some closer) (written : closer ≠ .toWrite) :
    race.stage.statusOf sessionId = some .closed := by
  by_contra unclosed
  exact written (exclusive.waiting unclosed id closer under)

/-- A step that lets no second finalize in keeps the invariant. -/
theorem Exclusive.step {step : RaceStep} {next : Race} (exclusive : race.Exclusive sessionId)
    (alone : race.Alone sessionId step) (stepped : Stepped sessionId race step next) :
    next.Exclusive sessionId := by
  cases stepped with
  | idle _ _ => exact exclusive
  | refused id time request receipt buckets rejected => exact exclusive.frame rfl rfl rfl
  | ready id time request row buckets own => exact exclusive.frame rfl rfl rfl
  | replayed id request row pending known => exact exclusive.frame rfl rfl rfl
  | appended id request row pending fresh => exact exclusive.frame rfl rfl rfl
  | tested id free closing =>
    refine exclusive.tested closing (alone ?_)
    rw [closing]
    rintro ⟨⟩
  | written id waiting =>
    refine exclusive.advance waiting rfl ?_ (fun _ => rfl) (Nat.le_succ _)
    have there : race.stage.statusOf sessionId ≠ none :=
      exclusive.found id (by rw [waiting]; rintro ⟨⟩)
    obtain ⟨status, found⟩ := Option.ne_none_iff_exists'.mp there
    rw [setCloser_stage, atStage_stage, statusOf_setSessionStatus_self, found, Option.map_some]
  | missed id waiting absent =>
    have closed := exclusive.closed waiting (by rintro ⟨⟩)
    rw [Stage.statusOf, absent] at closed
    cases closed
  | counted id closed outcome waiting =>
    exact exclusive.advance waiting rfl (exclusive.closed waiting (by rintro ⟨⟩)) (fun _ => rfl)
      (Nat.le_succ _)
  | published id closed outcome waiting =>
    refine exclusive.advance waiting rfl (exclusive.closed waiting (by rintro ⟨⟩))
      (fun no => absurd rfl no)
      ?_
    show (race.stage.publishedEvents ++ [_]).countP (closes sessionId) ≤ _
    rw [List.countP_append]
    exact Nat.add_le_add_left List.countP_le_length _

/-- Before the first step the log is as it should be. -/
theorem Quiet.logged (quiet : race.Quiet sessionId) : race.Logged sessionId where
  own := quiet.own
  pending id request row found := by
    rw [quiet.players id] at found
    cases found
  rows answer member := by
    rw [quiet.answered] at member
    cases member

/-- Before the first step nothing can be lost. -/
theorem Quiet.noLoss (quiet : race.Quiet sessionId) : race.NoLoss sessionId := by
  intro _ answer member
  rw [quiet.answered] at member
  cases member

/-- Before the first step no finalize is under way. -/
theorem Quiet.exclusive (quiet : race.Quiet sessionId) : race.Exclusive sessionId where
  waiting _ id closer under := by
    rw [quiet.closers id] at under
    cases under
  one id _ busy _ := absurd (quiet.closers id) busy
  found id busy := absurd (quiet.closers id) busy
  silent _ := quiet.silent
  once := by
    rw [quiet.silent]
    exact Nat.zero_le 1

/-- Participations and finalizes of a session overlap in any way. No accepted credit is lost
exactly when no in-window row of an attendee without a credit is appended after the race is
settled; and the session is published as closed at most once when no finalize reads it before
it is closed while another has still to write. -/
theorem closing_race (settings : Settings) (answers : BulkAnswer) (sessionId : String)
    (start : Race) (quiet : start.Quiet sessionId) (steps : List RaceStep) :
    (EveryState (Race.step settings answers sessionId) (Race.NoLoss sessionId) start steps ↔
      EveryCall (Race.step settings answers sessionId) (Race.InTime sessionId) start steps) ∧
    (EveryCall (Race.step settings answers sessionId) (Race.Alone sessionId) start steps →
      EveryState (Race.step settings answers sessionId) (Race.EmitsOnce sessionId) start steps) := by
  constructor
  · refine everyState_iff_everyCall (Race.Logged sessionId) ?_ ?_ quiet.logged quiet.noLoss
    · intro race step logged
      exact logged.step (step_cases step)
    · intro race step logged kept
      exact noLoss_step_iff logged kept (step_cases step)
  · refine everyState_of_everyCall (Race.Exclusive sessionId) ?_ ?_ quiet.exclusive
    · intro race step exclusive alone
      exact exclusive.step alone (step_cases step)
    · intro race exclusive
      exact exclusive.once

/-- The finalize that a step belongs to. -/
def finalizeOf : RaceStep → Option Nat
  | .decide _ _ _ | .append _ => none
  | .read id | .write id | .submit id | .emit id => some id

/-- A step leaves the other finalizes where they are. -/
theorem Stepped.closers_other {step : RaceStep} {next : Race} {other : Nat}
    (stepped : Stepped sessionId race step next) (elsewhere : finalizeOf step ≠ some other) :
    next.closers other = race.closers other := by
  cases stepped with
  | idle _ _ => rfl
  | refused _ _ _ _ _ _ => rfl
  | ready _ _ _ _ _ _ => rfl
  | replayed _ _ _ _ _ => rfl
  | appended _ _ _ _ _ => rfl
  | tested id _ _ => exact Function.update_of_ne (fun same => elsewhere (congrArg some same.symm)) ..
  | written id _ => exact Function.update_of_ne (fun same => elsewhere (congrArg some same.symm)) ..
  | missed id _ _ => exact Function.update_of_ne (fun same => elsewhere (congrArg some same.symm)) ..
  | counted id _ _ _ =>
    exact Function.update_of_ne (fun same => elsewhere (congrArg some same.symm)) ..
  | published id _ _ _ =>
    exact Function.update_of_ne (fun same => elsewhere (congrArg some same.symm)) ..

/-- Steps leave the other finalizes where they are. -/
theorem runAll_closers_other {steps : List RaceStep} {start : Race} {other : Nat}
    (elsewhere : ∀ step ∈ steps, finalizeOf step ≠ some other) :
    (runAll (Race.step settings answers sessionId) start steps).closers other =
      start.closers other := by
  have every : EveryCall (Race.step settings answers sessionId)
      (fun _ step => finalizeOf step ≠ some other) start steps :=
    everyCall_of_forall start elsewhere
  refine runAll_guarded (fun race => race.closers other = start.closers other) ?_ steps start rfl
    every
  intro race step untouched apart
  exact (Stepped.closers_other (step_cases step) apart).trans untouched

/-- The camp is closing, and nobody has called yet. -/
def campRace : Race where
  stage :=
    { sessions := fun sessionId =>
        if sessionId = "ENG-1" then
          some
            { gathering := "camp"
              branch := "north"
              organization := "flock"
              kind := .tapBurst
              status := .closing }
        else none }

/-- Nobody has called yet. -/
theorem campRace_quiet : campRace.Quiet "ENG-1" where
  players _ := rfl
  closers _ := rfl
  answered := rfl
  own _ member := by cases member
  silent := rfl

/-- Ann's row is in the log before the finalize reads it. -/
def annInTime : List RaceStep :=
  [.decide 0 101 (annRequest "ENG-1"), .append 0, .read 1, .write 1, .submit 1, .emit 1]

/-- No credit is lost and the camp is published as closed once. -/
theorem closing_race_camp :
    EveryState (Race.step sampleSettings insertsAll "ENG-1") (Race.NoLoss "ENG-1") campRace
        annInTime ∧
      EveryState (Race.step sampleSettings insertsAll "ENG-1") (Race.EmitsOnce "ENG-1") campRace
        annInTime := by
  have ⟨noLoss, emitsOnce⟩ :=
    closing_race sampleSettings insertsAll "ENG-1" campRace campRace_quiet annInTime
  constructor
  · refine noLoss.mpr ⟨trivial, ?_, trivial, trivial, trivial, trivial, trivial⟩
    intro request row _ _ _ _ settled
    exact absurd settled.1 (by decide +kernel)
  · refine emitsOnce ⟨trivial, trivial, ?_, trivial, trivial, trivial, trivial⟩
    intro _ other
    have idle : (runAll (Race.step sampleSettings insertsAll "ENG-1") campRace
        [.decide 0 101 (annRequest "ENG-1"), .append 0]).closers other = none :=
      runAll_closers_other (by simp [finalizeOf])
    intro waiting
    exact absurd (idle.symm.trans waiting) nofun

/-- Ann decides before the finalize, and appends after it. -/
def annTooLate : List RaceStep :=
  [.decide 0 101 (annRequest "ENG-1"), .read 1, .write 1, .submit 1, .emit 1, .append 0]

/-- Two finalizes read the session before either writes. -/
def twoFinalizes : List RaceStep :=
  [.read 1, .read 2, .write 1, .write 2, .submit 1, .submit 2, .emit 1, .emit 2]

/-- Ann's participation is accepted in the window and credited by no batch; and two finalizes
publish twice. -/
theorem credit_lost_and_emitted_twice :
    ¬ EveryState (Race.step sampleSettings insertsAll "ENG-1") (Race.NoLoss "ENG-1") campRace
        annTooLate ∧
      ¬ EveryState (Race.step sampleSettings insertsAll "ENG-1") (Race.EmitsOnce "ENG-1") campRace
        twoFinalizes := by
  constructor
  · intro every
    have last := every.last
    have settled : (runAll (Race.step sampleSettings insertsAll "ENG-1") campRace
        annTooLate).Settled "ENG-1" := by
      refine ⟨by decide +kernel, fun id => ?_⟩
      by_cases same : id = 1
      · rw [same]
        decide +kernel
      · have idle : (runAll (Race.step sampleSettings insertsAll "ENG-1") campRace
            annTooLate).closers id = none :=
          runAll_closers_other (by simp [annTooLate, finalizeOf, Ne.symm same])
        rw [idle]
        exact ⟨nofun, nofun⟩
    have lost : ¬ ∃ items ∈ (runAll (Race.step sampleSettings insertsAll "ENG-1") campRace
        annTooLate).stage.submitted, items ≠ [] := by
      decide +kernel
    have accepted : ∃ answer ∈ (runAll (Race.step sampleSettings insertsAll "ENG-1") campRace
        annTooLate).answered, answer.1.sessionId = "ENG-1" ∧ countsFor answer = true := by
      decide +kernel
    have ⟨answer, member, onSession, counts⟩ := accepted
    have ⟨items, batch, item, credited, _⟩ := last settled answer member onSession counts
    exact lost ⟨items, batch, List.ne_nil_of_mem credited⟩
  · intro every
    have twice : ¬ (runAll (Race.step sampleSettings insertsAll "ENG-1") campRace
        twoFinalizes).EmitsOnce "ENG-1" := by
      show ¬ _ ≤ 1
      decide +kernel
    exact twice every.last

end Race

end FlockOs.EngagementStage
