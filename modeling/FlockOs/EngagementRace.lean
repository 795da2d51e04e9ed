import FlockOs.EngagementStage
import FlockOs.Lib.Runs

/-!
# Participations that overlap with a finalize

A participation reads its session and decides in one step, and appends its row in a later one.
A finalize reads the status, writes that the session is closed, reads the log and hands the
batch over, and publishes, in four steps. No lock is held in between, so the steps of any
number of calls on one session come in any order.
-/

namespace FlockOs.Engagement

open Lib Reporting

variable {σ : Type}

namespace EngagementService

variable (service : EngagementService σ)

/-- The decision on a request past the checks of the session and the ticket: a refusal, or the
row to append. -/
def decideInteraction (time : Rat) (session : EngagementSession) (request : ParticipateRequest) :
    Exec Error σ (Except ParticipationReceipt Participation) := do
  let submittedAt := request.submittedAt.getD time
  let window := validateSessionWindow session submittedAt service.graceSeconds
  let allowed ← service.gateway.throttleAllows (throttleKey request) submittedAt
    service.throttlePerSecond
  if !allowed then pure (.error (refused request .throttled))
  else do
    let count ← service.sameIp session request
    let suspect := detectSuspectPattern request.reactionMs count
    let flags := statusFlagsFor window suspect request.offlineReplay
    pure (.ok (participationOf session request submittedAt flags))

/-- `participate` up to its append. -/
def participateDecide (time : Rat) (request : ParticipateRequest) :
    Exec Error σ (Except ParticipationReceipt Participation) := do
  let session ← requireSession service.gateway.toSessionStore request.sessionId
  if !session.status.isLive then pure (.error (refused request .sessionNotLive))
  else do
    let secret ← service.gateway.ticketSecret session.organization
    let verified ← Exec.ofExcept (verifyTicket service.crypto request.ticket secret time)
    if !verified then pure (.error (refused request .invalidTicket))
    else if request.ticket.attendeeKey ≠ request.attendeeKey then
      pure (.error (refused request .attendeeKeyMismatch))
    else service.decideInteraction time session request

/-- `participate` from its append on. -/
def participateAppend (request : ParticipateRequest) (row : Participation) :
    Exec Error σ ParticipationReceipt := do
  let recorded ← service.gateway.recordParticipation row
  if !recorded then
    pure ⟨false, request.attendeeKey, some .duplicateNonce, some row.submittedAt,
      some row.statusFlags⟩
  else pure ⟨true, request.attendeeKey, none, some row.submittedAt, some row.statusFlags⟩

/-- The append that follows a decision. -/
def settleDecision (request : ParticipateRequest) :
    Except ParticipationReceipt Participation → Exec Error σ ParticipationReceipt
  | .error receipt => pure receipt
  | .ok row => service.participateAppend request row

/-- A decision and its append are the interaction recorded as a whole. -/
theorem recordInteraction_eq (time : Rat) (session : EngagementSession)
    (request : ParticipateRequest) :
    service.recordInteraction time session request =
      service.decideInteraction time session request >>= service.settleDecision request := by
  rw [recordInteraction, decideInteraction, bind_assoc]
  congr 1
  funext allowed
  cases allowed with
  | false => rfl
  | true =>
    simp only [Bool.not_true, Bool.false_eq_true, ↓reduceIte, bind_assoc, pure_bind]
    rfl

/-- A decision and its append are `participate` as a whole. -/
theorem participate_eq (time : Rat) (request : ParticipateRequest) :
    service.participate time request =
      service.participateDecide time request >>= service.settleDecision request := by
  rw [participate, participateDecide, bind_assoc]
  congr 1
  funext session
  cases session.status.isLive with
  | false => rfl
  | true =>
    simp only [Bool.not_true, Bool.false_eq_true, ↓reduceIte, bind_assoc]
    congr 1
    funext secret
    congr 1
    funext verified
    cases verified with
    | false => rfl
    | true =>
      simp only [Bool.not_true, Bool.false_eq_true, ↓reduceIte]
      split
      · rfl
      · exact recordInteraction_eq service time session request

/-- `finalize_close` up to its test of the status: the preview of a closed session, or the
session to close. -/
def finalizeRead (sessionId : String) :
    Exec Error σ (Except CloseOutcome EngagementSession) := do
  let session ← requireSession service.gateway.toSessionStore sessionId
  if session.status = .closed then do
    let outcome ← previewOutcome service.gateway.toSessionStore session
    pure (.error outcome)
  else do
    Exec.ofExcept (validateStateTransition session.status .closed)
    pure (.ok session)

/-- The write of the status. -/
def finalizeWrite (sessionId : String) : Exec Error σ Unit :=
  service.gateway.setSessionStatus sessionId .closed none

/-- The read of the log and the batch made of it. -/
def finalizeSubmit (sessionId : String) : Exec Error σ (EngagementSession × CloseOutcome) := do
  let closed ← requireSession service.gateway.toSessionStore sessionId
  let outcome ← projectAndRecordAttendance service.gateway.toSessionStore service.bulkService
    closed
  pure (closed, outcome)

/-- The emission. -/
def finalizeEmit (closed : EngagementSession) (outcome : CloseOutcome) :
    Exec Error σ CloseOutcome := do
  service.emitEvent (closedEvent closed outcome.attendeeCount)
  pure outcome

/-- What follows the test of the status. -/
def finalizeRest (sessionId : String) :
    Except CloseOutcome EngagementSession → Exec Error σ CloseOutcome
  | .error outcome => pure outcome
  | .ok _ => do
    service.finalizeWrite sessionId
    let counted ← service.finalizeSubmit sessionId
    service.finalizeEmit counted.1 counted.2

/-- The four steps are `finalize_close` as a whole. -/
theorem finalizeClose_eq (sessionId : String) :
    service.finalizeClose sessionId =
      service.finalizeRead sessionId >>= service.finalizeRest sessionId := by
  rw [finalizeClose, Engagement.finalizeClose, finalizeRead, bind_assoc]
  congr 1
  funext session
  by_cases finished : session.status = .closed
  · simp only [if_pos finished, bind_assoc, pure_bind]
    exact (bind_pure _).symm
  · simp only [if_neg finished, bind_assoc, pure_bind]
    congr 1
    funext _
    simp only [finalizeRest, finalizeWrite, finalizeSubmit, finalizeEmit, bind_assoc, pure_bind]

end EngagementService

end FlockOs.Engagement

namespace FlockOs.EngagementStage

open Lib Reporting Engagement

/-- What a finalize in progress has still to do. -/
inductive Closer where
  /-- It has read that the session is not closed. -/
  | toWrite
  /-- It has written that the session is closed. -/
  | toSubmit
  /-- It has handed the batch over. -/
  | toEmit (closed : EngagementSession) (outcome : CloseOutcome)
deriving DecidableEq, Repr

/-- A site with the calls in progress on one session, and the answers that participations have
had. -/
structure Race where
  /-- The site. -/
  stage : Stage
  /-- The participations that have decided to append a row. -/
  players : Nat → Option (ParticipateRequest × Participation) := fun _ => none
  /-- The finalizes past their test of the status. -/
  closers : Nat → Option Closer := fun _ => none
  /-- The answers. -/
  answered : List (ParticipateRequest × ParticipationReceipt) := []

/-- A step of one of the calls. -/
inductive RaceStep where
  /-- A participation decides. -/
  | decide (id : Nat) (time : Rat) (request : ParticipateRequest)
  /-- A participation appends its row. -/
  | append (id : Nat)
  /-- A finalize reads the status. -/
  | read (id : Nat)
  /-- A finalize writes the status. -/
  | write (id : Nat)
  /-- A finalize reads the log and hands the batch over. -/
  | submit (id : Nat)
  /-- A finalize publishes. -/
  | emit (id : Nat)

namespace Race

/-- The race at another stage. -/
def atStage (race : Race) (stage : Stage) : Race := { race with stage := stage }

/-- The race with one more answer. -/
def answer (race : Race) (request : ParticipateRequest) (receipt : ParticipationReceipt) : Race :=
  { race with answered := race.answered ++ [(request, receipt)] }

/-- The race with another participation under a number. -/
def setPlayer (race : Race) (id : Nat) (player : Option (ParticipateRequest × Participation)) :
    Race :=
  { race with players := Function.update race.players id player }

/-- The race with another finalize under a number. -/
def setCloser (race : Race) (id : Nat) (closer : Option Closer) : Race :=
  { race with closers := Function.update race.closers id closer }

/-- The race after a decision. -/
def decided (race : Race) (id : Nat) (request : ParticipateRequest) :
    EStateM.Result Error Stage (Except ParticipationReceipt Participation) → Race
  | .ok (.error receipt) stage => (race.atStage stage).answer request receipt
  | .ok (.ok row) stage => (race.atStage stage).setPlayer id (some (request, row))
  | .error _ stage => race.atStage stage

/-- The race after an append. -/
def appended (race : Race) (id : Nat) (request : ParticipateRequest) :
    EStateM.Result Error Stage ParticipationReceipt → Race
  | .ok receipt stage => ((race.atStage stage).setPlayer id none).answer request receipt
  | .error _ stage => (race.atStage stage).setPlayer id none

/-- The race after a test of the status. -/
def tested (race : Race) (id : Nat) :
    EStateM.Result Error Stage (Except CloseOutcome EngagementSession) → Race
  | .ok (.ok _) stage => (race.atStage stage).setCloser id (some .toWrite)
  | .ok (.error _) stage => race.atStage stage
  | .error _ stage => race.atStage stage

/-- The race after a batch. -/
def batched (race : Race) (id : Nat) :
    EStateM.Result Error Stage (EngagementSession × CloseOutcome) → Race
  | .ok counted stage => (race.atStage stage).setCloser id (some (.toEmit counted.1 counted.2))
  | .error _ stage => (race.atStage stage).setCloser id none

/-- The service in the steps that do not ask the clock. -/
def service (settings : Settings) (answers : BulkAnswer) : EngagementService Stage :=
  stageService settings answers 0

/-- Perform a step. A call starts under a number that is free, and goes on in its own order. -/
def step (settings : Settings) (answers : BulkAnswer) (sessionId : String) (race : Race) :
    RaceStep → Race
  | .decide id time request =>
    match race.players id with
    | some _ => race
    | none => race.decided id request
        ((stageService settings answers time).participateDecide time request race.stage)
  | .append id =>
    match race.players id with
    | none => race
    | some player => race.appended id player.1
        ((service settings answers).participateAppend player.1 player.2 race.stage)
  | .read id =>
    match race.closers id with
    | some _ => race
    | none => race.tested id ((service settings answers).finalizeRead sessionId race.stage)
  | .write id =>
    match race.closers id with
    | some .toWrite =>
      (race.atStage (((service settings answers).finalizeWrite sessionId).after
        race.stage)).setCloser id (some .toSubmit)
    | _ => race
  | .submit id =>
    match race.closers id with
    | some .toSubmit =>
      race.batched id ((service settings answers).finalizeSubmit sessionId race.stage)
    | _ => race
  | .emit id =>
    match race.closers id with
    | some (.toEmit closed outcome) =>
      (race.atStage (((service settings answers).finalizeEmit closed outcome).after
        race.stage)).setCloser id none
    | _ => race

end Race

end FlockOs.EngagementStage
