import FlockOs.EngagementFrappe
import FlockOs.Lib.Runs

/-!
# Batches in the queue

`process_bulk_batch` of `attendance.py` with its two retry loops, over the bulk service on a
site. A statement under `transaction()` may raise whatever a plan says; the first loop repeats
the whole `submit` within a job, the second puts the batch back into the queue with its number
of attempts, until it is dead-lettered.
-/

namespace FlockOs.AttendanceJobs

open Lib Reporting EngagementFrappe

/-- A statement under `transaction()`, which may raise `fault`. -/
def statement {α : Type} (fault : Error) (act : Exec Error Site α) : Request α :=
  Exec.attempt fault act

/-- A change of the site outside the block of `transaction()`. -/
def change (effect : Site → Site) : Request Unit := Exec.surely (modify effect)

/-- The block under `transaction()`: rolled back on an exception, then committed. -/
def underRollback {α : Type} (body : Request α) : Request α :=
  try body
  catch raised => do
    change Site.rollback
    throw raised
  finally change Site.commit

/-- `transaction()`: the first commit is of everything that the request has written. The
isolation level concerns other requests. -/
def transaction {α : Type} (body : Request α) : Request α := do
  change Site.commit
  underRollback body

/-- `filter_unseen`: the table is asked for the whole key. -/
def filterUnseen (fault : Error) (keys : List IdempotencyKey) : Request (List IdempotencyKey) := do
  if keys.isEmpty then pure []
  else do
    let site ← statement fault get
    let seen := site.working.attendance.map (·.idempotencyKey)
    pure (keys.filter fun key => !seen.contains key)

/-- `bulk_insert`. -/
def bulkInsert (fault : Error) (items : List AttendanceItem) : Request Nat := do
  if items.isEmpty then pure 0
  else do
    statement fault (insertStatement (items.map stored))
    pure items.length

/-- `seed_aggregate`: committed on its own, before `transaction()`. -/
def seedAggregate (scope : AttendanceScope) (events : List String) : Request Unit := do
  if events.isEmpty then pure ()
  else do
    change fun site => site.withWorking (site.working.seed scope.branch events)
    change Site.commit

/-- `increment_aggregate`. -/
def incrementAggregate (fault : Error) (scope : AttendanceScope) (event : String) (delta : Nat) :
    Request Unit :=
  statement fault
    (modify fun site => site.withWorking (site.working.increment scope.branch event delta))

/-- `FrappeBulkAttendanceGateway`; an emitted event keeps no scope. -/
def bulkGateway (fault : Error) : BulkAttendanceGateway (Planned Site) where
  transaction := transaction
  filterUnseen := filterUnseen fault
  bulkInsert := bulkInsert fault
  seedAggregate := seedAggregate
  incrementAggregate := incrementAggregate fault
  emit event := change fun site => site.publish ⟨event.name, event.payload, []⟩

/-- `aggregate` for one event: `int(total or 0)`. -/
def aggregate (tables : Tables) (branch event : String) : Nat :=
  (tables.summaries (branch, event)).getD 0

/-- `DEFAULT_ATTENDANCE_STATUS`. -/
def defaultAttendanceStatus : String := "Present"

/-- `DEFAULT_ATTENDANCE_SOURCE`. -/
def defaultAttendanceSource : String := "bulk"

/-- `BULK_ATTENDANCE_MAX_RETRY`. -/
def bulkAttendanceMaxRetry : Nat := 5

/-- `BULK_ATTENDANCE_IN_PLACE_ATTEMPTS`. -/
def bulkAttendanceInPlaceAttempts : Nat := 10

/-- One entry of `items` in a payload; an absent key is `none`. -/
structure RawItem where
  /-- Gathering or event. -/
  event : String
  /-- Member or visitor. -/
  attendeeRef : String
  /-- Branch of the row. -/
  branch : String
  /-- Attendance status. -/
  status : Option String := none
  /-- Reporting path. -/
  source : Option String := none
  /-- Key given by the client. -/
  clientReqId : String
  /-- The gathering. -/
  gathering : Option String := none
  /-- The member. -/
  member : Option String := none
deriving DecidableEq, Repr

/-- The item that the job builds of an entry. -/
def RawItem.toItem (raw : RawItem) : AttendanceItem where
  event := raw.event
  attendeeRef := raw.attendeeRef
  branch := raw.branch
  status := raw.status.getD defaultAttendanceStatus
  source := raw.source.getD defaultAttendanceSource
  clientReqId := some raw.clientReqId
  gathering := raw.gathering
  member := raw.member

/-- What `bulk_submit` puts into a payload. -/
structure BatchPayload where
  /-- The batch. -/
  batchId : String
  /-- Branch it is reported against. -/
  scopeBranch : String
  /-- Its entries. -/
  items : List RawItem
deriving DecidableEq, Repr

/-- A payload in the queue, with the marks of the retries. -/
structure Payload extends BatchPayload where
  /-- `_attempt`. -/
  attempt : Option Nat := none
  /-- `_deadlettered`. -/
  deadlettered : Bool := false
deriving DecidableEq, Repr

/-- A job of `process_bulk_batch`. -/
structure Job where
  /-- Its payload. -/
  payload : Payload
  /-- `at`: the time it is to run at. -/
  startAt : Option Nat := none
deriving DecidableEq, Repr

/-- A row of the `Error Log`: its title, and the exception that it was written for. -/
structure LoggedError where
  /-- Title. -/
  title : String
  /-- Exception. -/
  cause : Option Error := none
deriving DecidableEq, Repr

/-- The site with its queue, its error log and the record of what the jobs did. -/
structure Backend where
  /-- The site. -/
  site : Site := {}
  /-- The jobs that wait. -/
  queue : List Job := []
  /-- `Error Log`. -/
  errorLog : List LoggedError := []
  /-- The calls of `service.submit` in the running job: what each raised, if it did. -/
  submits : List (Option Error) := []
  /-- The calls of `service.submit` in each finished job. -/
  executions : List (List (Option Error)) := []

namespace Backend

/-- `frappe.log_error`. -/
def logError (backend : Backend) (title : String) (cause : Option Error) : Backend :=
  { backend with errorLog := backend.errorLog ++ [⟨title, cause⟩] }

/-- `emit`. -/
def emit (backend : Backend) (event : DomainEvent) : Backend :=
  { backend with site := backend.site.publish event }

/-- `frappe.enqueue`. -/
def enqueue (backend : Backend) (job : Job) : Backend :=
  { backend with queue := backend.queue ++ [job] }

/-- After a call of `service.submit` that raised, or did not, and left the site. -/
def submitted (backend : Backend) (raised : Option Error) (site : Site) : Backend :=
  { backend with site := site, submits := backend.submits ++ [raised] }

end Backend

/-- `with_exponential_backoff`, in seconds. -/
def withExponentialBackoff (attempt : Nat) (baseSeconds : Nat := 1) (capSeconds : Nat := 300) :
    Nat :=
  min capSeconds (baseSeconds * 2 ^ attempt)

/-- `_log_deadletter`. -/
def logDeadletter (payload : Payload) (reason : String) (backend : Backend) : Backend :=
  backend.logError ("flock_os.attendance dead-letter (" ++ reason ++ "): " ++ payload.batchId) none

/-- The event of a batch whose retries are used up. -/
def importFailed (batchId : String) (attempts : Nat) : DomainEvent where
  name := Events.attendanceImportFailed
  payload := [("batch_id", .str batchId), ("attempts", .int attempts),
    ("reason", .str "max_retry_exceeded")]

/-- `_deadletter_or_retry`, at the time `now`. -/
def deadletterOrRetry (now : Nat) (payload : Payload) (backend : Backend) : Backend :=
  let attempt := payload.attempt.getD 0 + 1
  if bulkAttendanceMaxRetry < attempt then
    logDeadletter payload "max_retry_exceeded"
      (backend.emit (importFailed payload.batchId (attempt - 1)))
  else
    let delay := withExponentialBackoff (attempt - 1)
    backend.enqueue ⟨{ payload with attempt := some attempt }, some (now + delay)⟩

/-- `_retryable_persistence_errors`: the transient ones. -/
def isRetryable : Error → Bool
  | .queryDeadlock => true
  | .queryTimeout => true
  | _ => false

/-- The faults of one call of `service.submit`: the plan of its statements, and what a failing
one raises. -/
structure SubmitPlan where
  /-- The exception. -/
  fault : Error := .infrastructure
  /-- The plan. -/
  faults : List Bool := []

/-- What the jobs meet in one execution. -/
structure JobPlan where
  /-- `_now_seconds()`. -/
  now : Nat := 0
  /-- The faults of each attempt. -/
  attempts : Nat → SubmitPlan := fun _ => {}

/-- `service.submit` of a batch on a site. -/
def submitBatch (batch : BatchPayload) (plan : SubmitPlan) (site : Site) :
    EStateM.Result Error (Planned Site) BulkBatchOutcome :=
  submit (bulkGateway plan.fault) (batch.items.map (·.toItem)) ⟨batch.scopeBranch⟩ batch.batchId
    ⟨plan.faults, site⟩

/-- The title of a failure that is not retried in place. -/
def persistenceFailed (batchId : String) : String :=
  "flock_os.attendance batch persistence failed: " ++ batchId

/-- The title of a failure of all attempts in place. -/
def persistenceExhausted (batchId : String) : String :=
  "flock_os.attendance batch persistence failed after " ++
    toString bulkAttendanceInPlaceAttempts ++ " retries: " ++ batchId

/-- The loop of `_submit_with_in_place_retry` over the attempts to come, with the exception of
the last one. -/
def submitInPlace (plan : JobPlan) (payload : Payload) :
    List Nat → Option Error → Backend → Option BulkBatchOutcome × Backend
  | [], lastExc, backend =>
    (none, deadletterOrRetry plan.now payload
      (backend.logError (persistenceExhausted payload.batchId) lastExc))
  | attempt :: rest, _, backend =>
    match submitBatch payload.toBatchPayload (plan.attempts attempt) backend.site with
    | .ok outcome last => (some outcome, backend.submitted none last.state)
    | .error raised last =>
      let failed := backend.submitted (some raised) last.state
      if isRetryable raised then submitInPlace plan payload rest (some raised) failed
      else
        (none, deadletterOrRetry plan.now payload
          (failed.logError (persistenceFailed payload.batchId) (some raised)))

/-- `_submit_with_in_place_retry`. -/
def submitWithInPlaceRetry (plan : JobPlan) (payload : Payload) (backend : Backend) :
    Option BulkBatchOutcome × Backend :=
  submitInPlace plan payload (List.range bulkAttendanceInPlaceAttempts) none backend

/-- The acknowledgement of a batch to its reporter. -/
def batchReceipt (batchId : String) (outcome : BulkBatchOutcome) : DomainEvent where
  name := "flock_os:attendance:batch:" ++ batchId
  payload := [("accepted", .bool outcome.accepted), ("inserted", .int outcome.inserted),
    ("deduplicated", .int outcome.deduplicated), ("rejected", .int outcome.rejected.length)]

/-- `process_bulk_batch`. The time of the job is ignored. -/
def processBulkBatch (plan : JobPlan) (job : Job) (backend : Backend) : Backend :=
  let payload := job.payload
  if payload.deadlettered then logDeadletter payload "stale_deadletter_drained" backend
  else
    match submitWithInPlaceRetry plan payload backend with
    | (none, next) => next
    | (some outcome, next) => next.emit (batchReceipt payload.batchId outcome)

namespace Backend

/-- The end of a job: Frappe commits, and the calls of the job go to the record. -/
def finishJob (backend : Backend) : Backend :=
  { backend with
    site := backend.site.commit
    submits := []
    executions := backend.executions ++ [backend.submits] }

/-- A worker executes the first job of the queue. -/
def work (backend : Backend) (plan : JobPlan) : Backend :=
  match backend.queue with
  | [] => backend
  | job :: rest => (processBulkBatch plan job { backend with queue := rest }).finishJob

end Backend

end FlockOs.AttendanceJobs
