import FlockOs.EngagementFrappe
import FlockOs.EngagementMemory

/-!
# The engagement runtime of a site

`FrappeEngagementGateway` over the session table and the cache, while nothing fails, and the
service over it with a bulk service behind that does not raise.
-/

namespace FlockOs.EngagementStage

open Lib Reporting Engagement

/-- A row of `tabFlock Engagement Session`. -/
structure SessionRow where
  /-- Gathering that attendance is credited to. -/
  gathering : String
  /-- Branch. -/
  branch : String
  /-- Organization. -/
  organization : String
  /-- Group. -/
  group : Option String := none
  /-- Kind. -/
  kind : EngagementKind
  /-- Lifecycle state. -/
  status : SessionStatus
  /-- Start of the window. -/
  openAt : Option Rat := none
  /-- End of the window, before the grace. -/
  closeAt : Option Rat := none
  /-- Member who hosts the session. -/
  facilitator : Option String := none
  /-- Closing grace. -/
  graceSeconds : Int := defaultGraceSeconds
deriving DecidableEq, Repr

/-- The session table and the cache of a site, and what was handed to the bulk service,
published and enqueued. -/
structure Stage where
  /-- `tabFlock Engagement Session`, by name. -/
  sessions : String → Option SessionRow := fun _ => none
  /-- The participation log of a session, a sorted set. -/
  log : String → List Participation := fun _ => []
  /-- The nonces of a session, a set. -/
  nonceSeen : String → List String := fun _ => []
  /-- The times in the bucket of a throttle key, a sorted set. -/
  throttle : String → List Rat := fun _ => []
  /-- `Flock Organization.engagement_ticket_secret`. -/
  organizationSecrets : String → Option String := fun _ => none
  /-- `Flock Settings.engagement_ticket_secret`. -/
  siteSecret : Option String := none
  /-- The jobs of `finalize_close`, each with the time to run at. -/
  jobs : List (String × Rat) := []
  /-- The batches handed to the bulk service. -/
  submitted : List (List AttendanceItem) := []
  /-- The emitted events. -/
  publishedEvents : List DomainEvent := []

/-- `_session_from_row`. -/
def sessionFromRow (name : String) (row : SessionRow) : EngagementSession where
  sessionId := name
  gathering := row.gathering
  branch := row.branch
  organization := row.organization
  group := row.group
  kind := row.kind
  status := row.status
  openAt := row.openAt
  closeAt := row.closeAt

/-- The row that `set_session_status` leaves; a window bound is stamped when a time is passed. -/
def SessionRow.withStatus (status : SessionStatus) (now : Option Rat) (row : SessionRow) :
    SessionRow :=
  { row with
    status := status
    openAt := if status = .open then now.or row.openAt else row.openAt
    closeAt :=
      if status = .closing ∨ status = .closed then now.or row.closeAt else row.closeAt }

namespace Stage

/-- `get_session`. -/
def getSession (stage : Stage) (sessionId : String) : Option EngagementSession :=
  (stage.sessions sessionId).map (sessionFromRow sessionId)

/-- `set_session_status`: an update of no row where the session is not there. -/
def setSessionStatus (stage : Stage) (sessionId : String) (status : SessionStatus)
    (now : Option Rat) : Stage :=
  { stage with
    sessions := Function.update stage.sessions sessionId
      ((stage.sessions sessionId).map (SessionRow.withStatus status now)) }

/-- `ticket_secret`: that of the organization, or that of the site. -/
def ticketSecret (stage : Stage) (organization : String) : String :=
  match truthy (some organization), truthy (stage.organizationSecrets organization) with
  | some _, some secret => secret
  | _, _ => (truthy stage.siteSecret).getD "flock-engagement-default-secret"

/-- The row and its nonce are added, the row by its time. -/
def append (stage : Stage) (participation : Participation) : Stage :=
  { stage with
    nonceSeen := Function.update stage.nonceSeen participation.sessionId
      (EngagementFrappe.nonceMember participation :: stage.nonceSeen participation.sessionId)
    log := Function.update stage.log participation.sessionId
      ((stage.log participation.sessionId).orderedInsert
        (fun left right => left.submittedAt ≤ right.submittedAt) participation) }

/-- `record_participation`. -/
def recordParticipation (stage : Stage) (participation : Participation) : Bool × Stage :=
  if EngagementFrappe.nonceMember participation ∈ stage.nonceSeen participation.sessionId then
    (false, stage)
  else (true, stage.append participation)

/-- The stage with a bucket replaced. -/
def setBucket (stage : Stage) (key : String) (bucket : List Rat) : Stage :=
  { stage with throttle := Function.update stage.throttle key bucket }

/-- The times of a bucket that `zremrangebyscore` leaves. -/
def recent (stage : Stage) (key : String) (now : Rat) : List Rat :=
  (stage.throttle key).filter fun score => !(decide (0 ≤ score) && decide (score ≤ cutoff now))

/-- `throttle_allows`: an empty bucket always allows. -/
def throttleAllows (stage : Stage) (key : String) (now : Rat) (maxPerSecond : Nat) :
    Bool × Stage :=
  if 0 < (stage.recent key now).length ∧ maxPerSecond ≤ (stage.recent key now).length then
    (false, stage.setBucket key (stage.recent key now))
  else (true, stage.setBucket key ((stage.recent key now).insert now))

/-- `same_ip_attendee_count`. -/
def sameIpAttendeeCount (stage : Stage) (sessionId address : String) : Nat :=
  if address = "" then 0
  else (firstPerKey (·.attendeeKey) ((stage.log sessionId).filter fun row =>
    row.ipAddress = some address)).length

/-- The stage with a job enqueued. -/
def enqueue (stage : Stage) (sessionId : String) (runAt : Rat) : Stage :=
  { stage with jobs := stage.jobs ++ [(sessionId, runAt)] }

/-- The stage with a batch handed to the bulk service. -/
def handed (stage : Stage) (items : List AttendanceItem) : Stage :=
  { stage with submitted := stage.submitted ++ [items] }

/-- `events.emit`. -/
def publish (stage : Stage) (event : DomainEvent) : Stage :=
  { stage with publishedEvents := stage.publishedEvents ++ [event] }

end Stage

/-- Read the stage. -/
def ofStage {α : Type} (view : Stage → α) : Exec Error Stage α := do
  let stage ← get
  pure (view stage)

/-- Answer from the stage and write it back. -/
def onStage {α : Type} (answer : Stage → α × Stage) : Exec Error Stage α := do
  let stage ← get
  set (answer stage).2
  pure (answer stage).1

/-- `FrappeEngagementGateway` at a time of the server's clock. -/
def stageGateway (time : Rat) : EngagementGateway Stage where
  getSession sessionId := ofStage fun stage => stage.getSession sessionId
  setSessionStatus sessionId status now :=
    modify fun stage => stage.setSessionStatus sessionId status now
  participations sessionId := ofStage fun stage => stage.log sessionId
  ticketSecret organization := ofStage fun stage => stage.ticketSecret organization
  upsertSession _ := pure ⟨⟩
  recordParticipation participation :=
    onStage fun stage => stage.recordParticipation participation
  throttleAllows key now maxPerSecond :=
    onStage fun stage => stage.throttleAllows key now maxPerSecond
  sameIpAttendeeCount sessionId address :=
    ofStage fun stage => stage.sameIpAttendeeCount sessionId address
  scheduleFinalizeClose sessionId graceSeconds :=
    modify fun stage => stage.enqueue sessionId (time + graceSeconds)

/-- A bulk service that does not raise, with the batch noted. -/
def stageBulkService (answer : BulkAnswer) (organization : String) (items : List AttendanceItem)
    (scope : AttendanceScope) (batchId : String) : Exec Error Stage BulkBatchOutcome := do
  let stage ← get
  set (stage.handed items)
  pure (answer stage.submitted organization items scope batchId)

/-- The service over the site at a time of the server's clock. -/
def stageService (settings : Settings) (answer : BulkAnswer) (time : Rat) :
    EngagementService Stage where
  gateway := stageGateway time
  bulkService := stageBulkService answer
  emitEvent event := modify fun stage => stage.publish event
  crypto := settings.crypto
  graceSeconds := settings.graceSeconds
  throttlePerSecond := settings.throttlePerSecond

end FlockOs.EngagementStage
