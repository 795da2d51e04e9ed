import FlockOs.Engagement
import FlockOs.Lib.Faults
import Mathlib.Data.List.Sort
import Mathlib.Data.Rat.Defs
import Mathlib.Logic.Function.Basic

/-!
# Finalize on a site

`FrappeEngagementGateway` and `FrappeBulkAttendanceGateway` over the database and the cache of
a site, the background job of `finalize_close`, and the participations that arrive between
two jobs. A request reads and writes the working tables; a commit makes them durable and a
rollback drops them. Every statement, cache read and emission is a call that may fail.
-/

namespace FlockOs.EngagementFrappe

open Lib Reporting Engagement

/-- The tables that finalizing a session reads and writes. -/
structure Tables where
  /-- `tabFlock Engagement Session`, by name. -/
  sessions : String → Option EngagementSession := fun _ => none
  /-- `tabFlock Attendance Record`, in insertion order. -/
  attendance : List AttendanceItem := []
  /-- `tabEvent Attendance Summary`: the `total` of a branch and event that has a row. -/
  summaries : String × String → Option Nat := fun _ => none

/-- A site, as one request sees it. -/
structure Site where
  /-- What is durable. -/
  committed : Tables := {}
  /-- What the request reads and writes. -/
  working : Tables := {}
  /-- The participation log of a session, a sorted set in the cache. -/
  log : String → List Participation := fun _ => []
  /-- The nonces of a session, a set in the cache. -/
  nonceSeen : String → List String := fun _ => []
  /-- The emitted events. -/
  publishedEvents : List DomainEvent := []

namespace Site

/-- The site with other working tables. -/
def withWorking (site : Site) (tables : Tables) : Site :=
  { site with working := tables }

/-- `frappe.db.commit`. -/
def commit (site : Site) : Site :=
  { site with committed := site.working }

/-- `frappe.db.rollback`. -/
def rollback (site : Site) : Site := site.withWorking site.committed

/-- `events.emit`. -/
def publish (site : Site) (event : DomainEvent) : Site :=
  { site with publishedEvents := site.publishedEvents ++ [event] }

end Site

/-- A computation of a request over a site, with the plan of the calls that fail. -/
abbrev Request (α : Type) := Exec Error (Planned Site) α

/-- One call to the database, the cache or the bus. -/
def call {α : Type} (act : Exec Error Site α) : Request α := Exec.attempt .infrastructure act

/-- A read of the site. -/
def read {α : Type} (view : Site → α) : Request α :=
  call do
    let site ← get
    pure (view site)

/-- A write of the site. -/
def write (change : Site → Site) : Request Unit := call (modify change)

/-- `emit_event`. -/
def emitEvent (event : DomainEvent) : Request Unit := write fun site => site.publish event

/-- The row that `set_session_status` leaves; a window bound is stamped when a time is passed. -/
def withStatus (status : SessionStatus) (now : Option Rat) (session : EngagementSession) :
    EngagementSession :=
  { session with
    status := status
    openAt := if status = .open then now.or session.openAt else session.openAt
    closeAt :=
      if status = .closing ∨ status = .closed then now.or session.closeAt else session.closeAt }

/-- `set_session_status`: an update of no row where the session is not there. -/
def Tables.setSessionStatus (tables : Tables) (sessionId : String) (status : SessionStatus)
    (now : Option Rat) : Tables :=
  { tables with
    sessions := Function.update tables.sessions sessionId
      ((tables.sessions sessionId).map (withStatus status now)) }

/-- The part of `FrappeEngagementGateway` that the close path uses. -/
def frappeStore : SessionStore (Planned Site) where
  getSession sessionId := read fun site => site.working.sessions sessionId
  setSessionStatus sessionId status now :=
    write fun site => site.withWorking (site.working.setSessionStatus sessionId status now)
  participations sessionId := read fun site => site.log sessionId

/-- The member of the nonce set for a row. -/
def nonceMember (participation : Participation) : String :=
  participation.attendeeKey ++ "|" ++ participation.nonce

/-- The row and its nonce are added, the row by its time. -/
def Site.append (site : Site) (participation : Participation) : Site :=
  { site with
    nonceSeen := Function.update site.nonceSeen participation.sessionId
      (nonceMember participation :: site.nonceSeen participation.sessionId)
    log := Function.update site.log participation.sessionId
      ((site.log participation.sessionId).orderedInsert
        (fun left right => left.submittedAt ≤ right.submittedAt) participation) }

/-- `record_participation`. -/
def Site.recordParticipation (site : Site) (participation : Participation) : Site :=
  if nonceMember participation ∈ site.nonceSeen participation.sessionId then site
  else site.append participation

/-- The columns that `bulk_insert` writes for an item. -/
def stored (item : AttendanceItem) : AttendanceItem :=
  { item with clientReqId := some ((truthy item.clientReqId).getD item.attendeeRef) }

/-- The fields that `bulk_insert` lists, with the values of an item. The columns that it does
not list keep their defaults. -/
def insertedFields (item : AttendanceItem) : List (String × Option String) :=
  [("event", some item.event), ("attendee_ref", some item.attendeeRef),
    ("branch", some item.branch), ("status", some item.status), ("source", some item.source),
    ("client_req_id", some ((truthy item.clientReqId).getD item.attendeeRef)),
    ("gathering", item.gathering), ("member", item.member),
    ("engagement_session", item.engagementSession), ("attendee_key", item.attendeeKey)]

/-- Two nullable columns hold one value: nulls are distinct in a unique index. -/
def sameValue (left right : Option String) : Bool := left.isSome && left == right

/-- Two rows break a unique index: `(event, attendee_ref)` with or without the client key,
`(engagement_session, attendee_key)` or `(branch, gathering, member)`. -/
def clashes (row other : AttendanceItem) : Bool :=
  row.uniqueKey == other.uniqueKey ||
    (sameValue row.engagementSession other.engagementSession &&
      sameValue row.attendeeKey other.attendeeKey) ||
    (row.branch == other.branch && sameValue row.gathering other.gathering &&
      sameValue row.member other.member)

/-- Insert rows one by one under the unique indexes. -/
def insertRows : List AttendanceItem → List AttendanceItem → Except Error (List AttendanceItem)
  | table, [] => .ok table
  | table, row :: rest =>
    if table.any (clashes row) then .error .duplicateEntry else insertRows (table ++ [row]) rest

/-- The insert statement of `bulk_insert`: all rows or none. -/
def insertStatement (rows : List AttendanceItem) : Exec Error Site Unit := do
  let site ← get
  let attendance ← Exec.ofExcept (insertRows site.working.attendance rows)
  set (site.withWorking { site.working with attendance := attendance })

/-- `bulk_insert`. -/
def bulkInsert (items : List AttendanceItem) : Request Nat := do
  if items.isEmpty then pure 0
  else do
    call (insertStatement (items.map stored))
    pure items.length

/-- `filter_unseen`: the table is asked for the whole key. -/
def filterUnseen (keys : List IdempotencyKey) : Request (List IdempotencyKey) := do
  if keys.isEmpty then pure []
  else do
    let rows ← read fun site => site.working.attendance
    let seen := rows.map (·.idempotencyKey)
    pure (keys.filter fun key => !seen.contains key)

/-- The summary rows with one for each event (`INSERT IGNORE`). -/
def Tables.seed (tables : Tables) (branch : String) (events : List String) : Tables :=
  { tables with
    summaries := fun key =>
      if key.1 = branch ∧ key.2 ∈ events then (tables.summaries key).or (some 0)
      else tables.summaries key }

/-- `seed_aggregate`: the commit is of everything that the request has written. -/
def seedAggregate (scope : AttendanceScope) (events : List String) : Request Unit := do
  if events.isEmpty then pure ()
  else do
    write fun site => site.withWorking (site.working.seed scope.branch events)
    write Site.commit

/-- The summary rows after an increment: an update of no row where there is none. -/
def Tables.increment (tables : Tables) (branch event : String) (delta : Nat) : Tables :=
  { tables with
    summaries := Function.update tables.summaries (branch, event)
      ((tables.summaries (branch, event)).map (· + delta)) }

/-- `SET SESSION TRANSACTION ISOLATION LEVEL`: of one request alone, it only may fail. -/
def setIsolation : Request Unit := write id

/-- The block under `transaction()`: rolled back on an exception, then committed. -/
def guarded {α : Type} (body : Request α) : Request α :=
  try body
  catch raised => do
    write Site.rollback
    throw raised
  finally do
    write Site.commit
    setIsolation

/-- `transaction()`: the first commit is of everything that the request has written. -/
def transaction {α : Type} (body : Request α) : Request α := do
  write Site.commit
  setIsolation
  guarded body

/-- `FrappeBulkAttendanceGateway`; an emitted event keeps no scope. -/
def frappeBulkGateway : BulkAttendanceGateway (Planned Site) where
  transaction := transaction
  filterUnseen := filterUnseen
  bulkInsert := bulkInsert
  seedAggregate := seedAggregate
  incrementAggregate scope event delta :=
    write fun site => site.withWorking (site.working.increment scope.branch event delta)
  emit event := emitEvent ⟨event.name, event.payload, []⟩

/-- `_default_bulk_service_factory(organization).submit`. -/
def defaultBulkService (_organization : String) (items : List AttendanceItem)
    (scope : AttendanceScope) (batchId : String) : Request BulkBatchOutcome :=
  submit frappeBulkGateway items scope batchId

/-- `finalize_close` of the service over the gateways of the site. -/
def finalizeClose (sessionId : String) : Request CloseOutcome :=
  Engagement.finalizeClose frappeStore defaultBulkService emitEvent sessionId

/-- A participation that `participate` accepts between two jobs. -/
structure Arrival where
  /-- The request. -/
  request : ParticipateRequest
  /-- The time it was judged at. -/
  submittedAt : Rat
  /-- The flags of the row. -/
  flags : StatusFlags

/-- A live session records the row, which carries the anchors of the session. -/
def Site.arrive (sessionId : String) (site : Site) (arrival : Arrival) : Site :=
  match site.committed.sessions sessionId with
  | none => site
  | some session =>
    if session.status.isLive then
      site.recordParticipation
        (EngagementService.participationOf session arrival.request arrival.submittedAt
          arrival.flags)
    else site

/-- One job of `finalize_close`: what arrives before it, and which of its calls fail. -/
structure Attempt where
  /-- The participations since the previous job. -/
  arrivals : List Arrival := []
  /-- The plan of the calls. -/
  faults : List Bool := []

/-- The site when the job starts. -/
def Site.receive (sessionId : String) (site : Site) (attempt : Attempt) : Site :=
  attempt.arrivals.foldl (Site.arrive sessionId) site

/-- The run of `finalize_close` in the job. -/
def Attempt.run (sessionId : String) (site : Site) (attempt : Attempt) :
    EStateM.Result Error (Planned Site) CloseOutcome :=
  finalizeClose sessionId ⟨attempt.faults, site.receive sessionId attempt⟩

/-- `finalize_close` raises in the job. -/
def Attempt.raises (sessionId : String) (site : Site) (attempt : Attempt) : Bool :=
  match attempt.run sessionId site with
  | .ok _ _ => false
  | .error _ _ => true

/-- The site after the job: committed when it returns, and rolled back when it raises. The
endpoint returns an error of the engagement service as its answer. -/
def Site.finalizeJob (sessionId : String) (site : Site) (attempt : Attempt) : Site :=
  match attempt.run sessionId site with
  | .ok _ last => last.state.commit
  | .error (.engagement _) last => last.state.commit
  | .error _ last => last.state.rollback

end FlockOs.EngagementFrappe
