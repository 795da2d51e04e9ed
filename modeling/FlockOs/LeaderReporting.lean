import FlockOs.Gatherings
import FlockOs.Lib.Slices
import FlockOs.Reporting

/-!
# Leader reports

`leader_reporting.py`: a report over a gathering, its gateway port, the service that classifies
the attendees, records those present in chunks and moves the gathering to reported, and the
in-memory gateway over the in-memory bulk gateway.
-/

namespace FlockOs.LeaderReporting

open Lib Reporting Gatherings

/-- `MEMBER_STATUS_MEMBER`. -/
def memberStatusMember : String := "Member"

/-- `MEMBER_STATUS_PRE_MEMBER`. -/
def memberStatusPreMember : String := "Pre-Member"

/-- `MEMBER_STATUS_VISITOR`. -/
def memberStatusVisitor : String := "Visitor"

/-- `VISITOR_STATUSES`. -/
def visitorStatuses : List String := [memberStatusPreMember, memberStatusVisitor]

/-- `VALID_MEMBER_STATUSES`. -/
def validMemberStatuses : List String :=
  [memberStatusMember, memberStatusPreMember, memberStatusVisitor]

/-- `LEADER_REPORT_SOURCE`. -/
def leaderReportSource : String := "leader"

/-- `PRESENT_STATUS`. -/
def presentStatus : String := "Present"

/-- `REPORTED_STATUS`. -/
def reportedStatus : GatheringStatus := .reported

/-- `REPORTABLE_STATUS`. -/
def reportableStatus : GatheringStatus := .held

/-- `AttendeeReport`: one attendee of a report. -/
structure AttendeeReport where
  /-- Member, visitor or pre-member. -/
  member : String
  /-- Whether they came. -/
  present : Bool := true
  /-- Whether it is their first time. -/
  firstTime : Bool := false
  /-- Key given by the client. -/
  clientReqId : Option String := none
deriving DecidableEq, Repr

/-- `ReportSubmission`. -/
structure ReportSubmission where
  /-- The gathering. -/
  gathering : String
  /-- Its branch. -/
  branch : String
  /-- Group of the leader. -/
  group : String
  /-- The leader. -/
  reportedBy : String
  /-- The attendees. -/
  attendees : List AttendeeReport
  /-- Key of the submission. -/
  clientBatchId : String
deriving DecidableEq, Repr

/-- The counters that a report stamps on its gathering. -/
structure Counters where
  /-- Members present. -/
  memberCount : Nat := 0
  /-- Visitors and pre-members present. -/
  visitorCount : Nat := 0
  /-- Attendees flagged as first-timers. -/
  firstTimeCount : Nat := 0
deriving DecidableEq, Repr

/-- `ReportOutcome`. -/
structure ReportOutcome where
  /-- The gathering. -/
  gathering : String
  /-- Its status. -/
  status : GatheringStatus
  /-- Whether the report was accepted. -/
  accepted : Bool
  /-- Rows written. -/
  inserted : Nat
  /-- Rows dropped as duplicates. -/
  deduplicated : Nat
  /-- The counters. -/
  counters : Counters
  /-- Ids of the chunks. -/
  batchIds : List String
deriving DecidableEq, Repr

/-- `LeaderReportingGateway`: the storage and event port of the service. -/
structure LeaderReportingGateway (σ : Type) where
  /-- Status of a gathering, if there is one. -/
  gatheringStatus : String → Exec Error σ (Option GatheringStatus)
  /-- Status of a member, if there is one. -/
  memberStatus : String → Exec Error σ (Option String)
  /-- Record one chunk: the rows written and dropped. -/
  recordAttendance : List AttendanceItem → AttendanceScope → String → Exec Error σ (Nat × Nat)
  /-- Move the gathering to a status with its reporter and counters. -/
  advanceGathering : String → GatheringStatus → String → Counters → Exec Error σ Unit
  /-- Publish an event. -/
  emit : DomainEvent → Exec Error σ Unit

/-- A required text of a submission. -/
def requireText (text message : String) : Except Error Unit :=
  if text = "" then .error (.leaderReporting message) else .ok ()

/-- `_validate_submission_shape`. -/
def validateSubmissionShape (submission : ReportSubmission) : Except Error Unit := do
  requireText submission.gathering "Report submission requires a gathering."
  requireText submission.branch "Report submission requires a branch (row-level scope)."
  requireText submission.group "Report submission requires a group (leader scope)."
  requireText submission.reportedBy "Report submission requires a reported_by member ref."
  requireText submission.clientBatchId
    "Report submission requires a client_batch_id (idempotency)."

/-- The checks of `_validate_gathering` on the status that was read. -/
def checkStatus (gathering : String) : Option GatheringStatus → Except Error Unit
  | none => .error (.leaderReporting s!"Gathering {quoted gathering} does not exist.")
  | some current =>
    if isTerminalStatus current then .error (.leaderReporting
      s!"Gathering {quoted gathering} is terminal ({quoted current.text}); cannot be reported.")
    else if current ≠ reportableStatus then .error (.leaderReporting
      s!"Gathering {quoted gathering} is {quoted current.text}; a report requires {quoted reportableStatus.text} (FLO-6 §4: Held → Reported).")
    else .ok ()

/-- `_to_attendance_item`. -/
def toAttendanceItem (submission : ReportSubmission) (attendee : AttendeeReport) :
    AttendanceItem where
  event := submission.gathering
  attendeeRef := attendee.member
  branch := submission.branch
  status := presentStatus
  source := leaderReportSource
  clientReqId := some ((truthy attendee.clientReqId).getD attendee.member)

/-- What the loop over the attendees adds up: the counters and the items of those present. -/
structure Tally where
  /-- The counters. -/
  counters : Counters := {}
  /-- The items. -/
  items : List AttendanceItem := []

/-- An attendee of a known status. An absent first-timer is counted as one. -/
def Tally.add (submission : ReportSubmission) (tally : Tally) (attendee : AttendeeReport)
    (status : String) : Tally :=
  let counted := { tally.counters with
    firstTimeCount := tally.counters.firstTimeCount + if attendee.firstTime then 1 else 0 }
  if attendee.present then
    { counters :=
        if visitorStatuses.contains status then
          { counted with visitorCount := counted.visitorCount + 1 }
        else { counted with memberCount := counted.memberCount + 1 }
      items := tally.items ++ [toAttendanceItem submission attendee] }
  else { tally with counters := counted }

/-- The status that was read for an attendee, if it is one of the vocabulary. -/
def checkMember (member : String) : Option String → Except Error String
  | none => .error (.leaderReporting s!"Attendee {quoted member} is not a known Flock Member.")
  | some status =>
    if validMemberStatuses.contains status then .ok status
    else .error (.leaderReporting
      s!"Attendee {quoted member} has unknown member status {quoted status}.")

variable {σ : Type} (gateway : LeaderReportingGateway σ)

/-- `_validate_gathering`. -/
def validateGathering (submission : ReportSubmission) : Exec Error σ Unit := do
  let current ← gateway.gatheringStatus submission.gathering
  Exec.ofExcept (checkStatus submission.gathering current)

/-- One turn of the loop over the attendees. -/
def classify (submission : ReportSubmission) (tally : Tally) (attendee : AttendeeReport) :
    Exec Error σ Tally := do
  let found ← gateway.memberStatus attendee.member
  let status ← Exec.ofExcept (checkMember attendee.member found)
  pure (tally.add submission attendee status)

/-- The slices of the loop of `_record_in_chunks`. -/
def chunks (items : List AttendanceItem) : List (List AttendanceItem) := strided bulkBatchSize items

/-- The id of a chunk. -/
def chunkId (submission : ReportSubmission) (index : Nat) : String :=
  submission.clientBatchId ++ "#" ++ toString index

/-- What `_record_in_chunks` adds up. -/
structure Recorded where
  /-- Rows written. -/
  inserted : Nat := 0
  /-- Rows dropped as duplicates. -/
  deduplicated : Nat := 0
  /-- Ids of the chunks. -/
  batchIds : List String := []
deriving DecidableEq, Repr

/-- One turn of the loop of `_record_in_chunks`. -/
def recordChunk (submission : ReportSubmission) (recorded : Recorded)
    (chunk : List AttendanceItem × Nat) : Exec Error σ Recorded := do
  let batchId := chunkId submission chunk.2
  let (inserted, deduplicated) ←
    gateway.recordAttendance chunk.1 ⟨submission.branch⟩ batchId
  pure ⟨recorded.inserted + inserted, recorded.deduplicated + deduplicated,
    recorded.batchIds ++ [batchId]⟩

/-- `_record_in_chunks`. -/
def recordInChunks (submission : ReportSubmission) (items : List AttendanceItem) :
    Exec Error σ Recorded :=
  (chunks items).zipIdx.foldlM (recordChunk gateway submission) {}

/-- The event of an accepted report. -/
def reportedEvent (submission : ReportSubmission) (counters : Counters) (recorded : Recorded) :
    DomainEvent where
  name := Events.attendanceReported
  payload := [("gathering", .str submission.gathering),
    ("reported_by", .str submission.reportedBy), ("member_count", .int counters.memberCount),
    ("visitor_count", .int counters.visitorCount),
    ("total_count", .int ↑(counters.memberCount + counters.visitorCount)),
    ("first_time_count", .int counters.firstTimeCount), ("inserted", .int recorded.inserted),
    ("deduplicated", .int recorded.deduplicated),
    ("client_batch_id", .str submission.clientBatchId)]
  scope := [("branch", .str submission.branch), ("group", .str submission.group)]

/-- The outcome of an accepted report. -/
def acceptedOutcome (submission : ReportSubmission) (counters : Counters)
    (recorded : Recorded) : ReportOutcome where
  gathering := submission.gathering
  status := reportedStatus
  accepted := true
  inserted := recorded.inserted
  deduplicated := recorded.deduplicated
  counters := counters
  batchIds := recorded.batchIds

/-- What `submit_report` does after recording: the transition is checked once more, applied and
announced. -/
def advance (submission : ReportSubmission) (counters : Counters) (recorded : Recorded) :
    Exec Error σ ReportOutcome := do
  let fromStatus ← gateway.gatheringStatus submission.gathering
  Exec.ofExcept (validateStatusTransition fromStatus reportedStatus)
  gateway.advanceGathering submission.gathering reportedStatus submission.reportedBy counters
  gateway.emit (reportedEvent submission counters recorded)
  pure (acceptedOutcome submission counters recorded)

/-- `LeaderReportingService.submit_report`. -/
def submitReport (submission : ReportSubmission) : Exec Error σ ReportOutcome := do
  Exec.ofExcept (validateSubmissionShape submission)
  validateGathering gateway submission
  let tally ← submission.attendees.foldlM (classify gateway submission) {}
  let recorded ← recordInChunks gateway submission tally.items
  advance gateway submission tally.counters recorded

/-- An entry of `advanced`. -/
structure Advance where
  /-- The gathering. -/
  gathering : String
  /-- Its new status. -/
  toStatus : GatheringStatus
  /-- The reporter. -/
  reportedBy : String
  /-- The counters. -/
  counters : Counters
deriving DecidableEq, Repr

/-- The state of `InMemoryLeaderReportingGateway`. -/
structure InMemoryReports where
  /-- `_gathering_status`. -/
  gatheringStatus : String → Option GatheringStatus := fun _ => none
  /-- `_member_status`. -/
  memberStatus : String → Option String := fun _ => none
  /-- `_bulk_gateway`. -/
  bulk : InMemory := {}
  /-- `published_events`. -/
  publishedEvents : List DomainEvent := []
  /-- `advanced`. -/
  advanced : List Advance := []

namespace InMemoryReports

/-- `register_gathering`. -/
def registerGathering (reports : InMemoryReports) (gathering : String)
    (status : GatheringStatus) : InMemoryReports :=
  { reports with
    gatheringStatus := Function.update reports.gatheringStatus gathering (some status) }

/-- `record_attendance`: a call of `submit` on the bulk gateway. -/
def recordAttendance (items : List AttendanceItem) (scope : AttendanceScope) (batchId : String) :
    Exec Error InMemoryReports (Nat × Nat) := fun reports =>
  match submit inMemoryGateway items scope batchId reports.bulk with
  | .ok outcome next => .ok (outcome.inserted, outcome.deduplicated) { reports with bulk := next }
  | .error raised next => .error raised { reports with bulk := next }

/-- `advance_gathering`. -/
def advance (reports : InMemoryReports) (gathering : String) (toStatus : GatheringStatus)
    (reportedBy : String) (counters : Counters) : InMemoryReports :=
  { reports.registerGathering gathering toStatus with
    advanced := reports.advanced ++ [⟨gathering, toStatus, reportedBy, counters⟩] }

/-- `emit`. -/
def publish (reports : InMemoryReports) (event : DomainEvent) : InMemoryReports :=
  { reports with publishedEvents := reports.publishedEvents ++ [event] }

/-- `aggregate`. -/
def aggregate (reports : InMemoryReports) (branch gathering : String) : Nat :=
  reports.bulk.aggregate branch gathering

end InMemoryReports

/-- `InMemoryLeaderReportingGateway`. -/
def inMemoryReports : LeaderReportingGateway InMemoryReports where
  gatheringStatus gathering := do
    let reports ← get
    pure (reports.gatheringStatus gathering)
  memberStatus member := do
    let reports ← get
    pure (reports.memberStatus member)
  recordAttendance := InMemoryReports.recordAttendance
  advanceGathering gathering toStatus reportedBy counters :=
    modify fun reports => reports.advance gathering toStatus reportedBy counters
  emit event := modify fun reports => reports.publish event

/-- What happens to a gathering: a report, or a correction that reopens it. -/
inductive Call where
  /-- `submit_report`. -/
  | report (submission : ReportSubmission)
  /-- From reported back to held, one of the `TRANSITIONS`. -/
  | reopen (gathering : String)
deriving DecidableEq, Repr

namespace InMemoryReports

/-- A reported gathering is held again. -/
def reopen (reports : InMemoryReports) (gathering : String) : InMemoryReports :=
  if reports.gatheringStatus gathering = some .reported then
    reports.registerGathering gathering .held
  else reports

/-- The gateway after a call. -/
def step (reports : InMemoryReports) : Call → InMemoryReports
  | .report submission => (submitReport inMemoryReports submission).after reports
  | .reopen gathering => reports.reopen gathering

end InMemoryReports

end FlockOs.LeaderReporting
