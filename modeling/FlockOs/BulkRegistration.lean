import FlockOs.EventRegistration
import FlockOs.Lib.Firsts
import FlockOs.Lib.Slices
import Mathlib.Algebra.GroupWithZero.Nat

/-!
# Bulk registration

`register_bulk`, one gate for a whole list of members, which is cut into batches for the queue; and
`process_bulk_batch` among other writers, whose rows may come in between a member's existence check
and its insertion.
-/

namespace FlockOs.Events

/-- `REGISTRATION_BULK_QUEUED`. -/
def registrationBulkQueued : String := "flock.registration.bulk_queued"

end FlockOs.Events

namespace FlockOs.EventRegistration

open Lib Registrations Permissions

/-- `DEFAULT_BULK_BATCH_SIZE`. -/
def defaultBulkBatchSize : Int := 500

/-- `VIA_BULK`. -/
def viaBulk : String := "Bulk"

/-- `dict.fromkeys(m for m in members if m)`. -/
def uniqueMembers (members : List String) : List String := firstPerKey id (members.filter (· ≠ ""))

/-- The slices of `chunk_members`. -/
def slices (size : Nat) (members : List String) : List (List String) := strided size members

/-- `chunk_members`. -/
def chunkMembers (members : List String) (batchSize : Int) : Except Error (List (List String)) :=
  if batchSize < 1 then .error (.registration s!"batch_size must be >= 1 (got {batchSize}).")
  else .ok (slices batchSize.toNat (uniqueMembers members))

/-- The `members` argument as it arrives. -/
inductive BulkMembers where
  | list (members : List String)
  /-- A text: a JSON list or one member. -/
  | text (raw : String)
deriving DecidableEq, Repr

/-- The members of the argument; the decoder of JSON lists is given. -/
def BulkMembers.read (loads : String → Except Error (List String)) :
    BulkMembers → Except Error (List String)
  | list members => .ok members
  | text raw => if raw.startsWith "[" then loads raw else .ok [raw]

/-- A job of `process_bulk_batch` in the queue. -/
structure BulkJob where
  /-- `job_name`. -/
  jobName : String
  /-- The event. -/
  gathering : String
  /-- The batch. -/
  members : List String
  /-- How the rows are created. -/
  registeredVia : String
  /-- The run that the job belongs to. -/
  bulkJobId : String
  /-- Place of the batch. -/
  batchIndex : Nat
  /-- Number of batches. -/
  totalBatches : Nat
deriving DecidableEq, Repr

/-- The answer of `register_bulk`. -/
structure BulkReceipt where
  /-- The event. -/
  gathering : String
  /-- The run. -/
  bulkJobId : String
  /-- Members, each counted once. -/
  totalMembers : Nat
  /-- Number of batches. -/
  batches : Nat
  /-- `status`. -/
  status : String := "queued"
deriving DecidableEq, Repr

/-- The jobs that are enqueued for some batches. -/
def bulkJobs (gathering jobId : String) (batches : List (List String)) : List BulkJob :=
  batches.zipIdx.map fun batch =>
    ⟨s!"{jobId}-batch-{batch.2}", gathering, batch.1, viaBulk, jobId, batch.2, batches.length⟩

/-- What `register_bulk` leaves when its gates are passed: the jobs and the event. -/
def enqueueBulk (db : Database) (random gathering : String) (batches : List (List String)) :
    BulkReceipt × List BulkJob × Database :=
  let anchors := db.gatheringScope gathering
  let jobId := s!"bulk-{gathering}-{random}"
  let total := (batches.map List.length).sum
  (⟨gathering, jobId, total, batches.length, "queued"⟩, bulkJobs gathering jobId batches,
    db.emit Events.registrationBulkQueued
      [("gathering", .str gathering), ("bulk_job_id", .str jobId), ("total_members", .int total),
        ("batches", .int batches.length)]
      (scopeForEvent db gathering ((truthy anchors.branch).getD "")
        ((truthy anchors.group).getD "")))

/-- `register_bulk`; the drawn text of the run's name is given. -/
def registerBulk (site : Site) (db : Database) (loads : String → Except Error (List String))
    (random gathering : String) (members : BulkMembers)
    (batchSize : Int := defaultBulkBatchSize) :
    Except Error (BulkReceipt × List BulkJob × Database) :=
  if gathering = "" then .error (.validation "gathering is required")
  else do
    let members ← members.read loads
    if members.isEmpty then .error (.validation "members list is required")
    else do
      let isOpen ← isRegistrationWindowOpen (registrationWindow db gathering) (.text site.now)
      if ¬ isOpen then .error (.validation
        "Registration is not open for this event (not approved or outside the window).")
      else do
        assertBranchScope (db.gatheringScope gathering).branch site.user site.permissionGateway
        let batches ← chunkMembers members batchSize
        .ok (enqueueBulk db random gathering batches)

/-- A row that another request commits, and whether it counts its seat. -/
structure Arrival where
  /-- The row. -/
  row : Registration
  /-- `_bump_registered_count` is called for it. -/
  counted : Bool := false
deriving DecidableEq, Repr

/-- The unique keys of the table admit a row. -/
def Database.admits (db : Database) (row : Registration) : Bool :=
  decide (row.name ∉ db.registrations.rows.map Registration.name) &&
    !db.registrations.rows.any fun other =>
      other.gathering = row.gathering && other.registrant = row.registrant

/-- The row of another request is there. -/
def Database.receive (db : Database) (arrival : Arrival) : Database :=
  if fresh : arrival.row.name ∉ db.registrations.rows.map Registration.name then
    let stored : Database :=
      { db with registrations := db.registrations.add arrival.row fresh }
    if arrival.counted then bumpRegisteredCount stored arrival.row.gathering 1 else stored
  else db

/-- The job between two members. -/
structure BatchState where
  /-- What the other requests have committed. -/
  base : Database
  /-- The same with the uncommitted writes of the job. -/
  db : Database
  /-- The totals. -/
  tally : BulkTally := {}

/-- Another request commits a row, unless a row stands in its way. -/
def BatchState.arrive (state : BatchState) (arrival : Arrival) : BatchState :=
  if state.db.admits arrival.row then
    { state with base := state.base.receive arrival, db := state.db.receive arrival }
  else state

/-- A member of the batch, with what arrives between its check and its insertion. -/
structure Turn where
  /-- The member. -/
  member : String
  /-- The rows of other requests. -/
  arrivals : List Arrival := []
deriving DecidableEq, Repr

/-- The state before the insertion. -/
def BatchState.await (state : BatchState) (turn : Turn) : BatchState :=
  turn.arrivals.foldl BatchState.arrive state

/-- A member is passed over. -/
def BatchState.skip (state : BatchState) : BatchState :=
  { state with tally := { state.tally with skipped := state.tally.skipped + 1 } }

/-- `frappe.db.rollback()`: the writes of the job are undone, and the totals are not. -/
def BatchState.rollback (state : BatchState) : BatchState := { state with db := state.base }

/-- A row of the job is counted and announced. -/
def BatchState.claim (state : BatchState) (doc : Registration) (claimed : Database) :
    BatchState :=
  { state with
    db := emitClaimed claimed doc
    tally :=
      if doc.registrationStatus = .registered then
        { state.tally with created := state.tally.created + 1 }
      else { state.tally with waitlisted := state.tally.waitlisted + 1 } }

/-- One member of a batch. -/
def BatchState.turn (site : Site) (gathering registeredVia : String) (anchors : GatheringScope)
    (state : BatchState) (turn : Turn) : Except Error BatchState :=
  if turn.member = "" then .ok state
  else if (existingRegistration state.db gathering turn.member).isSome then .ok state.skip
  else
    match claimSeat site (state.await turn).db ⟨gathering, turn.member, registeredVia, site.now⟩
      anchors with
    | .ok (doc, claimed) => .ok ((state.await turn).claim doc claimed)
    | .error .duplicateEntry => .ok (state.await turn).rollback.skip
    | .error other => .error other

/-- The last batch announces the end of the run. -/
def announceBulkCompleted (db : Database) (anchors : GatheringScope)
    (gathering bulkJobId : String) (batchIndex totalBatches : Nat) : Database :=
  if totalBatches ≤ batchIndex + 1 then
    db.emit Events.registrationBulkCompleted
      [("gathering", .str gathering), ("bulk_job_id", .str bulkJobId),
        ("batch", .int batchIndex)]
      [("branch", .str ((truthy anchors.branch).getD "")),
        ("group", .str ((truthy anchors.group).getD "")),
        ("organization", .ofOption anchors.organization)]
  else db

/-- `process_bulk_batch` with the rows that arrive while it runs. -/
def processBulkBatchAmong (site : Site) (db : Database) (gathering : String)
    (turns : List Turn) (registeredVia bulkJobId : String) (batchIndex totalBatches : Nat) :
    Except Error BatchState := do
  let anchors := db.gatheringScope gathering
  let state ← turns.foldlM (BatchState.turn site gathering registeredVia anchors) ⟨db, db, {}⟩
  .ok { state with
    db := announceBulkCompleted state.db anchors gathering bulkJobId batchIndex totalBatches }

end FlockOs.EventRegistration
