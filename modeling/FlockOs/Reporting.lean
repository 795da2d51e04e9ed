import FlockOs.Base
import FlockOs.Lib.Exec
import FlockOs.Lib.Tally
import Mathlib.Data.Finset.Insert

/-!
# Bulk attendance

`reporting.py`: the attendance item with its two keys, the gateway port, the bulk service
over the port, and the in-memory gateway.
-/

namespace FlockOs.Reporting

open Lib

/-- `BULK_BATCH_SIZE`. -/
def bulkBatchSize : Nat := 500

/-- `AttendanceItem`: one attendance row to be reported. -/
structure AttendanceItem where
  /-- Gathering or event. -/
  event : String
  /-- Member or visitor. -/
  attendeeRef : String
  /-- Branch of the row. -/
  branch : String
  /-- Attendance status. -/
  status : String := "Present"
  /-- Reporting path. -/
  source : String := "bulk"
  /-- Key given by the client. -/
  clientReqId : Option String := none
  /-- Engagement provenance: the gathering. -/
  gathering : Option String := none
  /-- Engagement provenance: the member. -/
  member : Option String := none
  /-- Engagement provenance: the session. -/
  engagementSession : Option String := none
  /-- Engagement provenance: the attendee key. -/
  attendeeKey : Option String := none
deriving DecidableEq, Repr

/-- An idempotency key, `(event, attendee_ref, client_req_id)`. -/
abbrev IdempotencyKey := String × String × String

/-- `idempotency_key`: the reference stands in for a missing or empty client key. -/
def AttendanceItem.idempotencyKey (item : AttendanceItem) : IdempotencyKey :=
  (item.event, item.attendeeRef, (truthy item.clientReqId).getD item.attendeeRef)

/-- `unique_key`: `(event, attendee_ref)`. -/
def AttendanceItem.uniqueKey (item : AttendanceItem) : String × String :=
  (item.event, item.attendeeRef)

/-- `AttendanceScope`: the branch that a batch is reported against. -/
structure AttendanceScope where
  /-- The branch. -/
  branch : String
deriving DecidableEq, Repr

/-- `RejectedItem`. -/
structure RejectedItem where
  /-- Place in the batch. -/
  index : Nat
  /-- Reference of the item. -/
  attendeeRef : String
  /-- Reason. -/
  reason : String
deriving DecidableEq, Repr

/-- `BulkBatchOutcome`. -/
structure BulkBatchOutcome where
  /-- The batch. -/
  batchId : String
  /-- Its scope. -/
  scope : AttendanceScope
  /-- Whether it passed the scope check. -/
  accepted : Bool
  /-- Rows written. -/
  inserted : Nat
  /-- Rows dropped as duplicates. -/
  deduplicated : Nat
  /-- Rejected items. -/
  rejected : List RejectedItem
  /-- Events emitted. -/
  events : List DomainEvent
deriving DecidableEq, Repr

/-- `BulkAttendanceGateway`: the persistence and event port of the service. -/
structure BulkAttendanceGateway (σ : Type) where
  /-- Bounds one atomic unit. -/
  transaction : {α : Type} → Exec Error σ α → Exec Error σ α
  /-- The keys not persisted yet. -/
  filterUnseen : List IdempotencyKey → Exec Error σ (List IdempotencyKey)
  /-- Write the rows; the number written. -/
  bulkInsert : List AttendanceItem → Exec Error σ Nat
  /-- Ensure that the summary rows exist. -/
  seedAggregate : AttendanceScope → List String → Exec Error σ Unit
  /-- Add to a summary counter. -/
  incrementAggregate : AttendanceScope → String → Nat → Exec Error σ Unit
  /-- Publish an event. -/
  emit : DomainEvent → Exec Error σ Unit

/-- The event of a batch that fails the scope check. -/
def batchRejected (items : List AttendanceItem) (scope : AttendanceScope) (batchId : String) :
    DomainEvent where
  name := Events.attendanceBatchRejected
  payload := [("scope", .str scope.branch), ("batch_id", .str batchId),
    ("rejected", .int items.length),
    ("out_of_scope", .int (items.countP fun item => item.branch ≠ scope.branch)),
    ("reason", .str "out_of_scope")]

/-- The event of the new rows of one gathering. -/
def bulkRecorded (scope : AttendanceScope) (batchId event : String) (count : Nat) :
    DomainEvent where
  name := Events.attendanceBulkRecorded
  payload := [("gathering", .str event), ("count", .int count), ("batch_id", .str batchId),
    ("branch", .str scope.branch)]

/-- The block of `submit` under `transaction()`: the number of rows written, the number dropped
and the events to emit. -/
def writeNew {σ : Type} (gateway : BulkAttendanceGateway σ) (items : List AttendanceItem)
    (scope : AttendanceScope) (batchId : String) : Exec Error σ (Nat × Nat × List DomainEvent) := do
  let unseenKeys ← gateway.filterUnseen (items.map (·.idempotencyKey))
  -- Membership is tested item by item, so two items with one unseen key both pass.
  let newItems := items.filter fun item => unseenKeys.contains item.idempotencyKey
  let deduplicated := items.length - newItems.length
  if newItems.isEmpty then pure (0, deduplicated, [])
  else do
    let inserted ← gateway.bulkInsert newItems
    let byEvent := counter (newItems.map (·.event))
    byEvent.forM fun entry => gateway.incrementAggregate scope entry.1 entry.2
    let events := byEvent.map fun entry => bulkRecorded scope batchId entry.1 entry.2
    pure (inserted, deduplicated, events)

/-- `BulkAttendanceService.submit`. -/
def submit {σ : Type} (gateway : BulkAttendanceGateway σ) (items : List AttendanceItem)
    (scope : AttendanceScope) (batchId : String) : Exec Error σ BulkBatchOutcome :=
  if items.any fun item => item.branch ≠ scope.branch then do
    let rejected := items.mapIdx fun index item =>
      ⟨index, item.attendeeRef, "batch_scope_violation"⟩
    let event := batchRejected items scope batchId
    gateway.emit event
    pure ⟨batchId, scope, false, 0, 0, rejected, [event]⟩
  else do
    gateway.seedAggregate scope (items.map (·.event)).eraseDups
    let (inserted, deduplicated, events) ←
      gateway.transaction (writeNew gateway items scope batchId)
    events.forM gateway.emit
    pure ⟨batchId, scope, true, inserted, deduplicated, [], events⟩

/-- The state of `InMemoryBulkAttendanceGateway`. A counter that was never set reads zero. -/
structure InMemory where
  /-- `_seen`. -/
  seen : Finset IdempotencyKey := ∅
  /-- `_unique`. -/
  unique : Finset (String × String) := ∅
  /-- `_counters`, by branch and event. -/
  counters : String × String → Nat := fun _ => 0
  /-- `published_events`. -/
  publishedEvents : List DomainEvent := []
  /-- `inserted_items`, in insertion order. -/
  insertedItems : List AttendanceItem := []

namespace InMemory

/-- Neither the key nor its `(event, attendee_ref)` pair is recorded. -/
def isUnseen (state : InMemory) (key : IdempotencyKey) : Bool :=
  decide (key ∉ state.seen) && decide ((key.1, key.2.1) ∉ state.unique)

/-- One turn of the loop of `bulk_insert`. -/
def insertItem (state : InMemory) (item : AttendanceItem) : InMemory :=
  { state with
    seen := insert item.idempotencyKey state.seen
    unique := insert item.uniqueKey state.unique
    insertedItems := state.insertedItems ++ [item] }

/-- `increment_aggregate`. -/
def increment (state : InMemory) (branch event : String) (delta : Nat) : InMemory :=
  { state with counters := addAt state.counters (branch, event) delta }

/-- `emit`. -/
def publish (state : InMemory) (event : DomainEvent) : InMemory :=
  { state with publishedEvents := state.publishedEvents ++ [event] }

/-- `aggregate` for one event. -/
def aggregate (state : InMemory) (branch event : String) : Nat := state.counters (branch, event)

end InMemory

/-- `InMemoryBulkAttendanceGateway`. -/
def inMemoryGateway : BulkAttendanceGateway InMemory where
  transaction body := body
  filterUnseen keys := do
    let state ← get
    pure (keys.filter state.isUnseen)
  bulkInsert items := do
    modify fun state => items.foldl InMemory.insertItem state
    pure items.length
  seedAggregate _ _ := pure ()
  incrementAggregate scope event delta :=
    modify fun state => state.increment scope.branch event delta
  emit event := modify fun state => state.publish event

/-- A call of `submit`. -/
structure Batch where
  /-- The items. -/
  items : List AttendanceItem
  /-- The scope. -/
  scope : AttendanceScope
  /-- The batch id. -/
  batchId : String
deriving DecidableEq, Repr

/-- The in-memory gateway after a call of `submit`. -/
def InMemory.submit (state : InMemory) (batch : Batch) : InMemory :=
  (Reporting.submit inMemoryGateway batch.items batch.scope batch.batchId).after state

end FlockOs.Reporting
