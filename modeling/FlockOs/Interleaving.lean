import FlockOs.EventRegistration

/-!
# Interleaved registration requests

Requests that overlap in time. A request reads its document and passes its guards in one
step, without a lock, and saves, counts and promotes in a later step, which commits as a
whole; any other request may read or commit in between. The save notices a change since the
read by the row's `modified` stamp only, and the promotion writes the status without a new
stamp.
-/

namespace FlockOs.EventRegistration

open Lib

/-- A request about one registration. -/
inductive Request where
  | register (site : Site) (gathering : String) (member : Option String) (registeredVia : String)
  | cancel (site : Site) (registrationId : String)
  | checkIn (site : Site) (registrationId : String) (attendanceRef : Option String)

/-- What a request in progress holds: the plan or the document that it read. -/
inductive Pending where
  | register (site : Site) (plan : RegisterPlan)
  | cancel (site : Site) (doc : Registration)
  | checkIn (site : Site) (doc : Registration) (attendanceRef : Option String)

/-- The read step. A request that raises, or that answers without a write, is over. -/
def Request.read (db : Database) : Request → Option Pending
  | .register site gathering member registeredVia =>
    match registerForEventRead site db gathering member registeredVia with
    | .ok (.inr plan) => some (.register site plan)
    | _ => none
  | .cancel site registrationId =>
    match cancelRegistrationRead site db registrationId with
    | .ok doc => some (.cancel site doc)
    | .error _ => none
  | .checkIn site registrationId attendanceRef =>
    match checkInRegistrationRead site db registrationId with
    | .ok doc => some (.checkIn site doc attendanceRef)
    | .error _ => none

/-- The commit step, on the database as it is by then. -/
def Pending.commit (db : Database) : Pending → Database
  | .register site plan => committed db (registerForEventWrite site db plan)
  | .cancel site doc => committed db (cancelRegistrationWrite site db doc)
  | .checkIn site doc attendanceRef =>
    committed db (checkInRegistrationWrite site db doc attendanceRef)

/-- A database and the requests in progress on it. -/
structure Interleaved where
  /-- The committed database. -/
  db : Database
  /-- What each request in progress has read. -/
  pending : Nat → Option Pending

/-- A step of one of the requests. -/
inductive Action where
  | read (id : Nat) (request : Request)
  | commit (id : Nat)

/-- Perform a step. A request reads when its number is free, and commits what it read. -/
def Interleaved.step (state : Interleaved) : Action → Interleaved
  | .read id request =>
    match state.pending id with
    | some _ => state
    | none =>
      { state with pending := Function.update state.pending id (request.read state.db) }
  | .commit id =>
    match state.pending id with
    | none => state
    | some pending => ⟨pending.commit state.db, Function.update state.pending id none⟩

/-- The state in which no request is in progress. -/
def Interleaved.start (db : Database) : Interleaved := ⟨db, fun _ => none⟩

/-- No request is in progress. -/
def Interleaved.Idle (state : Interleaved) : Prop := ∀ id, state.pending id = none

/-- The request as a call of the endpoint. -/
def Request.call : Request → Call
  | .register site gathering member registeredVia => .register site gathering member registeredVia
  | .cancel site registrationId => .cancel site registrationId
  | .checkIn site registrationId attendanceRef => .checkIn site registrationId attendanceRef

/-- A request that commits right after its read is the endpoint performed as a whole. -/
theorem read_commit (db : Database) (request : Request) :
    (match request.read db with
      | none => db
      | some pending => pending.commit db) = request.call.perform db := by
  cases request with
  | register site gathering member via =>
    simp only [Request.read, Request.call, Call.perform, registerForEvent]
    cases registerForEventRead site db gathering member via with
    | error raised => rfl
    | ok verdict => cases verdict <;> rfl
  | cancel site registrationId =>
    simp only [Request.read, Request.call, Call.perform, cancelRegistration]
    cases cancelRegistrationRead site db registrationId <;> rfl
  | checkIn site registrationId attendanceRef =>
    simp only [Request.read, Request.call, Call.perform, checkInRegistration]
    cases checkInRegistrationRead site db registrationId <;> rfl

end FlockOs.EventRegistration
