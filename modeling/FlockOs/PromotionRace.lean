import FlockOs.EventRegistration

/-!
# Concurrent cancellations as transactions

`cancel_registration` statement by statement, for any number of requests at once, under
repeatable reads and row locks. A plain read sees the snapshot that the transaction's first
read fixed, with the transaction's own writes; an `UPDATE` acts on the latest committed row,
locks it until the transaction ends, and waits while another transaction holds the lock.
What a transaction writes is visible to the others when it commits.
-/

namespace FlockOs.EventRegistration

open Lib Registrations

/-- A request to cancel a registration. -/
structure CancelRequest where
  /-- Where the request runs. -/
  site : Site
  /-- The registration to cancel. -/
  registrationId : String

/-- How far the transaction of a request has come. -/
inductive Stage where
  /-- Before the first read. -/
  | waiting
  /-- The document is read and the guards are passed; the snapshot is fixed. -/
  | read (snapshot : Tables) (doc : Registration)
  /-- The document is saved; its row is locked. The view is the snapshot with the save. -/
  | saved (view : Tables) (wasSeated : Bool) (stored : Registration)
  /-- The seat is released; the gathering's row is locked. -/
  | released (view : Tables) (stored : Registration)
  /-- The promotion is over; the promoted row, if any, is locked. -/
  | updated (wasSeated : Bool) (stored : Registration) (promoted : Option WaitlistCandidate)
  /-- Committed. -/
  | committed (promoted : Option WaitlistCandidate)
  /-- Raised and rolled back. -/
  | refused

/-- The database under a set of transactions. -/
structure Race (ι : Type) where
  /-- The latest committed database, under the running clock. -/
  latest : Database
  /-- The transactions. -/
  stage : ι → Stage
  /-- The locks on registration rows. -/
  rowLock : String → Option ι := fun _ => none
  /-- The locks on gathering rows. -/
  gatheringLock : String → Option ι := fun _ => none

variable {ι : Type} [DecidableEq ι]

/-- Before the first statement of any request. -/
def Race.start (db : Database) : Race ι := { latest := db, stage := fun _ => .waiting }

/-- Another transaction holds the lock. -/
def heldByOther (lock : Option ι) (id : ι) : Bool :=
  match lock with
  | none => false
  | some holder => holder ≠ id

/-- A transaction moves on. -/
def Race.move (race : Race ι) (id : ι) (stage : Stage) : Race ι :=
  { race with stage := Function.update race.stage id stage }

/-- A transaction locks a registration row. -/
def Race.lockRow (race : Race ι) (id : ι) (name : String) : Race ι :=
  { race with rowLock := Function.update race.rowLock name (some id) }

/-- A transaction locks a gathering row. -/
def Race.lockGathering (race : Race ι) (id : ι) (name : String) : Race ι :=
  { race with gatheringLock := Function.update race.gatheringLock name (some id) }

/-- A transaction ends and gives its locks back. -/
def Race.unlock (race : Race ι) (id : ι) : Race ι :=
  { race with
    rowLock := fun name => if race.rowLock name = some id then none else race.rowLock name
    gatheringLock := fun name =>
      if race.gatheringLock name = some id then none else race.gatheringLock name }

/-- What the commit of a cancellation makes visible: the saved row, the released seat, and the
promoted row with its seat. -/
def publish (latest : Database) (wasSeated : Bool) (stored : Registration)
    (promoted : Option WaitlistCandidate) : Database :=
  let saved := { latest with registrations := latest.registrations.replace stored }
  let released :=
    if wasSeated then bumpRegisteredCount saved stored.gathering (-1) else saved
  let counted := match promoted with
    | none => released
    | some choice =>
      bumpRegisteredCount (promoteRow released choice.name).2 stored.gathering 1
  emitCancelled counted stored promoted

/-- The next statement of a transaction. It does nothing while a lock it needs is held by
another transaction, and when the transaction is over. -/
def Race.step (requests : ι → CancelRequest) (race : Race ι) (id : ι) : Race ι :=
  let request := requests id
  match race.stage id with
  | .waiting =>
    match cancelRegistrationRead request.site race.latest request.registrationId with
    | .error _ => race.move id .refused
    | .ok doc => race.move id (.read race.latest.toTables doc)
  | .read snapshot doc =>
    if heldByOther (race.rowLock doc.name) id then race
    else match saveRegistration request.site race.latest
        { doc with registrationStatus := .cancelled } with
      | .error _ => (race.unlock id).move id .refused
      | .ok (stored, saved) =>
        let view := { snapshot with registrations := snapshot.registrations.replace stored }
        let ticked := { race with latest := { race.latest with clock := saved.clock } }
        (ticked.lockRow id stored.name).move id
          (.saved view (doc.registrationStatus = .registered) stored)
  | .saved view wasSeated stored =>
    if ¬ wasSeated then race.move id (.updated false stored none)
    else if heldByOther (race.gatheringLock stored.gathering) id then race
    else (race.lockGathering id stored.gathering).move id (.released view stored)
  | .released view stored =>
    -- The candidate is read from the view, the `UPDATE` acts on the latest committed row.
    match promotionCandidate view stored.gathering with
    | none => race.move id (.updated true stored none)
    | some choice =>
      if heldByOther (race.rowLock choice.name) id then race
      else if (promoteRow race.latest choice.name).1 = 0 then
        race.move id (.updated true stored none)
      else (race.lockRow id choice.name).move id (.updated true stored (some choice))
  | .updated wasSeated stored promoted =>
    (({ race with latest := publish race.latest wasSeated stored promoted }).unlock id).move id
      (.committed promoted)
  | .committed _ => race
  | .refused => race

end FlockOs.EventRegistration
