import FlockOs.EventApproval
import FlockOs.EventRegistration

/-!
# An approval and its event

The approval calls and the registration endpoints work on one table of gatherings. What a call on
an approval reads of a gathering comes from that table, and the columns that it writes go back.
-/

namespace FlockOs.EventOpening

open EventApproval EventRegistration

/-- The columns of an event that the calls on its approval write. -/
def copyOf (event : Gathering) : GatheringCopy where
  approvalStatus := event.approvalStatus
  registrationScope := event.registrationScope

/-- The approval and its event, before a call. -/
def deskOn (approval : Approval) (db : Database) : Desk where
  approval := approval
  gathering := ((db.gatherings approval.gathering).map copyOf).getD {}

/-- A session that reads the gatherings of the database. -/
def reading (session : Session) (db : Database) : Session :=
  { session with
    gatheringAnchors := fun name =>
      (db.gatherings name).map fun event => (event.branch, event.group)
    gatheringCapacity := fun name => (db.gatherings name).bind (·.capacity) }

/-- `submit_for_approval` on the database. -/
def submitOn (session : Session) (approval : Approval) (db : Database) :
    EStateM.Result Error Desk Approvals.ApprovalStatus :=
  submitForApproval (reading session db) (deskOn approval db)

/-- The event with the columns that a call on its approval has written. -/
def withCopy (copy : GatheringCopy) (event : Gathering) : Gathering :=
  { event with
    approvalStatus := copy.approvalStatus
    registrationScope := copy.registrationScope }

/-- The database after a call on an approval. -/
def writeBack (desk : Desk) (db : Database) : Database :=
  { db with
    gatherings := Function.update db.gatherings desk.approval.gathering
      ((db.gatherings desk.approval.gathering).map (withCopy desk.gathering)) }

end FlockOs.EventOpening
