import FlockOs.EventRegistration

/-!
# What a reader is told about registration

The two endpoints of `flock_event_registration.py` that answer without writing: the eligibility of a
member, and the counters of an event.
-/

namespace FlockOs.EventRegistration

open Lib Registrations Permissions

/-- The answer of `get_registration_eligibility` about a member. -/
structure EligibilityHint where
  /-- The event. -/
  gathering : String
  /-- The member. -/
  member : String
  /-- Whether the member may register and finds a seat. -/
  eligible : Bool
  /-- Whether registration is open. -/
  windowOpen : Bool
  /-- Whether the member is in the scope. -/
  inScope : Bool
  /-- Whether no seat remains. -/
  atCapacity : Bool
  /-- Confirmed registration scope. -/
  scope : String
  /-- What the reader is told. -/
  reason : String
deriving DecidableEq, Repr

/-- The answer of `get_registration_eligibility`. -/
inductive EligibilityAnswer where
  /-- No member is linked to the session. -/
  | unlinked (gathering reason : String)
  /-- The answer about a member. -/
  | verdict (hint : EligibilityHint)
deriving DecidableEq, Repr

/-- The reason that the reader is told: the last one that applies. -/
def hintReason (windowOpen inScope full : Bool) (reason : String) : String :=
  if ¬ windowOpen then
    "Registration is not open for this event (not approved or outside the window)."
  else if windowOpen ∧ inScope ∧ full then "Event is at capacity — you will be waitlisted."
  else reason

/-- `get_registration_eligibility` about a member. -/
def eligibilityOf (site : Site) (db : Database) (gathering registrant : String) :
    Except Error EligibilityHint := do
  let gateway := frappeRegistrationScopeGateway site db.toTables
  let window := registrationWindow db gathering
  let windowOpen ← isRegistrationWindowOpen window (.text site.now)
  let inScope ← isMemberInScope registrant gathering window.scope gateway
  let full := isCapacityFull window.capacity window.registeredCount
  let reason ← eligibilityReason registrant gathering window.scope gateway
  .ok {
    gathering := gathering
    member := registrant
    eligible := windowOpen && inScope && !full
    windowOpen := windowOpen
    inScope := inScope
    atCapacity := full
    scope := window.scope
    reason := hintReason windowOpen inScope full reason }

/-- `get_registration_eligibility`. -/
def getRegistrationEligibility (site : Site) (db : Database) (gathering : String)
    (member : Option String) : Except Error EligibilityAnswer :=
  if gathering = "" then .error (.validation "gathering is required")
  else match (truthy member).orElse fun _ => truthy (resolveRegistrantMember site) with
  | none => .ok (.unlinked gathering
      "No linked Flock Member for this session — pass ?member=<id>.")
  | some registrant => do
    let hint ← eligibilityOf site db gathering registrant
    .ok (.verdict hint)

/-- The answer of `get_registration_dashboard`. -/
structure RegistrationDashboard where
  /-- The event. -/
  gathering : String
  /-- Seat counter. -/
  registeredCount : Int
  /-- Check-in counter. -/
  checkedInCount : Int
  /-- Rows that wait for a seat. -/
  waitlistedCount : Nat
  /-- Capacity of the gathering. -/
  capacity : Option Int
  /-- Seats that remain. -/
  seatsRemaining : Option Int
  /-- Confirmed registration scope. -/
  registrationScope : String
  /-- Copy of the approval's status. -/
  approvalStatus : String
  /-- Opening bound. -/
  registrationOpensOn : Option Moment
  /-- Closing bound. -/
  registrationClosesOn : Option Moment
deriving DecidableEq, Repr

/-- `get_registration_dashboard`. -/
def getRegistrationDashboard (site : Site) (db : Database) (gathering : String) :
    Except Error RegistrationDashboard :=
  if gathering = "" then .error (.validation "gathering is required")
  else do
    assertBranchScope (db.gatheringScope gathering).branch site.user site.permissionGateway
    let row := (db.gatherings gathering).getD {}
    .ok {
      gathering := gathering
      registeredCount := row.registeredCount
      checkedInCount := row.checkedInCount
      waitlistedCount := (db.waitlist gathering).length
      capacity := row.capacity
      seatsRemaining := row.capacity.map fun capacity => max (capacity - row.registeredCount) 0
      registrationScope := (truthy row.registrationScope).getD scopeNone
      approvalStatus := (truthy row.approvalStatus).getD "Not Required"
      registrationOpensOn := row.registrationOpensOn.map .datetime
      registrationClosesOn := row.registrationClosesOn.map .datetime }

end FlockOs.EventRegistration
