import FlockOs.Lib.Table
import FlockOs.Permissions
import FlockOs.Registrations
import Mathlib.Logic.Function.Basic

/-!
# The event registration controller

`flock_event_registration.py` over the two tables it writes: the gatherings with their
counters and the registrations. A request maps a database to its result and the database it
commits; a request that raises returns the exception and commits nothing. Each endpoint that
loads a registration and saves it later is given in two parts, the reading part up to
`frappe.get_doc` and its guards and the writing part from `Document.save` on, so that other
requests can be placed between the two; run one after the other they are the endpoint.
-/

namespace FlockOs.EventRegistration

open Lib Registrations Permissions

/-- The columns of `tabFlock Gathering` that registration reads or writes. -/
structure Gathering where
  /-- Tenant. -/
  organization : Option String := none
  /-- Branch anchor. -/
  branch : Option String := none
  /-- Originating group. -/
  group : Option String := none
  /-- `Routine` or `One-time`. -/
  eventCategory : Option String := none
  /-- Copy of the approval's status. -/
  approvalStatus : Option String := none
  /-- Confirmed registration scope. -/
  registrationScope : Option String := none
  /-- Opening bound, as the column returns it. -/
  registrationOpensOn : Option Int := none
  /-- Closing bound, as the column returns it. -/
  registrationClosesOn : Option Int := none
  /-- Capacity of the gathering. -/
  capacity : Option Int := none
  /-- Capacity of the registration. -/
  registrationCapacity : Option Int := none
  /-- Seat counter. -/
  registeredCount : Int := 0
  /-- Check-in counter. -/
  checkedInCount : Int := 0
deriving DecidableEq, Repr

/-- A row of `tabFlock Event Registration`. -/
structure Registration where
  /-- Primary key. -/
  name : String
  /-- Tenant. -/
  organization : Option String := none
  /-- Branch anchor. -/
  branch : String
  /-- Group anchor. -/
  group : String
  /-- The event registered for. -/
  gathering : String
  /-- The registered member. -/
  registrant : String
  /-- Denormalized name of the member. -/
  registrantName : String := ""
  /-- Lifecycle status. -/
  registrationStatus : RegistrationStatus
  /-- Registration time. -/
  registeredAt : Int
  /-- How the row was created. -/
  registeredVia : String
  /-- Attendance row linked at check-in. -/
  checkedInAttendance : Option String := none
  /-- Stamp of the last save, compared by `Document.save`. -/
  modified : Nat := 0
deriving DecidableEq, Repr

/-- The rows of `tabFlock Event Registration`. -/
abbrev RegistrationTable := Table Registration Registration.name

/-- The tables that registration writes. -/
structure Tables where
  /-- `tabFlock Gathering` by name. -/
  gatherings : String → Option Gathering
  /-- `tabFlock Event Registration`. -/
  registrations : RegistrationTable
  /-- The next `modified` stamp; every insertion and save takes a new one. -/
  clock : Nat := 0

/-- The database of the registration endpoints. -/
structure Database extends Tables where
  /-- The events emitted, which go to the outbox. -/
  outbox : List DomainEvent := []

/-- What a request reads besides the two tables: its user, its time, and the other tables. -/
structure Site where
  /-- `frappe.session.user`. -/
  user : String
  /-- `frappe.utils.now()`. -/
  now : Int
  /-- `frappe.get_roles`. -/
  roles : String → List String
  /-- The permission tables. -/
  permissionGateway : PermissionGateway
  /-- `Flock Member` linked to a user. -/
  linkedMember : String → Option String
  /-- `Flock Member.linked_user`. -/
  linkedUser : String → Option String
  /-- `Flock Member.full_name`. -/
  fullName : String → Option String
  /-- `Flock Branch.organization`. -/
  branchOrganization : String → Option String
  /-- `Flock Member.branch`. -/
  memberBranch : String → Option String
  /-- Groups on whose active roster a member is. -/
  memberGroups : String → List String
  /-- A group and its descendants. -/
  groupSubtree : String → Except Error (List String)
  /-- A branch and its descendants. -/
  branchSubtree : String → Except Error (List String)
  /-- Whether a member holds a valid invitation. -/
  hasValidInvitation : String → String → Except Error Bool
  /-- The name that the naming series gives the next registration. -/
  newName : Database → String

/-- A gathering's scope anchors, read in one query. -/
def Tables.gatheringScope (tables : Tables) (gathering : String) : GatheringScope :=
  match tables.gatherings gathering with
  | none => ⟨none, none, none⟩
  | some row => ⟨row.branch, row.group, row.organization⟩

/-- `FrappeRegistrationScopeGateway`. -/
def frappeRegistrationScopeGateway (site : Site) (tables : Tables) :
    RegistrationScopeGateway where
  memberBranch := site.memberBranch
  memberOrganization member := (truthy (site.memberBranch member)).bind site.branchOrganization
  memberGroups := site.memberGroups
  groupSubtree := site.groupSubtree
  branchSubtree := site.branchSubtree
  gatheringScope := tables.gatheringScope
  hasValidInvitation := site.hasValidInvitation

/-- `FlockEventRegistration.validate`: fill in the tenant and the registrant's name, then
require the branch, the gathering's own anchors and a one-time event. -/
def validate (site : Site) (tables : Tables) (doc : Registration) : Except Error Registration :=
  let organization := match truthy doc.organization with
    | some _ => doc.organization
    | none => match truthy (some doc.branch) with
      | none => doc.organization
      | some branch => match truthy (site.branchOrganization branch) with
        | none => doc.organization
        | some found => some found
  let registrantName :=
    if doc.registrant ≠ "" ∧ doc.registrantName = "" then
      (truthy (site.fullName doc.registrant)).getD ""
    else doc.registrantName
  let anchors := tables.gatheringScope doc.gathering
  let category := (tables.gatherings doc.gathering).bind (truthy ·.eventCategory)
  if doc.branch = "" then
    .error (.validation "Flock Event Registration.branch is required (the row-level perm anchor).")
  else if (truthy anchors.branch).isSome ∧
      (anchors.branch ≠ some doc.branch ∨ anchors.group ≠ some doc.group) then
    .error (.validation
      "A registration's branch/group must match its gathering's branch/group (FLO-7 §3.5).")
  else if category.isSome ∧ category ≠ some "One-time" then
    .error (.validation "Registration is only available for one-time events (FLO-7 §2).")
  else .ok { doc with organization := organization, registrantName := registrantName }

/-- The required fields of the DocType that an insertion or a save finds empty. -/
def missingFields (doc : Registration) : List String :=
  [("branch", doc.branch), ("group", doc.group), ("gathering", doc.gathering),
    ("registrant", doc.registrant)].filterMap fun (field, text) =>
      if text = "" then some field else none

/-- Frappe's mandatory-field check. -/
def validateMandatory (doc : Registration) : Except Error Unit :=
  match missingFields doc with
  | [] => .ok ()
  | field :: _ => .error (.mandatory field)

/-- `Document.insert`: name and validate the document, then add the row, unless its name or
its `(gathering, registrant)` pair is taken. -/
def insertRegistration (site : Site) (db : Database) (doc : Registration) :
    Except Error (Registration × Database) := do
  let doc ← validate site db.toTables { doc with name := site.newName db, modified := db.clock }
  validateMandatory doc
  if fresh : doc.name ∉ db.registrations.rows.map Registration.name then
    if db.registrations.rows.any fun row =>
        row.gathering = doc.gathering ∧ row.registrant = doc.registrant then
      .error .duplicateEntry
    else
      .ok (doc, { db with
        registrations := db.registrations.add doc fresh
        clock := db.clock + 1 })
  else .error .duplicateEntry

/-- `frappe.get_doc` of a registration. -/
def getRegistration (db : Database) (registrationId : String) : Except Error Registration :=
  match db.registrations.find? registrationId with
  | none => .error (.doesNotExist registrationId)
  | some doc => .ok doc

/-- `Document.save`: refuse a document whose row was saved since it was read, validate it,
and write the whole row with a new stamp. -/
def saveRegistration (site : Site) (db : Database) (doc : Registration) :
    Except Error (Registration × Database) := do
  let current ← getRegistration db doc.name
  if current.modified ≠ doc.modified then .error .timestampMismatch
  else do
    let doc ← validate site db.toTables { doc with modified := db.clock }
    validateMandatory doc
    .ok (doc, { db with
      registrations := db.registrations.replace doc
      clock := db.clock + 1 })

/-- `events.emit`: append to the outbox. -/
def Database.emit (db : Database) (name : String) (payload scope : List (String × Value)) :
    Database :=
  { db with outbox := db.outbox ++ [⟨name, payload, scope⟩] }

/-- `_scope_for_event`: the row-level anchors of a registration event. -/
def scopeForEvent (db : Database) (gathering branch group : String) : List (String × Value) :=
  let organization := (db.gatheringScope gathering).organization
  [("branch", .str branch), ("group", .str group), ("organization", .ofOption organization)]

/-- `_GATHERING_COUNTER_FIELDS`. -/
inductive CounterField where
  | registeredCount
  | checkedInCount
deriving DecidableEq, Repr

/-- `field = field + delta`, for a non-positive delta not below zero. -/
def adjustCounter (value delta : Int) : Int :=
  if 0 < delta then value + delta else max (value + delta) 0

/-- A gathering with one counter adjusted. -/
def Gathering.bump (row : Gathering) (field : CounterField) (delta : Int) : Gathering :=
  match field with
  | .registeredCount => { row with registeredCount := adjustCounter row.registeredCount delta }
  | .checkedInCount => { row with checkedInCount := adjustCounter row.checkedInCount delta }

/-- `_bump_gathering_count`: one `UPDATE` of a counter of the named gathering. -/
def bumpGatheringCount (db : Database) (gathering : String) (field : CounterField)
    (delta : Int) : Database :=
  match db.gatherings gathering with
  | none => db
  | some row =>
    { db with gatherings := Function.update db.gatherings gathering (row.bump field delta) }

/-- `_bump_registered_count`. -/
def bumpRegisteredCount (db : Database) (gathering : String) (delta : Int) : Database :=
  bumpGatheringCount db gathering .registeredCount delta

/-- `_authoritative_registration_status`: decide under the lock on the gathering row. -/
def authoritativeRegistrationStatus (db : Database) (gathering : String) :
    Except Error RegistrationStatus :=
  match db.gatherings gathering with
  | none => .error (.validation
      s!"Gathering {quoted gathering} not found (cannot decide capacity).")
  | some row => .ok (capacityDecision row.registrationCapacity row.registeredCount).status

/-- `_registration_window`: the gate inputs, as the columns return them. -/
def registrationWindow (db : Database) (gathering : String) : RegistrationWindow :=
  let row := (db.gatherings gathering).getD {}
  { approvalStatus := (truthy row.approvalStatus).getD "Not Required"
    scope := (truthy row.registrationScope).getD scopeNone
    opensOn := row.registrationOpensOn.map .datetime
    closesOn := row.registrationClosesOn.map .datetime
    capacity := row.capacity
    registeredCount := row.registeredCount }

/-- `_resolve_registrant_member`. -/
def resolveRegistrantMember (site : Site) : Option String := site.linkedMember site.user

/-- The registration of a member for a gathering, if there is one. -/
def existingRegistration (db : Database) (gathering registrant : String) :
    Option Registration :=
  db.registrations.rows.find? fun row => row.gathering = gathering ∧ row.registrant = registrant

/-- The answer of `register_for_event`. -/
structure RegisterReceipt where
  /-- Row name. -/
  registration : String
  /-- Its status. -/
  status : RegistrationStatus
  /-- Whether the row was there before. -/
  alreadyRegistered : Bool
deriving DecidableEq, Repr

/-- A registration that passed the gates and is to be inserted. -/
structure RegisterPlan where
  /-- The event. -/
  gathering : String
  /-- The member. -/
  registrant : String
  /-- How the row is created. -/
  registeredVia : String
  /-- Registration time. -/
  now : Int
deriving DecidableEq, Repr

/-- The fields that `register_for_event` and `process_bulk_batch` give a new document. -/
def newRegistration (plan : RegisterPlan) (anchors : GatheringScope) (registrantName : String)
    (status : RegistrationStatus) : Registration where
  name := ""
  organization := anchors.organization
  branch := (truthy anchors.branch).getD ""
  group := (truthy anchors.group).getD ""
  gathering := plan.gathering
  registrant := plan.registrant
  registrantName := registrantName
  registrationStatus := status
  registeredAt := plan.now
  registeredVia := plan.registeredVia

/-- Decide, insert, and count the seat: the critical section that both endpoints share. -/
def claimSeat (site : Site) (db : Database) (plan : RegisterPlan) (anchors : GatheringScope) :
    Except Error (Registration × Database) := do
  let status ← authoritativeRegistrationStatus db plan.gathering
  let registrantName := (truthy (site.fullName plan.registrant)).getD ""
  let (doc, db) ← insertRegistration site db
    (newRegistration plan anchors registrantName status)
  if status = .registered then .ok (doc, bumpRegisteredCount db plan.gathering 1)
  else .ok (doc, db)

/-- The event of a new registration. -/
def emitClaimed (db : Database) (doc : Registration) : Database :=
  let scope := scopeForEvent db doc.gathering doc.branch doc.group
  let payload := [("gathering", .str doc.gathering), ("member", .str doc.registrant),
    ("registration", .str doc.name)]
  if doc.registrationStatus = .waitlisted then
    db.emit Events.registrationWaitlisted payload scope
  else
    db.emit Events.registrationCreated
      (payload ++ [("status", .str doc.registrationStatus.text)]) scope

/-- `register_for_event` up to its look for an existing row: the answer when there is one,
else what to insert. -/
def registerForEventRead (site : Site) (db : Database) (gathering : String)
    (member : Option String) (registeredVia : String) :
    Except Error (RegisterReceipt ⊕ RegisterPlan) :=
  if gathering = "" then .error (.validation "gathering is required")
  else match (truthy member).orElse fun _ => truthy (resolveRegistrantMember site) with
  | none => .error (.validation
      "No linked Flock Member for this session — pass an explicit member=.")
  | some registrant =>
    if ¬ registrationVia.contains registeredVia then
      .error (.validation
        "registered_via must be one of ('Self', 'Leader', 'Invite', 'Bulk').")
    else do
      if (truthy member).isSome ∧ member ≠ resolveRegistrantMember site then
        assertBranchScope (db.gatheringScope gathering).branch site.user site.permissionGateway
      let window := registrationWindow db gathering
      let isOpen ← isRegistrationWindowOpen window (.text site.now)
      if ¬ isOpen then
        .error (.validation
          "Registration is not open for this event (not approved or outside the window).")
      else do
        let inScope ← isMemberInScope registrant gathering window.scope
          (frappeRegistrationScopeGateway site db.toTables)
        if ¬ inScope then
          .error (.permission
            s!"Member {quoted registrant} is out of scope ({quoted window.scope}) for this event (FLO-7 §5).")
        else match existingRegistration db gathering registrant with
          | some existing =>
            .ok (.inl ⟨existing.name, existing.registrationStatus, true⟩)
          | none => .ok (.inr ⟨gathering, registrant, registeredVia, site.now⟩)

/-- `register_for_event` from the capacity decision on. A lost race for the unique pair rolls
back and answers with the row that won. -/
def registerForEventWrite (site : Site) (db : Database) (plan : RegisterPlan) :
    Except Error (RegisterReceipt × Database) :=
  match claimSeat site db plan (db.gatheringScope plan.gathering) with
  | .ok (doc, claimed) =>
    .ok (⟨doc.name, doc.registrationStatus, false⟩, emitClaimed claimed doc)
  | .error .duplicateEntry =>
    match existingRegistration db plan.gathering plan.registrant with
    | some existing => .ok (⟨existing.name, existing.registrationStatus, true⟩, db)
    | none => .error .duplicateEntry
  | .error other => .error other

/-- `register_for_event`. -/
def registerForEvent (site : Site) (db : Database) (gathering : String)
    (member : Option String) (registeredVia : String) :
    Except Error (RegisterReceipt × Database) := do
  match ← registerForEventRead site db gathering member registeredVia with
  | .inl receipt => .ok (receipt, db)
  | .inr plan => registerForEventWrite site db plan

/-- The running totals of `process_bulk_batch`. -/
structure BulkTally where
  /-- Rows registered. -/
  created : Nat := 0
  /-- Rows waitlisted. -/
  waitlisted : Nat := 0
  /-- Members passed over. -/
  skipped : Nat := 0
deriving DecidableEq, Repr

/-- One member of a batch. `start` is the database that `frappe.db.rollback()` returns to. -/
def processBulkMember (site : Site) (start : Database) (gathering registeredVia : String)
    (anchors : GatheringScope) (state : BulkTally × Database) (member : String) :
    Except Error (BulkTally × Database) :=
  let (tally, db) := state
  if member = "" then .ok (tally, db)
  else if (existingRegistration db gathering member).isSome then
    .ok ({ tally with skipped := tally.skipped + 1 }, db)
  else match claimSeat site db ⟨gathering, member, registeredVia, site.now⟩ anchors with
    | .ok (doc, claimed) =>
      let db := emitClaimed claimed doc
      if doc.registrationStatus = .registered then
        .ok ({ tally with created := tally.created + 1 }, db)
      else .ok ({ tally with waitlisted := tally.waitlisted + 1 }, db)
    | .error .duplicateEntry => .ok ({ tally with skipped := tally.skipped + 1 }, start)
    | .error other => .error other

/-- `process_bulk_batch`. -/
def processBulkBatch (site : Site) (db : Database) (gathering : String)
    (members : List String) (registeredVia bulkJobId : String) (batchIndex totalBatches : Nat) :
    Except Error (BulkTally × Database) := do
  let anchors := db.gatheringScope gathering
  let (tally, filled) ← members.foldlM
    (processBulkMember site db gathering registeredVia anchors) ({}, db)
  if totalBatches ≤ batchIndex + 1 then
    let scope := [("branch", Value.str ((truthy anchors.branch).getD "")),
      ("group", Value.str ((truthy anchors.group).getD "")),
      ("organization", Value.ofOption anchors.organization)]
    .ok (tally, filled.emit Events.registrationBulkCompleted
      [("gathering", .str gathering), ("bulk_job_id", .str bulkJobId), ("batch", .int batchIndex)]
      scope)
  else .ok (tally, filled)

/-- `_assert_may_act_on_registration`: the registrant, or a user with branch scope. -/
def assertMayActOnRegistration (site : Site) (doc : Registration) : Except Error Unit :=
  if truthy (site.linkedUser doc.registrant) = some site.user then .ok ()
  else assertBranchScope (some doc.branch) site.user site.permissionGateway

/-- `_assert_may_check_in`: a leader or an admin with branch scope. -/
def assertMayCheckIn (site : Site) (doc : Registration) : Except Error Unit :=
  if anyRole (site.roles site.user) [roleOrgAdmin, roleBranchAdmin, roleGroupLeader] then
    assertBranchScope (some doc.branch) site.user site.permissionGateway
  else .error (.permission
    "Only a group leader, branch admin, or org admin may check in a registration (FLO-7 §6.1).")

/-- The waitlisted rows of a gathering. -/
def Tables.waitlist (tables : Tables) (gathering : String) : List Registration :=
  tables.registrations.rows.filter fun row =>
    row.gathering = gathering ∧ row.registrationStatus = .waitlisted

/-- The order of the promotion query, `registered_at asc, name asc`. -/
def Registration.seniority (row : Registration) : Int ×ₗ String :=
  toLex (row.registeredAt, row.name)

/-- The candidate that `_promote_oldest_waitlisted` reads: the first waitlisted row in the
order of the query, handed to the selector. -/
def promotionCandidate (tables : Tables) (gathering : String) : Option WaitlistCandidate :=
  let rows := (tables.waitlist gathering).argmin Registration.seniority
  selectWaitlistPromotionCandidate <| rows.toList.map fun row =>
    ⟨row.name, gathering, row.registrant, row.registeredAt⟩

/-- The `UPDATE` of the promotion: the named row becomes registered if it is still
waitlisted. Returns the number of affected rows; `modified` is not touched. -/
def promoteRow (db : Database) (name : String) : Nat × Database :=
  match db.registrations.find? name with
  | none => (0, db)
  | some row =>
    if row.registrationStatus = .waitlisted then
      (1, { db with
        registrations := db.registrations.replace { row with registrationStatus := .registered } })
    else (0, db)

/-- `_promote_oldest_waitlisted`: returns the promoted row's identity. -/
def promoteOldestWaitlisted (db : Database) (gathering : String) :
    Option WaitlistCandidate × Database :=
  match promotionCandidate db.toTables gathering with
  | none => (none, db)
  | some choice =>
    let (affected, updated) := promoteRow db choice.name
    if affected = 0 then (none, updated)
    else (some choice, bumpRegisteredCount updated gathering 1)

/-- The answer of `cancel_registration`. -/
structure CancelReceipt where
  /-- Row name. -/
  registration : String
  /-- Its status. -/
  status : RegistrationStatus
  /-- The promoted registration. -/
  promoted : Option WaitlistCandidate
deriving DecidableEq, Repr

/-- `cancel_registration` up to its guards: the document as read. -/
def cancelRegistrationRead (site : Site) (db : Database) (registrationId : String) :
    Except Error Registration := do
  if registrationId = "" then .error (.validation "registration_id is required")
  else do
    let doc ← getRegistration db registrationId
    validateRegistrationTransition doc.registrationStatus .cancelled
    assertMayActOnRegistration site doc
    .ok doc

/-- The events of a cancellation and of its promotion. -/
def emitCancelled (db : Database) (doc : Registration) (promoted : Option WaitlistCandidate) :
    Database :=
  let scope := scopeForEvent db doc.gathering doc.branch doc.group
  let cancelled := db.emit Events.registrationCancelled
    [("gathering", .str doc.gathering), ("member", .str doc.registrant),
      ("registration", .str doc.name)] scope
  match promoted with
  | none => cancelled
  | some choice => cancelled.emit Events.registrationPromoted
      [("gathering", .str doc.gathering), ("member", .str choice.registrant),
        ("registration", .str choice.name), ("promoted_from", .str doc.name)] scope

/-- `cancel_registration` from the save on, with the document read before. Whether a seat is
released is decided by the status read. -/
def cancelRegistrationWrite (site : Site) (db : Database) (doc : Registration) :
    Except Error (CancelReceipt × Database) := do
  let wasSeated := doc.registrationStatus = .registered
  let (doc, saved) ← saveRegistration site db { doc with registrationStatus := .cancelled }
  let (promoted, released) :=
    if wasSeated then
      promoteOldestWaitlisted (bumpRegisteredCount saved doc.gathering (-1)) doc.gathering
    else (none, saved)
  .ok (⟨doc.name, doc.registrationStatus, promoted⟩, emitCancelled released doc promoted)

/-- `cancel_registration`. -/
def cancelRegistration (site : Site) (db : Database) (registrationId : String) :
    Except Error (CancelReceipt × Database) := do
  let doc ← cancelRegistrationRead site db registrationId
  cancelRegistrationWrite site db doc

/-- `check_in_registration` up to its guards: the document as read. -/
def checkInRegistrationRead (site : Site) (db : Database) (registrationId : String) :
    Except Error Registration := do
  if registrationId = "" then .error (.validation "registration_id is required")
  else do
    let doc ← getRegistration db registrationId
    validateRegistrationTransition doc.registrationStatus .checkedIn
    assertMayCheckIn site doc
    .ok doc

/-- `check_in_registration` from the save on, with the document read before. The counter is
bumped whatever the status read was. -/
def checkInRegistrationWrite (site : Site) (db : Database) (doc : Registration)
    (attendanceRef : Option String) :
    Except Error ((String × RegistrationStatus) × Database) := do
  let linked := (truthy attendanceRef).orElse fun _ => doc.checkedInAttendance
  let (doc, saved) ← saveRegistration site db
    { doc with registrationStatus := .checkedIn, checkedInAttendance := linked }
  let counted := bumpGatheringCount saved doc.gathering .checkedInCount 1
  .ok ((doc.name, doc.registrationStatus),
    counted.emit Events.registrationCheckedIn
      [("gathering", .str doc.gathering), ("member", .str doc.registrant),
        ("registration", .str doc.name), ("attendance", .ofOption attendanceRef)]
      (scopeForEvent counted doc.gathering doc.branch doc.group))

/-- `check_in_registration`. -/
def checkInRegistration (site : Site) (db : Database) (registrationId : String)
    (attendanceRef : Option String) : Except Error ((String × RegistrationStatus) × Database) := do
  let doc ← checkInRegistrationRead site db registrationId
  checkInRegistrationWrite site db doc attendanceRef

/-- A request to one of the four endpoints, with the site it runs on. -/
inductive Call where
  | register (site : Site) (gathering : String) (member : Option String) (registeredVia : String)
  | cancel (site : Site) (registrationId : String)
  | checkIn (site : Site) (registrationId : String) (attendanceRef : Option String)
  | bulk (site : Site) (gathering : String) (members : List String)
      (registeredVia bulkJobId : String) (batchIndex totalBatches : Nat)

/-- The database that a request commits: the one it returns, or the old one if it raises. -/
def committed {α : Type} (db : Database) : Except Error (α × Database) → Database
  | .ok (_, next) => next
  | .error _ => db

/-- Perform one request atomically. -/
def Call.perform (db : Database) : Call → Database
  | .register site gathering member registeredVia =>
    committed db (registerForEvent site db gathering member registeredVia)
  | .cancel site registrationId => committed db (cancelRegistration site db registrationId)
  | .checkIn site registrationId attendanceRef =>
    committed db (checkInRegistration site db registrationId attendanceRef)
  | .bulk site gathering members registeredVia bulkJobId batchIndex totalBatches =>
    committed db
      (processBulkBatch site db gathering members registeredVia bulkJobId batchIndex totalBatches)

end FlockOs.EventRegistration
