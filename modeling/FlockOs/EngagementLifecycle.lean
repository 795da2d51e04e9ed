import FlockOs.EngagementApi
import FlockOs.EngagementStage
import FlockOs.GroupScope

/-!
# The endpoints of the engagement runtime

`engagement_api.py` over the site: `create_session`, the facilitator's endpoints, the job target
`finalize_close`, and the players' endpoints, with the guard of the facilitator and the writes
to the session document. None of them passes a time to the service.
-/

namespace FlockOs.EngagementApi

open Lib Reporting Engagement EngagementStage Permissions

/-- Branch, group and organization of a gathering. -/
structure GatheringAnchors where
  /-- Branch. -/
  branch : Option String := none
  /-- Group. -/
  group : Option String := none
  /-- Organization. -/
  organization : Option String := none

/-- Who calls, when, and what the permission tables, the members and the gatherings say then. -/
structure Caller where
  /-- Time of the server's clock. -/
  time : Rat
  /-- `frappe.session.user`. -/
  user : String
  /-- `_client_ip`. -/
  clientIp : Option String := none
  /-- `get_permission_gateway()`. -/
  permissions : PermissionGateway
  /-- `Flock Member.linked_user`. -/
  linkedUser : String → Option String := fun _ => none
  /-- `tabFlock Gathering`. -/
  gatherings : String → Option GatheringAnchors := fun _ => none

/-- The arguments of `create_session` that the runtime reads. -/
structure CreatePayload where
  /-- Gathering. -/
  gathering : String
  /-- Kind. -/
  kind : EngagementKind
  /-- Branch. -/
  branch : Option String := none
  /-- Group. -/
  group : Option String := none
  /-- Organization. -/
  organization : Option String := none
  /-- Facilitator. -/
  facilitator : Option String := none
  /-- Closing grace. -/
  graceSeconds : Int := defaultGraceSeconds
  /-- Planned start. -/
  scheduledAt : Option String := none

/-- The reply of `create_session` and `open_session`. -/
structure StatusReply where
  /-- Session. -/
  sessionId : String
  /-- Status. -/
  status : SessionStatus
deriving DecidableEq, Repr

/-- The receipt of `close_session` and `finalize_close`. -/
structure CloseReply where
  /-- Session. -/
  sessionId : String
  /-- Status. -/
  status : SessionStatus
  /-- Attendees in the window. -/
  attendeeCount : Nat
  /-- Rows written. -/
  inserted : Nat
  /-- Rows dropped as duplicates. -/
  deduplicated : Nat
  /-- Whether the session is closed. -/
  finalized : Bool
  /-- Batch. -/
  batchId : String
deriving DecidableEq, Repr

/-- The reply of `session_state`. -/
structure SessionState where
  /-- The session. -/
  session : EngagementSession
  /-- Type of its kind. -/
  engagementType : EngagementType
  /-- Attendees in the window. -/
  attendeeCount : Nat
deriving DecidableEq, Repr

section Endpoints

variable (settings : Settings) (answer : BulkAnswer) (caller : Caller)

/-- `get_service()` at the time of the call. -/
def getService : EngagementService Stage := stageService settings answer caller.time

/-- `except FlockEngagementError as exc: frappe.throw(str(exc))`. -/
def thrown {α : Type} (body : Exec Error Stage α) : Exec Error Stage α :=
  tryCatch body fun
    | .engagement message => throw (.validation message)
    | raised => throw raised

/-- The verdict of `_assert_facilitator` on a session of a branch. -/
def facilitatorVerdict (branch : String) (facilitator : Option String) : Except Error Unit :=
  if anyRole (caller.permissions.getUserRoles caller.user) bypassRoles then
    match assertBranchScope (some branch) caller.user caller.permissions with
    | .ok _ => .ok ()
    | .error _ => .error (.permission "facilitator scope violated for this session")
  else if truthy ((truthy facilitator).bind caller.linkedUser) = some caller.user then .ok ()
  else
    match assertBranchScope (some branch) caller.user caller.permissions with
    | .ok _ => .ok ()
    | .error _ =>
      .error (.permission "only the facilitator or a scoped admin may drive this session")

/-- `_assert_facilitator`. -/
def assertFacilitator (sessionId : String) : Exec Error Stage Unit := do
  let session ← requireSession (getService settings answer caller).gateway.toSessionStore sessionId
  let facilitator ← ofStage fun stage => (stage.sessions sessionId).bind (·.facilitator)
  Exec.ofExcept (facilitatorVerdict caller session.branch facilitator)

/-- `_update_session_doc` of the status. -/
def updateSessionDoc (sessionId : String) (status : SessionStatus) : Exec Error Stage Unit :=
  modify fun stage => stage.setSessionStatus sessionId status none

end Endpoints

/-- The stage with a session row under a name that is free. -/
def insertSession (stage : Stage) (name : String) (row : SessionRow) : Stage :=
  { stage with
    sessions := Function.update stage.sessions name ((stage.sessions name).or (some row)) }

/-- `_persist_session_doc`: an insert that fails is logged and passed over. -/
def persistSessionDoc (name : String) (row : SessionRow) (inserts : Bool) :
    Exec Error Stage Unit :=
  modify fun stage => if inserts then insertSession stage name row else stage

/-- The row of a new session. -/
def newSessionRow (payload : CreatePayload) (branch organization : String)
    (group : Option String) : SessionRow where
  gathering := payload.gathering
  branch := branch
  organization := organization
  group := group
  kind := payload.kind
  status := if (truthy payload.scheduledAt).isSome then .scheduled else .draft
  facilitator := payload.facilitator
  graceSeconds := payload.graceSeconds

section Endpoints

variable (settings : Settings) (answer : BulkAnswer) (caller : Caller)

/-- `create_session`, once the anchors are resolved. -/
def createResolved (payload : CreatePayload) (branch organization : String)
    (group : Option String) (drawn : String) (inserts : Bool) : Exec Error Stage StatusReply := do
  Exec.ofExcept (assertBranchScope (some branch) caller.user caller.permissions)
  let row := newSessionRow payload branch organization group
  let _ ← thrown ((getService settings answer caller).createSession (sessionFromRow drawn row))
  persistSessionDoc drawn row inserts
  pure ⟨drawn, row.status⟩

/-- `create_session`, with the id drawn by `_next_session_id` and whether the insert goes
through. -/
def createSession (payload : CreatePayload) (drawn : String) (inserts : Bool) :
    Exec Error Stage StatusReply :=
  match caller.gatherings payload.gathering with
  | none => throw (.doesNotExist payload.gathering)
  | some gathering =>
    match truthy ((truthy payload.branch).or gathering.branch),
      truthy ((truthy payload.organization).or gathering.organization) with
    | some branch, some organization =>
      createResolved settings answer caller payload branch organization
        ((truthy payload.group).or gathering.group) drawn inserts
    | _, _ =>
      throw (.validation
        "branch and organization are required (pass explicitly or via gathering)")

/-- `open_session`. -/
def openSession (sessionId : String) : Exec Error Stage StatusReply := do
  assertFacilitator settings answer caller sessionId
  let _ ← thrown ((getService settings answer caller).openSession sessionId none)
  updateSessionDoc sessionId .open
  pure ⟨sessionId, .open⟩

/-- The receipt of an outcome. -/
def closeReply (sessionId : String) (status : SessionStatus) (outcome : CloseOutcome) :
    CloseReply :=
  ⟨sessionId, status, outcome.attendeeCount, outcome.inserted, outcome.deduplicated,
    outcome.finalized, "engagement:" ++ sessionId⟩

/-- `close_session`. -/
def closeSession (sessionId : String) : Exec Error Stage CloseReply := do
  assertFacilitator settings answer caller sessionId
  let outcome ← thrown ((getService settings answer caller).closeSession sessionId none)
  updateSessionDoc sessionId .closing
  pure (closeReply sessionId .closing outcome)

/-- `finalize_close` past the service. -/
def finalizeReply (sessionId : String) (outcome : CloseOutcome) :
    Exec Error Stage (Except String CloseReply) := do
  if outcome.finalized then
    updateSessionDoc sessionId .closed
  pure (.ok (closeReply sessionId (if outcome.finalized then .closed else .closing) outcome))

/-- The outcome of the service, or the message of an error of it. -/
def attempted (body : Exec Error Stage CloseOutcome) :
    Exec Error Stage (Except String CloseOutcome) :=
  tryCatch (body >>= fun outcome => pure (.ok outcome)) fun
    | .engagement message => pure (.error message)
    | raised => throw raised

/-- `finalize_close`, without a guard: the receipt, or the message of an error of the service. -/
def finalizeClose (sessionId : String) : Exec Error Stage (Except String CloseReply) := do
  let attempt ← attempted ((getService settings answer caller).finalizeClose sessionId)
  match attempt with
  | .error message => pure (.error message)
  | .ok outcome => finalizeReply sessionId outcome

/-- `attendees`: the keys that have a row in the window. -/
def attendees (stage : Stage) (sessionId : String) : List String :=
  (inWindowAttendees (stage.log sessionId)).map (·.attendeeKey)

/-- `session_state`. -/
def sessionState (sessionId : String) : Exec Error Stage SessionState := do
  let session ← requireSession (getService settings answer caller).gateway.toSessionStore sessionId
  let attendees ← ofStage fun stage => attendees stage sessionId
  pure ⟨session, engagementTypeFor session.kind, attendees.length⟩

/-- `join_session`. -/
def joinSession (sessionId : String) (memberId deviceFingerprint : Option String) :
    Exec Error Stage (SessionTicket × SessionState) := do
  if (truthy deviceFingerprint).isNone && (truthy memberId).isNone then
    throw (.validation "member_id or device_fingerprint is required to join")
  let ticket ← thrown ((getService settings answer caller).join caller.time sessionId memberId
    ((truthy deviceFingerprint).getD ""))
  let state ← sessionState settings answer caller sessionId
  pure (ticket, state)

end Endpoints

/-- The calls of the API. -/
inductive ApiCall where
  | createSession (payload : CreatePayload) (drawn : String) (inserts : Bool)
  | openSession (sessionId : String)
  | closeSession (sessionId : String)
  | finalizeClose (sessionId : String)
  | joinSession (sessionId : String) (memberId deviceFingerprint : Option String)
  | participate (payload : ParticipatePayload)
  | bulkAttendance (sessionId : String) (items : List BulkItem)
  | sessionState (sessionId : String)

/-- A call without its reply. -/
def runCall (settings : Settings) (answer : BulkAnswer) (caller : Caller) :
    ApiCall → Exec Error Stage Unit
  | .createSession payload drawn inserts =>
    createSession settings answer caller payload drawn inserts >>= fun _ => pure ()
  | .openSession sessionId => openSession settings answer caller sessionId >>= fun _ => pure ()
  | .closeSession sessionId => closeSession settings answer caller sessionId >>= fun _ => pure ()
  | .finalizeClose sessionId =>
    finalizeClose settings answer caller sessionId >>= fun _ => pure ()
  | .joinSession sessionId memberId deviceFingerprint =>
    joinSession settings answer caller sessionId memberId deviceFingerprint >>= fun _ => pure ()
  | .participate payload =>
    participate (getService settings answer caller) caller.time caller.clientIp payload >>=
      fun _ => pure ()
  | .bulkAttendance sessionId items =>
    bulkAttendance (getService settings answer caller) caller.time caller.clientIp sessionId
      items >>= fun _ => pure ()
  | .sessionState sessionId => sessionState settings answer caller sessionId >>= fun _ => pure ()

end FlockOs.EngagementApi
