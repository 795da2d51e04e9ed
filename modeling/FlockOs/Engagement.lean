import FlockOs.Base
import FlockOs.Lib.Exec
import FlockOs.Lib.Firsts
import FlockOs.Lib.Text
import FlockOs.Reporting
import Mathlib.Algebra.Order.Ring.Unbundled.Rat

/-!
# Engagement sessions

`engagement.py`: the session lifecycle, signed tickets, the checks of one participation, the
service over its gateway port, and the projection of the participation log to attendance
items. Times are seconds as rational numbers; `time.time()` is a parameter.
-/

namespace FlockOs.Engagement

open Lib Reporting

/-- `DEFAULT_GRACE_SECONDS`. -/
def defaultGraceSeconds : Int := 30

/-- `DEFAULT_TICKET_TTL_SECONDS`. -/
def defaultTicketTtlSeconds : Int := 60 * 60

/-- `DEFAULT_PARTICIPATION_THROTTLE_PER_SEC`. -/
def defaultParticipationThrottlePerSec : Nat := 5

/-- `SUSPECT_REACTION_MS`. -/
def suspectReactionMs : Rat := 100

/-- `SUSPECT_SAME_IP_ATTENDEES`. -/
def suspectSameIpAttendees : Nat := 8

/-- The kinds of the catalog (`ALL_KINDS`). -/
inductive EngagementKind where
  | quizRace
  | tapBurst
  | reaction
  | bingo
  | teamChallenge
  | poll
  | wordCloud
  | qa
  | pulse
deriving DecidableEq, Repr

/-- The discriminator that is stored. -/
def EngagementKind.text : EngagementKind → String
  | .quizRace => "quiz_race"
  | .tapBurst => "tap_burst"
  | .reaction => "reaction"
  | .bingo => "bingo"
  | .teamChallenge => "team_challenge"
  | .poll => "poll"
  | .wordCloud => "word_cloud"
  | .qa => "qa"
  | .pulse => "pulse"

/-- `ENGAGEMENT_TYPE_GAME` and `ENGAGEMENT_TYPE_QUESTIONNAIRE`. -/
inductive EngagementType where
  | game
  | questionnaire
deriving DecidableEq, Repr

/-- `engagement_type_for`: membership in `GAME_KINDS` or `QUESTIONNAIRE_KINDS`. -/
def engagementTypeFor : EngagementKind → EngagementType
  | .quizRace | .tapBurst | .reaction | .bingo | .teamChallenge => .game
  | .poll | .wordCloud | .qa | .pulse => .questionnaire

/-- `normalize_score`. -/
def normalizeScore (kind : EngagementKind) : Option Rat → Option Rat
  | none => none
  | some raw =>
    match engagementTypeFor kind with
    | .questionnaire => none
    | .game => some (max 0 (min 100 raw))

/-- The lifecycle states of a session. -/
inductive SessionStatus where
  | draft
  | scheduled
  | open
  | closing
  | closed
  | archived
deriving DecidableEq, Repr

/-- The text that is stored. -/
def SessionStatus.text : SessionStatus → String
  | .draft => "draft"
  | .scheduled => "scheduled"
  | .open => "open"
  | .closing => "closing"
  | .closed => "closed"
  | .archived => "archived"

/-- Membership in `_LIVE_STATES`. -/
def SessionStatus.isLive : SessionStatus → Bool
  | .open | .closing => true
  | _ => false

/-- `_VALID_TRANSITIONS`. -/
def validTransitions : SessionStatus → List SessionStatus
  | .draft => [.scheduled, .open]
  | .scheduled => [.draft, .open]
  | .open => [.closing]
  | .closing => [.closed]
  | .closed => [.archived]
  | .archived => []

/-- `validate_state_transition`. -/
def validateStateTransition (fromStatus toStatus : SessionStatus) : Except Error Unit :=
  if toStatus ∈ validTransitions fromStatus then .ok ()
  else .error (.engagement ("illegal engagement session transition: " ++ quoted fromStatus.text ++
    " → " ++ quoted toStatus.text))

/-- `EngagementSession`. -/
structure EngagementSession where
  /-- Name. -/
  sessionId : String
  /-- Gathering that attendance is credited to. -/
  gathering : String
  /-- Branch. -/
  branch : String
  /-- Organization. -/
  organization : String
  /-- Group. -/
  group : Option String := none
  /-- Kind. -/
  kind : EngagementKind := .tapBurst
  /-- Lifecycle state. -/
  status : SessionStatus := .draft
  /-- Start of the window. -/
  openAt : Option Rat := none
  /-- End of the window, before the grace. -/
  closeAt : Option Rat := none
deriving DecidableEq, Repr

/-- The group entry of an event of the session, when it has a group. -/
def EngagementSession.groupEntry (session : EngagementSession) : List (String × Value) :=
  ((truthy session.group).map fun group => ("group", Value.str group)).toList

/-- `scope`: the anchors of the events of a session. -/
def EngagementSession.scope (session : EngagementSession) : List (String × Value) :=
  [("branch", .str session.branch), ("organization", .str session.organization)] ++
    session.groupEntry

/-- `SessionTicket`. -/
structure SessionTicket where
  /-- Session. -/
  sessionId : String
  /-- Attendee. -/
  attendeeKey : String
  /-- Member, not signed. -/
  memberId : Option String
  /-- Device, not signed. -/
  deviceFingerprint : String
  /-- Start of validity. -/
  issuedAt : Rat
  /-- End of validity. -/
  expiresAt : Rat
  /-- Signature. -/
  signature : String
deriving DecidableEq, Repr

/-- Why a participation is out of the window. -/
inductive WindowReason where
  /-- `before_open`. -/
  | beforeOpen
  /-- `after_grace`. -/
  | afterGrace
deriving DecidableEq, Repr

/-- The `status_flags` dictionary. -/
structure StatusFlags where
  /-- `out_of_scope`. -/
  outOfScope : Bool
  /-- `out_of_scope_reason`. -/
  outOfScopeReason : Option WindowReason
  /-- `suspect_pattern`. -/
  suspectPattern : Bool
  /-- `offline_replay`. -/
  offlineReplay : Bool
  /-- `facilitator_override`. -/
  facilitatorOverride : Bool
deriving DecidableEq, Repr

/-- `Participation`: a row of the participation log. -/
structure Participation where
  /-- Session. -/
  sessionId : String
  /-- Attendee. -/
  attendeeKey : String
  /-- Member named by the client. -/
  memberId : Option String
  /-- Display name. -/
  attendeeDisplayName : String
  /-- Device. -/
  deviceFingerprint : String
  /-- Role. -/
  role : String
  /-- Type of the session's kind. -/
  engagementType : EngagementType
  /-- Kind of the session. -/
  engagementKind : EngagementKind
  /-- Normalized score. -/
  score : Option Rat
  /-- Time that the window and the throttle were judged at. -/
  submittedAt : Rat
  /-- Time claimed by the client, for audit. -/
  clientSubmittedAt : Option Rat
  /-- Branch of the session. -/
  branch : String
  /-- Organization of the session. -/
  organization : String
  /-- Group of the session. -/
  group : Option String
  /-- Region. -/
  geoRegion : Option String
  /-- Client nonce. -/
  nonce : String
  /-- Address of the client. -/
  ipAddress : Option String
  /-- Gathering of the session. -/
  gathering : String
  /-- Flags. -/
  statusFlags : StatusFlags
  /-- Answers. -/
  feedback : List (String × Value)
deriving DecidableEq, Repr

/-- Why a participation is refused. -/
inductive RefusalReason where
  /-- `session_not_live`. -/
  | sessionNotLive
  /-- `invalid_ticket`. -/
  | invalidTicket
  /-- `attendee_key_mismatch`. -/
  | attendeeKeyMismatch
  /-- `throttled`. -/
  | throttled
  /-- `duplicate_nonce`. -/
  | duplicateNonce
deriving DecidableEq, Repr

/-- `ParticipationReceipt`. -/
structure ParticipationReceipt where
  /-- Whether the row was recorded. -/
  accepted : Bool
  /-- Attendee of the request. -/
  attendeeKey : String
  /-- Reason of a refusal. -/
  reason : Option RefusalReason := none
  /-- Time of the row. -/
  submittedAt : Option Rat := none
  /-- Flags of the row; `none` stands for the empty dictionary. -/
  statusFlags : Option StatusFlags := none
deriving DecidableEq, Repr

/-- `ParticipateRequest`. -/
structure ParticipateRequest where
  /-- Session named by the client. -/
  sessionId : String
  /-- Ticket presented by the client. -/
  ticket : SessionTicket
  /-- Attendee key named by the client. -/
  attendeeKey : String
  /-- Member named by the client. -/
  memberId : Option String
  /-- Display name. -/
  attendeeDisplayName : String
  /-- Device. -/
  deviceFingerprint : String
  /-- Nonce. -/
  nonce : String
  /-- Role. -/
  role : Option String := none
  /-- Raw score. -/
  score : Option Rat := none
  /-- Reaction time. -/
  reactionMs : Option Rat := none
  /-- Time of the submission, when the caller passes one. -/
  submittedAt : Option Rat := none
  /-- Time claimed by the client. -/
  clientSubmittedAt : Option Rat := none
  /-- Address of the client. -/
  ipAddress : Option String := none
  /-- Region. -/
  geoRegion : Option String := none
  /-- Whether the row was queued offline. -/
  offlineReplay : Bool := false
  /-- Answers. -/
  feedback : List (String × Value) := []
deriving DecidableEq, Repr

/-- `CloseOutcome`. -/
structure CloseOutcome where
  /-- Session. -/
  sessionId : String
  /-- Gathering. -/
  gathering : String
  /-- Attendees credited. -/
  attendeeCount : Nat
  /-- Rows written. -/
  inserted : Nat
  /-- Rows dropped as duplicates. -/
  deduplicated : Nat
  /-- Whether the session is closed. -/
  finalized : Bool
deriving DecidableEq, Repr

/-- The functions of `hashlib` and `hmac` that the code uses, on texts. -/
structure Crypto where
  /-- `hashlib.sha256(text.encode()).hexdigest()`. -/
  sha256Hex : String → String
  /-- `hmac.new(secret.encode(), payload, hashlib.sha256).hexdigest()`. -/
  hmacHex : String → String → String

/-- `attendee_key`: the identity is the member, or the device where there is no member. -/
def attendeeKey (crypto : Crypto) (sessionId : String) (memberId : Option String)
    (deviceFingerprint : String) : Except Error String :=
  if sessionId = "" then .error (.engagement "session_id is required to derive attendee_key")
  else
    let identity := (truthy memberId).getD deviceFingerprint
    if identity = "" then
      .error (.engagement
        "either member_id or device_fingerprint is required to derive attendee_key")
    else .ok (crypto.sha256Hex (sessionId ++ "|" ++ identity))

/-- `_canonical_ticket_payload`: the four signed fields, separated by bars. -/
def canonicalTicketPayload (sessionId attendeeKey : String) (issuedAt expiresAt : Rat) : String :=
  joinLast '|' (joinLast '|' (joinLast '|' sessionId attendeeKey) (fixed6 issuedAt))
    (fixed6 expiresAt)

/-- `sign_ticket`. -/
def signTicket (crypto : Crypto) (sessionId attendeeKey : String) (issuedAt expiresAt : Rat)
    (secret : String) : Except Error String :=
  if secret = "" then .error (.engagement "a non-empty ticket secret is required")
  else .ok (crypto.hmacHex secret
    (canonicalTicketPayload sessionId attendeeKey issuedAt expiresAt))

/-- `text.isascii()`. -/
def isAscii (text : String) : Bool := text.toList.all fun char => char.toNat < 128

/-- `hmac.compare_digest` on texts: it refuses texts that are not ASCII. -/
def compareDigest (expected given : String) : Except Error Bool :=
  if isAscii expected && isAscii given then .ok (expected == given)
  else .error (.type "comparing strings with non-ASCII characters is not supported")

/-- `is_expired`. -/
def SessionTicket.isExpired (ticket : SessionTicket) (time : Rat) : Bool :=
  decide (ticket.expiresAt ≤ time)

/-- `verify_ticket`. -/
def verifyTicket (crypto : Crypto) (ticket : SessionTicket) (secret : String) (time : Rat) :
    Except Error Bool := do
  let expected ← signTicket crypto ticket.sessionId ticket.attendeeKey ticket.issuedAt
    ticket.expiresAt secret
  let same ← compareDigest expected ticket.signature
  .ok (same && !ticket.isExpired time)

/-- `issue_session_ticket`. -/
def issueSessionTicket (crypto : Crypto) (session : EngagementSession) (memberId : Option String)
    (deviceFingerprint secret : String) (time : Rat)
    (ttlSeconds : Int := defaultTicketTtlSeconds) : Except Error SessionTicket := do
  if !session.status.isLive then
    .error (.engagement ("cannot join a session in status " ++ quoted session.status.text ++
      " (must be open)"))
  else
    let expires := time + ttlSeconds
    let key ← attendeeKey crypto session.sessionId memberId deviceFingerprint
    let signature ← signTicket crypto session.sessionId key time expires secret
    .ok
      { sessionId := session.sessionId
        attendeeKey := key
        memberId := memberId
        deviceFingerprint := deviceFingerprint
        issuedAt := time
        expiresAt := expires
        signature := signature }

/-- `validate_session_window`: `none` when the time is in the window. -/
def validateSessionWindow (session : EngagementSession) (submittedAt : Rat) (graceSeconds : Int) :
    Option WindowReason :=
  if session.openAt.any fun openAt => submittedAt < openAt then some .beforeOpen
  else if session.closeAt.any fun closeAt => closeAt + graceSeconds < submittedAt then
    some .afterGrace
  else none

/-- `detect_suspect_pattern`. -/
def detectSuspectPattern (reactionMs : Option Rat) (sameIpAttendeeCount : Nat) : Bool :=
  (reactionMs.any fun ms => 0 < ms && ms < suspectReactionMs) ||
    decide (suspectSameIpAttendees ≤ sameIpAttendeeCount)

/-- `status_flags_for`. -/
def statusFlagsFor (window : Option WindowReason) (suspect offlineReplay : Bool) :
    StatusFlags where
  outOfScope := window.isSome
  outOfScopeReason := window
  suspectPattern := suspect
  offlineReplay := offlineReplay
  facilitatorOverride := false

/-- The part of `EngagementGateway` that the close path uses. -/
structure SessionStore (σ : Type) where
  /-- Load a session. -/
  getSession : String → Exec Error σ (Option EngagementSession)
  /-- Move a session to a status; the time is `now` when the caller passes one. -/
  setSessionStatus : String → SessionStatus → Option Rat → Exec Error σ Unit
  /-- The participation log of a session. -/
  participations : String → Exec Error σ (List Participation)

/-- `EngagementGateway`: the persistence port of the service. -/
structure EngagementGateway (σ : Type) extends SessionStore σ where
  /-- The secret of an organization. -/
  ticketSecret : String → Exec Error σ String
  /-- Persist a session. -/
  upsertSession : EngagementSession → Exec Error σ Unit
  /-- Append a row unless its `(session, attendee_key, nonce)` is present. -/
  recordParticipation : Participation → Exec Error σ Bool
  /-- Rate limit of a key. -/
  throttleAllows : String → Rat → Nat → Exec Error σ Bool
  /-- Distinct attendees of a session seen from an address. -/
  sameIpAttendeeCount : String → String → Exec Error σ Nat
  /-- Schedule the deferred finalize. -/
  scheduleFinalizeClose : String → Int → Exec Error σ Unit

/-- `EngagementService`, with the bulk service of its factory and the event publisher. -/
structure EngagementService (σ : Type) where
  /-- Gateway. -/
  gateway : EngagementGateway σ
  /-- `bulk_service_factory(organization).submit`. -/
  bulkService : String → List AttendanceItem → AttendanceScope → String →
    Exec Error σ BulkBatchOutcome
  /-- `emit_event`. -/
  emitEvent : DomainEvent → Exec Error σ Unit
  /-- Hash functions. -/
  crypto : Crypto
  /-- Closing grace. -/
  graceSeconds : Int := defaultGraceSeconds
  /-- Throttle. -/
  throttlePerSecond : Nat := defaultParticipationThrottlePerSec

variable {σ : Type}

/-- `_require_session`. -/
def requireSession (store : SessionStore σ) (sessionId : String) :
    Exec Error σ EngagementSession := do
  match ← store.getSession sessionId with
  | some session => pure session
  | none => throw (.engagement ("unknown engagement session: " ++ quoted sessionId))

/-- `_in_window_attendees`: the first in-window row of each attendee key. -/
def inWindowAttendees (participations : List Participation) : List Participation :=
  firstPerKey (·.attendeeKey) (participations.filter fun row => !row.statusFlags.outOfScope)

/-- `_preview_outcome`. -/
def previewOutcome (store : SessionStore σ) (session : EngagementSession) :
    Exec Error σ CloseOutcome := do
  let participations ← store.participations session.sessionId
  pure ⟨session.sessionId, session.gathering, (inWindowAttendees participations).length, 0, 0,
    decide (session.status = .closed)⟩

/-- `_participation_to_attendance_item`: the reference is the member of the row, or its
attendee key where there is no member. -/
def participationToAttendanceItem (participation : Participation) : AttendanceItem where
  event := participation.gathering
  attendeeRef := (truthy participation.memberId).getD participation.attendeeKey
  branch := participation.branch
  status := "Present"
  source := "engagement"
  clientReqId := some participation.attendeeKey
  gathering := some participation.gathering
  member := participation.memberId
  engagementSession := some participation.sessionId
  attendeeKey := some participation.attendeeKey

/-- The batch id of the attendance of a session. -/
def batchId (session : EngagementSession) : String := "engagement:" ++ session.sessionId

/-- `_project_and_record_attendance`. -/
def projectAndRecordAttendance (store : SessionStore σ)
    (bulkService : String → List AttendanceItem → AttendanceScope → String →
      Exec Error σ BulkBatchOutcome)
    (session : EngagementSession) : Exec Error σ CloseOutcome := do
  let participations ← store.participations session.sessionId
  let items := (inWindowAttendees participations).map participationToAttendanceItem
  let outcome ← bulkService session.organization items ⟨session.branch⟩ (batchId session)
  pure ⟨session.sessionId, session.gathering, items.length, outcome.inserted,
    outcome.deduplicated, true⟩

/-- The event of an opened session. -/
def openedEvent (session : EngagementSession) : DomainEvent where
  name := Events.engagementSessionOpened
  payload := [("session", .str session.sessionId), ("gathering", .str session.gathering),
    ("kind", .str session.kind.text), ("branch", .str session.branch),
    ("organization", .str session.organization)] ++ session.groupEntry
  scope := session.scope

/-- The event of a closed session. -/
def closedEvent (session : EngagementSession) (count : Nat) : DomainEvent where
  name := Events.engagementSessionClosed
  payload := [("session", .str session.sessionId), ("gathering", .str session.gathering),
    ("count", .int count), ("branch", .str session.branch),
    ("organization", .str session.organization)] ++ session.groupEntry
  scope := session.scope

/-- `finalize_close`. -/
def finalizeClose (store : SessionStore σ)
    (bulkService : String → List AttendanceItem → AttendanceScope → String →
      Exec Error σ BulkBatchOutcome)
    (emitEvent : DomainEvent → Exec Error σ Unit) (sessionId : String) :
    Exec Error σ CloseOutcome := do
  let session ← requireSession store sessionId
  -- The status alone decides that the work is done.
  if session.status = .closed then previewOutcome store session
  else do
    Exec.ofExcept (validateStateTransition session.status .closed)
    store.setSessionStatus sessionId .closed none
    let closed ← requireSession store sessionId
    let outcome ← projectAndRecordAttendance store bulkService closed
    emitEvent (closedEvent closed outcome.attendeeCount)
    pure outcome

namespace EngagementService

variable (service : EngagementService σ)

/-- `create_session`; a kind of the catalog passes `validate_kind`. -/
def createSession (session : EngagementSession) : Exec Error σ EngagementSession := do
  service.gateway.upsertSession session
  pure session

/-- `open_session`. -/
def openSession (sessionId : String) (now : Option Rat) : Exec Error σ EngagementSession := do
  let session ← requireSession service.gateway.toSessionStore sessionId
  Exec.ofExcept (validateStateTransition session.status .open)
  service.gateway.setSessionStatus sessionId .open now
  let opened ← requireSession service.gateway.toSessionStore sessionId
  service.emitEvent (openedEvent opened)
  pure opened

/-- `close_session`. -/
def closeSession (sessionId : String) (now : Option Rat) : Exec Error σ CloseOutcome := do
  let session ← requireSession service.gateway.toSessionStore sessionId
  Exec.ofExcept (validateStateTransition session.status .closing)
  service.gateway.setSessionStatus sessionId .closing now
  let closing ← requireSession service.gateway.toSessionStore sessionId
  service.gateway.scheduleFinalizeClose sessionId service.graceSeconds
  previewOutcome service.gateway.toSessionStore closing

/-- `finalize_close` of the service. -/
def finalizeClose (sessionId : String) : Exec Error σ CloseOutcome :=
  Engagement.finalizeClose service.gateway.toSessionStore service.bulkService service.emitEvent
    sessionId

/-- `join`. -/
def join (time : Rat) (sessionId : String) (memberId : Option String)
    (deviceFingerprint : String) : Exec Error σ SessionTicket := do
  let session ← requireSession service.gateway.toSessionStore sessionId
  if !session.status.isLive then
    throw (.engagement ("session " ++ quoted sessionId ++ " is not live (status=" ++
      quoted session.status.text ++ ")"))
  else do
    let secret ← service.gateway.ticketSecret session.organization
    Exec.ofExcept
      (issueSessionTicket service.crypto session memberId deviceFingerprint secret time)

/-- A refusal before the flags are known. -/
def refused (request : ParticipateRequest) (reason : RefusalReason) : ParticipationReceipt where
  accepted := false
  attendeeKey := request.attendeeKey
  reason := some reason

/-- The row of a request: identity, nonce and address are the client's, the rest the
session's. -/
def participationOf (session : EngagementSession) (request : ParticipateRequest)
    (submittedAt : Rat) (flags : StatusFlags) : Participation where
  sessionId := session.sessionId
  attendeeKey := request.attendeeKey
  memberId := request.memberId
  attendeeDisplayName := request.attendeeDisplayName
  deviceFingerprint := request.deviceFingerprint
  role := (truthy request.role).getD "member"
  engagementType := engagementTypeFor session.kind
  engagementKind := session.kind
  score := normalizeScore session.kind request.score
  submittedAt := submittedAt
  clientSubmittedAt := request.clientSubmittedAt
  branch := session.branch
  organization := session.organization
  group := session.group
  geoRegion := request.geoRegion
  nonce := request.nonce
  ipAddress := request.ipAddress
  gathering := session.gathering
  statusFlags := flags
  feedback := request.feedback

/-- The key of the throttle of a request. -/
def throttleKey (request : ParticipateRequest) : String :=
  request.attendeeKey ++ ":" ++ request.deviceFingerprint

/-- The attendees seen from the address of a request, where it has one. -/
def sameIp (session : EngagementSession) (request : ParticipateRequest) : Exec Error σ Nat :=
  match truthy request.ipAddress with
  | some address => service.gateway.sameIpAttendeeCount session.sessionId address
  | none => pure 0

/-- `participate` after its checks of the session and the ticket. -/
def recordInteraction (time : Rat) (session : EngagementSession) (request : ParticipateRequest) :
    Exec Error σ ParticipationReceipt := do
  let submittedAt := request.submittedAt.getD time
  let window := validateSessionWindow session submittedAt service.graceSeconds
  let allowed ← service.gateway.throttleAllows (throttleKey request) submittedAt
    service.throttlePerSecond
  if !allowed then pure (refused request .throttled)
  else do
    let count ← service.sameIp session request
    let suspect := detectSuspectPattern request.reactionMs count
    let flags := statusFlagsFor window suspect request.offlineReplay
    let recorded ← service.gateway.recordParticipation
      (participationOf session request submittedAt flags)
    if !recorded then
      pure ⟨false, request.attendeeKey, some .duplicateNonce, some submittedAt, some flags⟩
    else pure ⟨true, request.attendeeKey, none, some submittedAt, some flags⟩

/-- `participate`. -/
def participate (time : Rat) (request : ParticipateRequest) :
    Exec Error σ ParticipationReceipt := do
  let session ← requireSession service.gateway.toSessionStore request.sessionId
  if !session.status.isLive then pure (refused request .sessionNotLive)
  else do
    let secret ← service.gateway.ticketSecret session.organization
    -- Nothing compares `request.ticket.sessionId` with the session that was looked up.
    let verified ← Exec.ofExcept (verifyTicket service.crypto request.ticket secret time)
    if !verified then pure (refused request .invalidTicket)
    else if request.ticket.attendeeKey ≠ request.attendeeKey then
      pure (refused request .attendeeKeyMismatch)
    else service.recordInteraction time session request

/-- `bulk_participate`. -/
def bulkParticipate (time : Rat) (requests : List ParticipateRequest) :
    Exec Error σ (List ParticipationReceipt) :=
  requests.mapM (service.participate time)

end EngagementService

end FlockOs.Engagement
