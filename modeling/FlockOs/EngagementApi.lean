import FlockOs.Engagement

/-!
# The player endpoints

`engagement_api.py`: the two transport parsers of a participation, and the endpoints
`participate` and `bulk_attendance` over the service.
-/

namespace FlockOs.EngagementApi

open Lib Engagement

/-- A ticket as the client sends it. -/
structure TicketPayload where
  /-- Session. -/
  sessionId : Option String := none
  /-- Attendee. -/
  attendeeKey : Option String := none
  /-- Member. -/
  memberId : Option String := none
  /-- Device. -/
  deviceFingerprint : Option String := none
  /-- Start of validity. -/
  issuedAt : Option Rat := none
  /-- End of validity. -/
  expiresAt : Option Rat := none
  /-- Signature. -/
  signature : Option String := none
deriving DecidableEq, Repr

/-- The arguments of `participate`. -/
structure ParticipatePayload where
  /-- Session. -/
  sessionId : String
  /-- Ticket. -/
  ticket : TicketPayload
  /-- Attendee. -/
  attendeeKey : String
  /-- Nonce. -/
  nonce : String
  /-- Member. -/
  memberId : Option String := none
  /-- Display name. -/
  attendeeDisplayName : String := ""
  /-- Device. -/
  deviceFingerprint : String := ""
  /-- Role. -/
  role : Option String := none
  /-- Raw score. -/
  score : Option Rat := none
  /-- Reaction time. -/
  reactionMs : Option Rat := none
  /-- Time of the submission, as the client gives it. -/
  submittedAt : Option Rat := none
  /-- Time for audit, as the client gives it. -/
  clientSubmittedAt : Option Rat := none
  /-- Region. -/
  geoRegion : Option String := none
  /-- Whether the row was queued offline. -/
  offlineReplay : Bool := false
  /-- Answers. -/
  feedback : Option (List (String × Value)) := none
deriving DecidableEq, Repr

/-- An item of `bulk_attendance`. -/
structure BulkItem where
  /-- Ticket. -/
  ticket : TicketPayload := {}
  /-- Attendee. -/
  attendeeKey : Option String := none
  /-- Nonce. -/
  nonce : Option String := none
  /-- Member. -/
  memberId : Option String := none
  /-- Display name. -/
  attendeeDisplayName : Option String := none
  /-- Device. -/
  deviceFingerprint : Option String := none
  /-- Role. -/
  role : Option String := none
  /-- Raw score. -/
  score : Option Rat := none
  /-- Reaction time. -/
  reactionMs : Option Rat := none
  /-- Time of the submission, as the client gives it. -/
  submittedAt : Option Rat := none
  /-- Time for audit, as the client gives it. -/
  clientSubmittedAt : Option Rat := none
  /-- Region. -/
  geoRegion : Option String := none
  /-- Whether the row was queued offline. -/
  offlineReplay : Option Bool := none
  /-- Answers. -/
  feedback : Option (List (String × Value)) := none
deriving DecidableEq, Repr

/-- `raw[field]` of a ticket. -/
def required {α : Type} (field : String) : Option α → Except Error α
  | some value => .ok value
  | none => .error (.validation ("ticket missing required field: " ++ field))

/-- `_ticket_from_dict`. -/
def ticketFromDict (raw : TicketPayload) : Except Error SessionTicket := do
  let sessionId ← required "session_id" raw.sessionId
  let attendeeKey ← required "attendee_key" raw.attendeeKey
  let deviceFingerprint ← required "device_fingerprint" raw.deviceFingerprint
  let issuedAt ← required "issued_at" raw.issuedAt
  let expiresAt ← required "expires_at" raw.expiresAt
  let signature ← required "signature" raw.signature
  pure ⟨sessionId, attendeeKey, raw.memberId, deviceFingerprint, issuedAt, expiresAt, signature⟩

/-- The request that `participate` builds; both client times go into it. -/
def participateRequest (clientIp : Option String) (payload : ParticipatePayload) :
    Except Error ParticipateRequest := do
  let ticket ← ticketFromDict payload.ticket
  pure
    { sessionId := payload.sessionId
      ticket := ticket
      attendeeKey := payload.attendeeKey
      memberId := payload.memberId
      attendeeDisplayName := payload.attendeeDisplayName
      deviceFingerprint := payload.deviceFingerprint
      nonce := payload.nonce
      role := payload.role
      score := payload.score
      reactionMs := payload.reactionMs
      submittedAt := payload.submittedAt
      clientSubmittedAt := payload.clientSubmittedAt
      ipAddress := clientIp
      geoRegion := payload.geoRegion
      offlineReplay := payload.offlineReplay
      feedback := payload.feedback.getD [] }

/-- `_participate_request_from_payload`. -/
def participateRequestFromPayload (clientIp : Option String) (sessionId : String)
    (raw : BulkItem) (index : Nat) : Except Error ParticipateRequest :=
  match raw.attendeeKey, raw.nonce with
  | none, _ =>
    .error (.validation ("items[" ++ toString index ++ "].attendee_key is required"))
  | some _, none =>
    .error (.validation ("items[" ++ toString index ++ "].nonce is required (idempotency)"))
  | some attendeeKey, some nonce => do
    let ticket ← ticketFromDict raw.ticket
    pure
      { sessionId := sessionId
        ticket := ticket
        attendeeKey := attendeeKey
        memberId := raw.memberId
        attendeeDisplayName := raw.attendeeDisplayName.getD ""
        deviceFingerprint := raw.deviceFingerprint.getD ""
        nonce := nonce
        role := raw.role
        score := raw.score
        reactionMs := raw.reactionMs
        submittedAt := raw.submittedAt
        clientSubmittedAt := raw.clientSubmittedAt
        ipAddress := clientIp
        geoRegion := raw.geoRegion
        offlineReplay := raw.offlineReplay.getD false
        feedback := raw.feedback.getD [] }

/-- The requests of the items of a batch, numbered from `index`. -/
def requestsFromItems (clientIp : Option String) (sessionId : String) :
    Nat → List BulkItem → Except Error (List ParticipateRequest)
  | _, [] => .ok []
  | index, raw :: rest => do
    let request ← participateRequestFromPayload clientIp sessionId raw index
    let requests ← requestsFromItems clientIp sessionId (index + 1) rest
    pure (request :: requests)

/-- The entry of a receipt in the reply of `bulk_attendance`. -/
structure BulkReceipt where
  /-- Place in the batch. -/
  index : Nat
  /-- Whether the row was recorded. -/
  accepted : Bool
  /-- Reason of a refusal. -/
  reason : Option RefusalReason
  /-- Attendee. -/
  attendeeKey : String
deriving DecidableEq, Repr

/-- The reply of `bulk_attendance`. -/
structure BulkReply where
  /-- Rows recorded. -/
  accepted : Nat
  /-- Repeated nonces. -/
  deduplicated : Nat
  /-- One entry per item. -/
  receipts : List BulkReceipt
deriving DecidableEq, Repr

/-- The reply made of the receipts of a batch. -/
def bulkReply (receipts : List ParticipationReceipt) : BulkReply where
  accepted := receipts.countP (·.accepted)
  deduplicated := receipts.countP fun receipt => receipt.reason = some .duplicateNonce
  receipts := receipts.mapIdx fun index receipt =>
    ⟨index, receipt.accepted, receipt.reason, receipt.attendeeKey⟩

variable {σ : Type} (service : EngagementService σ) (time : Rat) (clientIp : Option String)

/-- `participate`. -/
def participate (payload : ParticipatePayload) : Exec Error σ ParticipationReceipt := do
  let request ← Exec.ofExcept (participateRequest clientIp payload)
  service.participate time request

/-- `bulk_attendance`. -/
def bulkAttendance (sessionId : String) (items : List BulkItem) : Exec Error σ BulkReply := do
  let requests ← Exec.ofExcept (requestsFromItems clientIp sessionId 0 items)
  let receipts ← service.bulkParticipate time requests
  pure (bulkReply receipts)

/-- A request to one of the two endpoints. -/
inductive ApiRequest where
  | participate (payload : ParticipatePayload)
  | bulkAttendance (sessionId : String) (items : List BulkItem)
deriving DecidableEq, Repr

end FlockOs.EngagementApi
