import FlockOs.EngagementApi
import Mathlib.Data.List.Sort

/-!
# The offline queue of a player

`engagement-core.js` with its queue in the browser, and the views `participate` and
`flush_offline_queue` behind it. A call of the client is answered, or the answer never comes; the
wrapper `call` hands both an answer and the lack of a connection on, and never rejects.
-/

namespace FlockOs.EngagementClient

open Lib Engagement EngagementApi

/-- The spellings of a session in the arguments of a view. -/
structure SessionRef where
  /-- `session_id`. -/
  sessionId : Option String := none
  /-- `name`. -/
  name : Option String := none
  /-- `session`. -/
  session : Option String := none
  /-- `room_code`. -/
  roomCode : Option String := none
deriving DecidableEq, Repr

/-- `resolve_session_ref`: an id, or else a room code. -/
def resolveSessionRef (ref : SessionRef) : Except Error (String ⊕ String) :=
  match (truthy ref.sessionId).or ((truthy ref.name).or (truthy ref.session)) with
  | some sessionId => .ok (.inl sessionId)
  | none =>
    match truthy ref.roomCode with
    | some code => .ok (.inr code)
    | none => .error (.engagement "A session id or room code is required.")

/-- `_resolve_session_id`, with the sessions by their room codes. -/
def resolveSessionId (roomCodes : String → Option String) (ref : SessionRef) :
    Except Error String := do
  match ← resolveSessionRef ref with
  | .inl sessionId => .ok sessionId
  | .inr code =>
    match truthy (roomCodes code) with
    | some sessionId => .ok sessionId
    | none => .error (.doesNotExist ("No session found for room code " ++ quoted code))

/-- `float(value)` of a number; a truth value is one. -/
def number : Value → Option Rat
  | .bool value => some (if value then 1 else 0)
  | .int value => some value
  | .float value => some value
  | .none | .str _ | .list _ => none

/-- The score and the feedback that `unpack_participate_payload` finds. -/
def unpackParticipatePayload (kind : String) (payload : List (String × Value)) :
    Option Rat × List (String × Value) :=
  (if kind = EngagementKind.tapBurst.text then (payload.lookup "hit").bind number else none,
    payload)

/-- The arguments of the view `participate`. -/
structure ParticipateArgs extends SessionRef where
  /-- Ticket. -/
  ticket : Option TicketPayload := none
  /-- Attendee. -/
  attendeeKey : Option String := none
  /-- Kind. -/
  kind : Option String := none
  /-- Answers of the kind. -/
  payload : Option (List (String × Value)) := none
  /-- Nonce. -/
  nonce : Option String := none
  /-- Member. -/
  memberId : Option String := none
  /-- Display name. -/
  attendeeDisplayName : Option String := none
  /-- Device. -/
  deviceFingerprint : Option String := none
  /-- Role. -/
  role : Option String := none
  /-- Time for audit. -/
  clientSubmittedAt : Option Rat := none
  /-- Region. -/
  geoRegion : Option String := none
  /-- Whether the row was queued offline. -/
  offlineReplay : Option Bool := none
deriving DecidableEq, Repr

section Views

variable (roomCodes : String → Option String)

/-- The arguments that the view `participate` passes to the endpoint; `hash` is
`frappe.generate_hash`. -/
def participatePayload (hash : String) (args : ParticipateArgs) :
    Except Error ParticipatePayload := do
  let sessionId ← resolveSessionId roomCodes args.toSessionRef
  let ticket := args.ticket.getD {}
  match truthy ((truthy args.attendeeKey).or ticket.attendeeKey) with
  | none => .error (.validation "A valid session ticket is required to participate.")
  | some attendeeKey =>
    let extra := unpackParticipatePayload ((truthy args.kind).getD "") (args.payload.getD [])
    .ok
      { sessionId := sessionId
        ticket := ticket
        attendeeKey := attendeeKey
        nonce := (truthy args.nonce).getD hash
        memberId := args.memberId
        attendeeDisplayName := (truthy args.attendeeDisplayName).getD ""
        deviceFingerprint := (truthy args.deviceFingerprint).getD ""
        role := args.role
        score := extra.1
        clientSubmittedAt := args.clientSubmittedAt
        geoRegion := args.geoRegion
        offlineReplay := args.offlineReplay.getD false
        feedback := some extra.2 }

/-- What the view `participate` has the service do. -/
def participateAsks (clientIp : Option String) (hash : String) (args : ParticipateArgs) :
    Except Error ParticipateRequest := do
  let payload ← participatePayload roomCodes hash args
  participateRequest clientIp payload

/-- What the view `flush_offline_queue` has the service do. -/
def flushAsks (clientIp : Option String) (ref : SessionRef) (items : List BulkItem) :
    Except Error (List ParticipateRequest) := do
  let sessionId ← resolveSessionId roomCodes ref
  requestsFromItems clientIp sessionId 0 items

end Views

/-- An entry of the queue. -/
structure QueueEntry where
  /-- Nonce, the key of the entry. -/
  nonce : String
  /-- Session that was played. -/
  session : String
  /-- Kind. -/
  kind : String
  /-- Answers of the kind. -/
  payload : List (String × Value)
  /-- Ticket of the hook. -/
  ticket : Option TicketPayload
  /-- Time of the play. -/
  clientSubmittedAt : Rat
  /-- Clock of the device. -/
  clientClock : Int
deriving DecidableEq, Repr

/-- The entry as the arguments of `participate`. -/
def QueueEntry.args (entry : QueueEntry) : ParticipateArgs where
  session := some entry.session
  ticket := entry.ticket
  kind := some entry.kind
  payload := some entry.payload
  nonce := some entry.nonce
  clientSubmittedAt := some entry.clientSubmittedAt

/-- The entry as an item of a batch: it has the same fields, at the top level. -/
def QueueEntry.item (entry : QueueEntry) : BulkItem where
  ticket := entry.ticket.getD {}
  nonce := some entry.nonce
  clientSubmittedAt := some entry.clientSubmittedAt

/-- The entries that are flushed in one call. -/
def flushBatch : Nat := 200

/-- `put`: an entry replaces the one under its nonce. -/
def queuePush (entry : QueueEntry) (queue : List QueueEntry) : List QueueEntry :=
  (queue.filter fun other => other.nonce ≠ entry.nonce).orderedInsert
    (fun left right => left.nonce ≤ right.nonce) entry

/-- `delete` of each nonce. -/
def queueDelete (nonces : List String) (queue : List QueueEntry) : List QueueEntry :=
  queue.filter fun entry => entry.nonce ∉ nonces

/-- A call that waits for its answer. -/
inductive Pending where
  /-- `participate` of an entry. -/
  | single (entry : QueueEntry)
  /-- A batch of `flushQueue` in the hook of a session, with the entries of the later batches. -/
  | batch (session : String) (entries rest : List QueueEntry)

/-- What becomes of a call. -/
inductive Fate where
  /-- There is no `frappe.call`: the call resolves to nothing. -/
  | unavailable
  /-- The request does not reach the server. -/
  | lost
  /-- The request reaches the server, which answers each participation in turn; the answer comes
  back or not. -/
  | served (clientIp : Option String) (hash : String)
      (answer : Nat → ParticipateRequest → Except Error ParticipationReceipt) (arrives : Bool)

/-- The answers to the participations of a batch, numbered from `index`, up to one that raises. -/
def answers (answer : Nat → ParticipateRequest → Except Error ParticipationReceipt) :
    Nat → List ParticipateRequest → Except Error (List ParticipationReceipt)
  | _, [] => .ok []
  | index, request :: rest => do
    let receipt ← answer index request
    let receipts ← answers answer (index + 1) rest
    pure (receipt :: receipts)

/-- The server has the play: it accepted it, now or before. -/
def settles (receipt : ParticipationReceipt) : Bool :=
  receipt.accepted || receipt.reason = some .duplicateNonce

/-- The browser of a player, with the nonces of the plays that the server has answered accepted or
duplicate. -/
structure Browser where
  /-- The queue, in the order of the nonces. -/
  queue : List QueueEntry := []
  /-- The calls in flight. -/
  pending : List Pending := []
  /-- The nonces that the server has. -/
  settled : List String := []

/-- What happens in a browser. -/
inductive ClientEvent where
  /-- `participate` in the hook of the session of the entry. -/
  | participate (entry : QueueEntry)
  /-- `flushQueue` in the hook of a session. -/
  | flushQueue (session : String)
  /-- A call comes to its end. -/
  | settle (index : Nat) (fate : Fate)

section Steps

variable (roomCodes : String → Option String)

/-- The receipts of a call that the server serves, with the nonces they are for. -/
def serve (clientIp : Option String) (hash : String)
    (answer : Nat → ParticipateRequest → Except Error ParticipationReceipt) :
    Pending → Except Error (List (String × ParticipationReceipt))
  | .single entry => do
    let request ← participateAsks roomCodes clientIp hash entry.args
    let receipt ← answer 0 request
    pure [(entry.nonce, receipt)]
  | .batch session entries _ => do
    let requests ← flushAsks roomCodes clientIp { session := some session }
      (entries.map QueueEntry.item)
    let receipts ← answers answer 0 requests
    pure ((entries.map (·.nonce)).zip receipts)

/-- The nonces of a call. -/
def Pending.nonces : Pending → List String
  | .single entry => [entry.nonce]
  | .batch _ entries _ => entries.map (·.nonce)

/-- The call that follows when one is resolved. -/
def Pending.next : Pending → List Pending
  | .single _ => []
  | .batch _ _ [] => []
  | .batch session _ rest => [.batch session (rest.take flushBatch) (rest.drop flushBatch)]

/-- A call is resolved, whatever it resolves to: its entries are deleted. -/
def Browser.resolve (browser : Browser) (call : Pending) : Browser :=
  { browser with
    queue := queueDelete call.nonces browser.queue
    pending := browser.pending ++ call.next }

/-- The end of a call. -/
def Browser.settle (browser : Browser) (call : Pending) : Fate → Browser
  | .unavailable => browser.resolve call
  | .lost => browser
  | .served clientIp hash answer arrives =>
    match serve roomCodes clientIp hash answer call with
    -- An error is no answer to the callback.
    | .error _ => browser
    | .ok receipts =>
      let known := { browser with
        settled := browser.settled ++ (receipts.filter fun row => settles row.2).map (·.1) }
      if arrives then known.resolve call else known

/-- One event. -/
def Browser.step (browser : Browser) : ClientEvent → Browser
  | .participate entry =>
    { browser with
      queue := queuePush entry browser.queue
      pending := browser.pending ++ [.single entry] }
  | .flushQueue session =>
    if browser.queue = [] then browser
    else
      { browser with
        pending := browser.pending ++
          [.batch session (browser.queue.take flushBatch) (browser.queue.drop flushBatch)] }
  | .settle index fate =>
    match browser.pending[index]? with
    | none => browser
    | some call =>
      Browser.settle roomCodes { browser with pending := browser.pending.eraseIdx index } call fate

end Steps

end FlockOs.EngagementClient
