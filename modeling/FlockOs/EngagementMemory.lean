import FlockOs.Engagement
import FlockOs.Lib.Floats
import FlockOs.Lib.Runs
import Mathlib.Data.Finset.Card

/-!
# The in-memory engagement runtime

`InMemoryEngagementGateway`, the service over it with the in-memory bulk gateway behind, and
the calls of the runtime. A run also keeps which tickets were issued and which requests were
accepted; no code reads that history.
-/

namespace FlockOs.Engagement

open Lib Reporting

/-- The state of `InMemoryEngagementGateway`. -/
structure InMemory where
  /-- `_secret`. -/
  secret : String := "test-secret"
  /-- `_sessions`. -/
  sessions : String → Option EngagementSession := fun _ => none
  /-- `_participations`, by session. -/
  participations : String → List Participation := fun _ => []
  /-- `_nonce_seen`. -/
  nonceSeen : Finset (String × String × String) := ∅
  /-- `_throttle`: the recent times of a key. -/
  throttle : String → List Rat := fun _ => []
  /-- `_ip_attendees`, by session and address. -/
  ipAttendees : String × String → Finset String := fun _ => ∅
  /-- `pending_finalizes`. -/
  pendingFinalizes : List (String × Int) := []

/-- `cutoff`: the second before a time, as `float` subtracts it. -/
def cutoff (now : Rat) : Rat := binary64.round (now - 1)

namespace InMemory

/-- The state with a session stored under an id. -/
def withSession (state : InMemory) (sessionId : String) (session : EngagementSession) : InMemory :=
  { state with sessions := Function.update state.sessions sessionId (some session) }

/-- `upsert_session`. -/
def upsertSession (state : InMemory) (session : EngagementSession) : InMemory :=
  state.withSession session.sessionId session

/-- The session that `set_session_status` stores: a window bound is stamped once. -/
def stamped (session : EngagementSession) (status : SessionStatus) (ts : Rat) :
    EngagementSession :=
  { session with
    status := status
    openAt := if status = .open then session.openAt.or (some ts) else session.openAt
    closeAt :=
      if status = .closing ∨ status = .closed then session.closeAt.or (some ts)
      else session.closeAt }

/-- `set_session_status`. -/
def setSessionStatus (state : InMemory) (sessionId : String) (status : SessionStatus)
    (ts : Rat) : Except Error InMemory :=
  match state.sessions sessionId with
  | none => .error (.engagement ("unknown session: " ++ quoted sessionId))
  | some session => .ok (state.withSession sessionId (stamped session status ts))

/-- The key of a row in `_nonce_seen`. -/
def nonceKey (participation : Participation) : String × String × String :=
  (participation.sessionId, participation.attendeeKey, participation.nonce)

/-- The attendees by address after a row. -/
def seenFrom (state : InMemory) (participation : Participation) :
    String × String → Finset String :=
  match truthy participation.ipAddress with
  | none => state.ipAttendees
  | some address =>
    Function.update state.ipAttendees (participation.sessionId, address)
      (insert participation.attendeeKey (state.ipAttendees (participation.sessionId, address)))

/-- The state after a row is appended. -/
def append (state : InMemory) (participation : Participation) : InMemory :=
  { state with
    nonceSeen := insert (nonceKey participation) state.nonceSeen
    participations := Function.update state.participations participation.sessionId
      (state.participations participation.sessionId ++ [participation])
    ipAttendees := state.seenFrom participation }

/-- `record_participation`. -/
def recordParticipation (state : InMemory) (participation : Participation) : Bool × InMemory :=
  if nonceKey participation ∈ state.nonceSeen then (false, state)
  else (true, state.append participation)

/-- The times of a key since the cutoff of `now`. -/
def recent (state : InMemory) (key : String) (now : Rat) : List Rat :=
  (state.throttle key).filter fun ts => cutoff now ≤ ts

/-- The bucket of a key is full at `now`. -/
def bucketFull (state : InMemory) (key : String) (now : Rat) (maxPerSecond : Nat) : Bool :=
  decide (maxPerSecond ≤ (state.recent key now).length)

/-- The state with a bucket replaced. -/
def setBucket (state : InMemory) (key : String) (bucket : List Rat) : InMemory :=
  { state with throttle := Function.update state.throttle key bucket }

/-- `throttle_allows`: the old times are dropped whatever the answer. -/
def throttleAllows (state : InMemory) (key : String) (now : Rat) (maxPerSecond : Nat) :
    Bool × InMemory :=
  if state.bucketFull key now maxPerSecond then (false, state.setBucket key (state.recent key now))
  else (true, state.setBucket key (state.recent key now ++ [now]))

/-- `same_ip_attendee_count`. -/
def sameIpAttendeeCount (state : InMemory) (sessionId address : String) : Nat :=
  (state.ipAttendees (sessionId, address)).card

end InMemory

/-- The engagement store, the attendance store behind the bulk service, and what was handed
to the bulk service and published. -/
structure Runtime where
  /-- The engagement gateway. -/
  store : InMemory := {}
  /-- The bulk attendance gateway. -/
  attendance : Reporting.InMemory := {}
  /-- The batches handed to the bulk service. -/
  submitted : List (List AttendanceItem) := []
  /-- The engagement events. -/
  publishedEvents : List DomainEvent := []

/-- Read from the store. -/
def ofStore {α : Type} (read : InMemory → α) : Exec Error Runtime α := do
  let runtime ← get
  pure (read runtime.store)

/-- Answer from the store and write it back. -/
def onStore {α : Type} (answer : InMemory → α × InMemory) : Exec Error Runtime α := do
  let runtime ← get
  let (value, store) := answer runtime.store
  set { runtime with store := store }
  pure value

/-- `InMemoryEngagementGateway` at a time of the server's clock. -/
def memoryGateway (time : Rat) : EngagementGateway Runtime where
  getSession sessionId := ofStore fun store => store.sessions sessionId
  setSessionStatus sessionId status now := do
    let runtime ← get
    let store ← Exec.ofExcept
      (runtime.store.setSessionStatus sessionId status (now.getD time))
    set { runtime with store := store }
  participations sessionId := ofStore fun store => store.participations sessionId
  ticketSecret _ := ofStore InMemory.secret
  upsertSession session := onStore fun store => ((), store.upsertSession session)
  recordParticipation participation :=
    onStore fun store => store.recordParticipation participation
  throttleAllows key now maxPerSecond :=
    onStore fun store => store.throttleAllows key now maxPerSecond
  sameIpAttendeeCount sessionId address :=
    ofStore fun store => store.sameIpAttendeeCount sessionId address
  scheduleFinalizeClose sessionId graceSeconds :=
    onStore fun store =>
      ((), { store with
        pendingFinalizes := store.pendingFinalizes ++ [(sessionId, graceSeconds)] })

/-- `BulkAttendanceService.submit` over the in-memory gateway, with the batch noted. -/
def memoryBulkService (_organization : String) (items : List AttendanceItem)
    (scope : AttendanceScope) (batchId : String) : Exec Error Runtime BulkBatchOutcome := do
  let runtime ← get
  let noted := { runtime with submitted := runtime.submitted ++ [items] }
  match Reporting.submit inMemoryGateway items scope batchId runtime.attendance with
  | .ok outcome attendance =>
    set { noted with attendance := attendance }
    pure outcome
  | .error raised attendance =>
    set { noted with attendance := attendance }
    throw raised

/-- The answers of a bulk service that does not raise, from the batches it was handed before. -/
abbrev BulkAnswer :=
  List (List AttendanceItem) → String → List AttendanceItem → AttendanceScope → String →
    BulkBatchOutcome

/-- What the service is constructed with. -/
structure Settings where
  /-- Hash functions. -/
  crypto : Crypto
  /-- Closing grace. -/
  graceSeconds : Int := defaultGraceSeconds
  /-- Throttle. -/
  throttlePerSecond : Nat := defaultParticipationThrottlePerSec

/-- The service over the in-memory gateways at a time of the server's clock. -/
def memoryService (settings : Settings) (time : Rat) : EngagementService Runtime where
  gateway := memoryGateway time
  bulkService := memoryBulkService
  emitEvent event := modify fun runtime =>
    { runtime with publishedEvents := runtime.publishedEvents ++ [event] }
  crypto := settings.crypto
  graceSeconds := settings.graceSeconds
  throttlePerSecond := settings.throttlePerSecond

/-- The calls of the runtime, each with the server's time. -/
inductive Call where
  | createSession (session : EngagementSession)
  | openSession (time : Rat) (sessionId : String) (now : Option Rat)
  | closeSession (time : Rat) (sessionId : String) (now : Option Rat)
  | finalizeClose (time : Rat) (sessionId : String)
  | join (time : Rat) (sessionId : String) (memberId : Option String)
      (deviceFingerprint : String)
  | participate (time : Rat) (request : ParticipateRequest)

/-- The runtime with its history. -/
structure Trace where
  /-- The runtime. -/
  runtime : Runtime := {}
  /-- The tickets that joins returned, with the session joined. -/
  issued : List (String × SessionTicket) := []
  /-- The requests that `participate` accepted, each with the tickets issued before it. -/
  accepted : List (ParticipateRequest × List (String × SessionTicket)) := []

/-- The trace after a call that leaves the history alone. -/
def Trace.run {α : Type} (trace : Trace) (computation : Exec Error Runtime α) : Trace :=
  { trace with runtime := computation.after trace.runtime }

/-- Perform a call. -/
def Call.perform (settings : Settings) (trace : Trace) : Call → Trace
  | .createSession session => trace.run ((memoryService settings 0).createSession session)
  | .openSession time sessionId now =>
    trace.run ((memoryService settings time).openSession sessionId now)
  | .closeSession time sessionId now =>
    trace.run ((memoryService settings time).closeSession sessionId now)
  | .finalizeClose time sessionId =>
    trace.run ((memoryService settings time).finalizeClose sessionId)
  | .join time sessionId memberId deviceFingerprint =>
    match (memoryService settings time).join time sessionId memberId deviceFingerprint
      trace.runtime with
    | .ok ticket runtime =>
      { trace with
        runtime := runtime
        issued := trace.issued ++ [(sessionId, ticket)] }
    | .error _ runtime => { trace with runtime := runtime }
  | .participate time request =>
    match (memoryService settings time).participate time request trace.runtime with
    | .ok receipt runtime =>
      { trace with
        runtime := runtime
        accepted :=
          if receipt.accepted then trace.accepted ++ [(request, trace.issued)]
          else trace.accepted }
    | .error _ runtime => { trace with runtime := runtime }

end FlockOs.Engagement
