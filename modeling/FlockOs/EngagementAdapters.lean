import FlockOs.EngagementStage
import FlockOs.Lib.SortedSet
import Mathlib.Algebra.Order.Ring.Unbundled.Rat
import Mathlib.Data.String.Basic

/-!
# The two engagement gateways

`FrappeEngagementGateway` over the session table and the sets and sorted sets of the cache, with
the texts that it stores there, and `InMemoryEngagementGateway` with its attendee index. Nothing
fails and nothing expires.
-/

namespace FlockOs.EngagementAdapters

open Lib Engagement EngagementStage

/-- `json.dumps` of `_participation_to_payload` and `json.loads`. -/
structure Codec where
  /-- The text of a payload. -/
  dumps : Participation → String
  /-- The payload of a text. -/
  loads : String → Option Participation
  /-- A payload can be read back. -/
  loads_dumps : ∀ row, loads (dumps row) = some row

/-- `_participation_from_payload`: the other defaults stand for what they replace. -/
def participationFromPayload (payload : Participation) : Participation :=
  { payload with role := (truthy (some payload.role)).getD "member" }

/-- The first second of year 1 and the first one after year 9999. -/
def calendar : Rat × Rat := (-62135596800, 253402300800)

/-- `datetime.fromtimestamp` in UTC, in seconds: whole microseconds within the calendar. -/
def fromTimestamp (now : Rat) : Except Error Rat :=
  if calendar.1 ≤ now ∧ now < calendar.2 then .ok (nearestEven (now * 1000000) / 1000000)
  else .error (.value "year is out of range")

/-- The session table and the cache of a site. -/
structure Cache where
  /-- `tabFlock Engagement Session`, by name. -/
  sessions : String → Option SessionRow := fun _ => none
  /-- `engagement:nonce_seen` of a session. -/
  nonceSeen : String → Finset String := fun _ => ∅
  /-- `engagement:participations` of a session: the texts by their times. -/
  log : String → SortedSet Rat String := fun _ => .empty
  /-- `engagement:throttle` of a key: a time under itself. -/
  throttle : String → SortedSet Rat Rat := fun _ => .empty

namespace Cache

variable (codec : Codec) (zone : Rat → Rat) (cache : Cache)

/-- `_session_from_row`: `zone` is `datetime.timestamp()` of a column in the zone of the
process. -/
def sessionFromRow (name : String) (row : SessionRow) : EngagementSession :=
  { EngagementStage.sessionFromRow name row with
    openAt := row.openAt.map zone
    closeAt := row.closeAt.map zone }

/-- `get_session`. -/
def getSession (sessionId : String) : Option EngagementSession :=
  (cache.sessions sessionId).map (sessionFromRow zone sessionId)

/-- The cache with a session row set; an update of no row where the session is not there. -/
def withStatus (sessionId : String) (status : SessionStatus) (stamp : Option Rat) : Cache :=
  { cache with
    sessions := Function.update cache.sessions sessionId
      ((cache.sessions sessionId).map (SessionRow.withStatus status stamp)) }

/-- `set_session_status`: no time, no stamp. -/
def setSessionStatus (sessionId : String) (status : SessionStatus) :
    Option Rat → Except Error Cache
  | none => .ok (cache.withStatus sessionId status none)
  | some now => do
    let stamp ← fromTimestamp now
    pure (cache.withStatus sessionId status (some stamp))

/-- The payloads of the log, in the order of `zrange`. -/
def payloads (sessionId : String) : List Participation :=
  (cache.log sessionId).members.filterMap codec.loads

/-- `participations`. -/
def participations (sessionId : String) : List Participation :=
  (cache.payloads codec sessionId).map participationFromPayload

/-- The cache with a new row and its nonce. -/
def append (participation : Participation) : Cache :=
  { cache with
    nonceSeen := Function.update cache.nonceSeen participation.sessionId
      (insert (EngagementFrappe.nonceMember participation)
        (cache.nonceSeen participation.sessionId))
    log := Function.update cache.log participation.sessionId
      ((cache.log participation.sessionId).add participation.submittedAt
        (codec.dumps participation)) }

/-- `record_participation`. -/
def recordParticipation (participation : Participation) : Bool × Cache :=
  if EngagementFrappe.nonceMember participation ∈ cache.nonceSeen participation.sessionId then
    (false, cache)
  else (true, cache.append codec participation)

/-- `has_attendee`: any row of the attendee. -/
def hasAttendee (sessionId attendeeKey : String) : Bool :=
  (cache.participations codec sessionId).any fun row => row.attendeeKey = attendeeKey

/-- `attendees`: the keys of the rows in the window that are set. -/
def attendees (sessionId : String) : List String :=
  firstPerKey id
    (((cache.payloads codec sessionId).filter fun row => !row.statusFlags.outOfScope).filterMap
      fun row => truthy (some row.attendeeKey))

/-- The cache with a bucket replaced. -/
def setBucket (key : String) (bucket : SortedSet Rat Rat) : Cache :=
  { cache with throttle := Function.update cache.throttle key bucket }

/-- The bucket of a key once the old times are removed. -/
def recent (key : String) (now : Rat) : SortedSet Rat Rat :=
  (cache.throttle key).removeRange 0 (cutoff now)

/-- `throttle_allows`: an empty bucket always allows. -/
def throttleAllows (key : String) (now : Rat) (maxPerSecond : Int) : Bool × Cache :=
  let bucket := cache.recent key now
  if bucket.members.length ≠ 0 ∧ maxPerSecond ≤ bucket.members.length then
    (false, cache.setBucket key bucket)
  else (true, cache.setBucket key (bucket.add now now))

/-- `same_ip_attendee_count`. -/
def sameIpAttendeeCount (sessionId address : String) : Nat :=
  if address = "" then 0
  else (((cache.participations codec sessionId).filter fun row =>
    row.ipAddress = some address).map (·.attendeeKey)).toFinset.card

end Cache

/-- The state of the in-memory gateway with its attendee index. -/
structure Reference where
  /-- The other fields. -/
  store : InMemory := {}
  /-- `_attendees`: the keys in the window of a session, in insertion order. -/
  attendees : String → List String := fun _ => []

namespace Reference

variable (reference : Reference)

/-- The keys of a dictionary after one is set. -/
def joinKeys (keys : List String) (key : String) : List String :=
  if key ∈ keys then keys else keys ++ [key]

/-- The attendee index after a new row. -/
def indexed (participation : Participation) : String → List String :=
  if participation.statusFlags.outOfScope then reference.attendees
  else Function.update reference.attendees participation.sessionId
    (joinKeys (reference.attendees participation.sessionId) participation.attendeeKey)

/-- `record_participation`. -/
def recordParticipation (participation : Participation) : Bool × Reference :=
  if InMemory.nonceKey participation ∈ reference.store.nonceSeen then (false, reference)
  else (true,
    { store := reference.store.append participation
      attendees := reference.indexed participation })

/-- `set_session_status`, at a time of the clock. -/
def setSessionStatus (sessionId : String) (status : SessionStatus) (now : Option Rat)
    (clock : Rat) : Except Error Reference :=
  (reference.store.setSessionStatus sessionId status (now.getD clock)).map fun store =>
    { reference with store := store }

/-- `has_attendee`: a row of the attendee in the window. -/
def hasAttendee (sessionId attendeeKey : String) : Bool :=
  decide (attendeeKey ∈ reference.attendees sessionId)

/-- The reference with a bucket replaced. -/
def setBucket (key : String) (bucket : List Rat) : Reference :=
  { reference with store := reference.store.setBucket key bucket }

/-- `throttle_allows`: the old times are dropped whatever the answer. -/
def throttleAllows (key : String) (now : Rat) (maxPerSecond : Int) : Bool × Reference :=
  let bucket := reference.store.recent key now
  if maxPerSecond ≤ bucket.length then (false, reference.setBucket key bucket)
  else (true, reference.setBucket key (bucket ++ [now]))

end Reference

/-- A call of the port. The clock is that of both gateways. -/
inductive GatewayCall where
  | setSessionStatus (sessionId : String) (status : SessionStatus) (now : Option Rat)
      (clock : Rat)
  | getSession (sessionId : String)
  | recordParticipation (participation : Participation)
  | hasAttendee (sessionId attendeeKey : String)
  | attendees (sessionId : String)
  | participations (sessionId : String)
  | throttleAllows (key : String) (now : Rat) (double : binary64.Represents now)
      (maxPerSecond : Int)
  | sameIpAttendeeCount (sessionId address : String)

/-- What a call returns. -/
inductive Answer where
  | nothing
  | raised (error : Error)
  | session (found : Option EngagementSession)
  | flag (value : Bool)
  | keys (values : List String)
  | rows (values : List Participation)
  | count (value : Nat)
deriving DecidableEq, Repr

/-- The answer of a call that returns nothing or raises, and the state it leaves. -/
def settled {σ : Type} (before : σ) : Except Error σ → Answer × σ
  | .ok next => (.nothing, next)
  | .error error => (.raised error, before)

/-- A call over the site. -/
def Cache.perform (codec : Codec) (zone : Rat → Rat) (cache : Cache) :
    GatewayCall → Answer × Cache
  | .setSessionStatus sessionId status now _ =>
    settled cache (cache.setSessionStatus sessionId status now)
  | .getSession sessionId => (.session (cache.getSession zone sessionId), cache)
  | .recordParticipation participation =>
    ((cache.recordParticipation codec participation).map .flag id)
  | .hasAttendee sessionId attendeeKey =>
    (.flag (cache.hasAttendee codec sessionId attendeeKey), cache)
  | .attendees sessionId => (.keys (cache.attendees codec sessionId), cache)
  | .participations sessionId => (.rows (cache.participations codec sessionId), cache)
  | .throttleAllows key now _ maxPerSecond =>
    ((cache.throttleAllows key now maxPerSecond).map .flag id)
  | .sameIpAttendeeCount sessionId address =>
    (.count (cache.sameIpAttendeeCount codec sessionId address), cache)

/-- A call over the reference. -/
def Reference.perform (reference : Reference) : GatewayCall → Answer × Reference
  | .setSessionStatus sessionId status now clock =>
    settled reference (reference.setSessionStatus sessionId status now clock)
  | .getSession sessionId => (.session (reference.store.sessions sessionId), reference)
  | .recordParticipation participation =>
    ((reference.recordParticipation participation).map .flag id)
  | .hasAttendee sessionId attendeeKey =>
    (.flag (reference.hasAttendee sessionId attendeeKey), reference)
  | .attendees sessionId => (.keys (reference.attendees sessionId), reference)
  | .participations sessionId => (.rows (reference.store.participations sessionId), reference)
  | .throttleAllows key now _ maxPerSecond =>
    ((reference.throttleAllows key now maxPerSecond).map .flag id)
  | .sameIpAttendeeCount sessionId address =>
    (.count (reference.store.sameIpAttendeeCount sessionId address), reference)

end FlockOs.EngagementAdapters
