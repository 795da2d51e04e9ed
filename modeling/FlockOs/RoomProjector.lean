import FlockOs.EventBus
import FlockOs.Realtime

/-!
# The room projector

`EventRoomProjector` of `realtime.py` over dictionaries of any values, with the operations of Python
that it puts them to and a publisher that may raise. Texts are sequences of Unicode scalar values,
which UTF-8 can encode.
-/

namespace FlockOs.RoomProjector

open Lib Realtime EventBus

/-- What the projector asks of a value and makes values of. -/
structure Python (Any : Type) where
  /-- The truth test. -/
  truth : Any → Bool
  /-- `str(value)`. -/
  str : Any → Except Error String
  /-- `int(value)`. -/
  int : Any → Except Error Int
  /-- The members of a list or a tuple. -/
  items : Any → Option (List Any)
  none : Any
  ofString : String → Any
  ofInt : Int → Any

variable {Any : Type}

/-- `RealtimeEmission`. -/
structure RoomEmission (Any : Type) where
  realtimeEvent : String
  room : String
  message : List (String × Any)
deriving DecidableEq, Repr

section Routes

variable (py : Python Any) (shardCount : Nat) (event : EventBus.DomainEvent Any)

/-- `entries.get(key)` where it is true. -/
def truthyGet (entries : List (String × Any)) (key : String) : Option Any :=
  (entries.lookup key).filter py.truth

/-- `_gathering_id`. -/
def gatheringId : Except Error (Option String) :=
  match ["gathering", "event"].findSome? fun key =>
      (truthyGet py event.payload key).or (truthyGet py event.scope key) with
  | none => .ok none
  | some value => (py.str value).map some

/-- The references under one key. -/
def refsAt (key : String) : Except Error (List String) :=
  match (event.payload.lookup key).bind py.items with
  | none => pure []
  | some values => (values.filter py.truth).mapM py.str

/-- `_attendee_refs`. -/
def attendeeRefs : Except Error (List String) := do
  let refs ← ["attendees", "members", "players", "attendee_refs"].mapM (refsAt py event)
  pure refs.flatten

/-- `_extra`. -/
def extra : List (String × Any) :=
  event.payload.filter fun entry =>
    entry.1 ∉ ["gathering", "event", "member", "attendee_ref", "count", "batch_id"]

/-- `{**entries, **others}`. -/
def merged (entries others : List (String × Any)) : List (String × Any) :=
  entries.map (fun entry => (entry.1, (others.lookup entry.1).getD entry.2)) ++
    others.filter fun other => (entries.lookup other.1).isNone

/-- `_presence_message`. -/
def presenceMessage (delta : Int) : List (String × Any) :=
  [("delta", py.ofInt delta),
    ("source", (event.payload.lookup "source").getD (py.ofString "reporting"))] ++
    ["gathering", "branch", "group"].filterMap fun key =>
      (truthyGet py event.payload key).map fun value => (key, value)

/-- The text of the member of a check-in: `str(member or attendee_ref or "")`. -/
def memberText : Except Error String :=
  match (truthyGet py event.payload "member").or (truthyGet py event.payload "attendee_ref") with
  | none => .ok ""
  | some value => py.str value

/-- The number of a batch: `int(count or 0)`. -/
def countNumber : Except Error Int :=
  match truthyGet py event.payload "count" with
  | none => .ok 0
  | some value => py.int value

/-- One emission to each of some shards of a gathering. -/
def toShards (realtimeEvent eventId : String) (message : List (String × Any))
    (shards : List Nat) : List (RoomEmission Any) :=
  shards.map fun shard => ⟨realtimeEvent, shardChannel eventId shard, message⟩

/-- `_route_single_attendance`. -/
def routeSingleAttendance : Except Error (List (RoomEmission Any)) := do
  let found ← gatheringId py event
  let member ← memberText py event
  match truthy found with
  | none => pure []
  | some eventId =>
    let presence ← if member = "" then pure []
      else do
        let shard ← shardFor member shardCount
        pure (toShards rtAttendancePresence eventId
          (merged [("gathering", py.ofString eventId), ("member", py.ofString member)]
            (extra event)) [shard])
    pure (presence ++
      [⟨rtAttendanceCount, broadcastChannel eventId, presenceMessage py event 1⟩])

/-- `_route_bulk_attendance`. -/
def routeBulkAttendance : Except Error (List (RoomEmission Any)) := do
  match truthy (← gatheringId py event) with
  | none => pure []
  | some eventId =>
    let count ← countNumber py event
    let refs ← attendeeRefs py event
    let shards ← if refs = [] then pure (allShards shardCount) else shardsFor refs shardCount
    pure (toShards rtAttendancePresence eventId
        [("gathering", py.ofString eventId),
          ("batch_id", (event.payload.lookup "batch_id").getD py.none)] shards ++
      [⟨rtAttendanceCount, broadcastChannel eventId, presenceMessage py event count⟩])

/-- `_route_game_lifecycle`. -/
def routeGameLifecycle : Except Error (List (RoomEmission Any)) := do
  match truthy (← gatheringId py event) with
  | none => pure []
  | some eventId =>
    let state := if event.name = Events.engagementSessionOpened then "opened" else "closed"
    let message := merged [("gathering", py.ofString eventId), ("state", py.ofString state)]
      (extra event)
    pure (toShards rtGameState eventId message (allShards shardCount) ++
      [⟨rtGameState, broadcastChannel eventId, message⟩])

/-- `_route_broadcast_only`. -/
def routeBroadcastOnly (realtimeEvent : String) : Except Error (List (RoomEmission Any)) := do
  match truthy (← gatheringId py event) with
  | none => pure []
  | some eventId => pure [⟨realtimeEvent, broadcastChannel eventId,
      merged [("gathering", py.ofString eventId)] (extra event)⟩]

/-- The names of the events that go to all shards. -/
def lifecycleEvents : List String :=
  [Events.engagementSessionOpened, Events.engagementSessionClosed]

/-- The names of the events that go to the broadcast room alone. -/
def broadcastEvents : List String :=
  [Events.notificationSent, Events.announcementScheduled, Events.gatheringApproved]

/-- `EventRoomProjector.routed_events`. -/
def routedEvents : List String :=
  [Events.attendanceRecorded, Events.attendanceBulkRecorded] ++ lifecycleEvents ++ broadcastEvents

/-- The emissions of the handler in `_build_routes`, and none where there is no handler. -/
def route : Except Error (List (RoomEmission Any)) :=
  if event.name = Events.attendanceRecorded then routeSingleAttendance py shardCount event
  else if event.name = Events.attendanceBulkRecorded then routeBulkAttendance py shardCount event
  else if event.name ∈ lifecycleEvents then routeGameLifecycle py shardCount event
  else if event.name ∈ broadcastEvents then routeBroadcastOnly py event rtNotification
  else pure []

end Routes

/-- The world of the publisher, and the emissions that it was asked to publish. -/
structure Publishing (Any World : Type) where
  world : World
  attempts : List (RoomEmission Any) := []

variable {World : Type}

/-- The publisher is asked to publish. -/
def ask (publish : RoomEmission Any → Exec Error World Unit) (emission : RoomEmission Any) :
    Exec Error (Publishing Any World) Unit := fun publishing =>
  let attempts := publishing.attempts ++ [emission]
  match publish emission publishing.world with
  | .ok _ world => .ok () ⟨world, attempts⟩
  | .error raised world => .error raised ⟨world, attempts⟩

/-- One turn of the loop of `project`: what the publisher raises is dropped. -/
def attempt (publish : RoomEmission Any → Exec Error World Unit) (emission : RoomEmission Any) :
    Exec Error (Publishing Any World) Unit :=
  tryCatch (ask publish emission) fun _ => pure ()

/-- `EventRoomProjector.project`. -/
def project (py : Python Any) (shardCount : Nat)
    (publish : RoomEmission Any → Exec Error World Unit) (event : EventBus.DomainEvent Any) :
    Exec Error (Publishing Any World) (List (RoomEmission Any)) := do
  let emissions ← Exec.ofExcept (route py shardCount event)
  emissions.forM (attempt publish)
  return emissions

end FlockOs.RoomProjector
