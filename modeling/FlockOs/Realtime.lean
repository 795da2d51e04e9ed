import FlockOs.Lib.Crc32
import FlockOs.Lib.LazyMatch
import FlockOs.Lib.Text
import FlockOs.Permissions
import Mathlib.Data.List.Sort

/-!
# Event rooms

`realtime.py`: the names of the rooms of a gathering, the projector that routes a domain event to
them, and the gate that parses the name of a room and asks for branch scope over its gathering.
-/

namespace FlockOs.Realtime

open Lib Permissions

/-- `EVENT_ROOM_PREFIX`. -/
def eventRoomPrefix : String := "flock_os:event"
/-- `BROADCAST_SEGMENT`. -/
def broadcastSegment : String := "broadcast"
/-- `SHARD_SEGMENT`. -/
def shardSegment : String := "shard"
/-- `DEFAULT_SHARD_COUNT`. -/
def defaultShardCount : Nat := 10

/-- `broadcast_channel`. -/
def broadcastChannel (eventId : String) : String :=
  eventRoomPrefix ++ ":" ++ eventId ++ ":" ++ broadcastSegment

/-- `shard_channel`. -/
def shardChannel (eventId : String) (shard : Nat) : String :=
  eventRoomPrefix ++ ":" ++ eventId ++ ":" ++ shardSegment ++ ":" ++ toString shard

/-- The polynomial of `zlib.crc32`. -/
def crcPolynomial : BitVec 32 := 0xEDB88320#32

/-- The bytes of a text. -/
def utf8 (text : String) : List (BitVec 8) := text.toUTF8.toList.map (·.toBitVec)

/-- `shard_for`. -/
def shardFor (attendeeRef : String) (shardCount : Nat) : Except Error Nat :=
  if shardCount = 0 then .error .zeroDivision
  else .ok ((Crc32.check crcPolynomial (utf8 attendeeRef)).toNat % shardCount)

/-- The numbers in order, each once. -/
def sortedSet (numbers : List Nat) : List Nat := numbers.dedup.insertionSort (· ≤ ·)

/-- `shards_for`. -/
def shardsFor (attendeeRefs : List String) (shardCount : Nat) : Except Error (List Nat) :=
  (attendeeRefs.mapM fun attendeeRef => shardFor attendeeRef shardCount).map sortedSet

/-- `all_shards`. -/
def allShards (shardCount : Nat) : List Nat := List.range shardCount

/-- Python's truth test on a value. -/
def isTrue : Value → Bool
  | .none => false
  | .bool value => value
  | .int value => value ≠ 0
  | .float value => value ≠ 0
  | .str value => value ≠ ""
  | .list values => values ≠ []

/-- `str(value)`, with the text of a floating-point number. -/
def textOf (floatText : Rat → String) : Value → String
  | .none => "None"
  | .bool value => if value then "True" else "False"
  | .int value => toString value
  | .float value => floatText value
  | .str value => value
  | .list values => "[" ++ ", ".intercalate (values.map quoted) ++ "]"

/-- The zeros of the decimal digits; nine more digits follow each. -/
def decimalZeros : List Nat :=
  [0x30, 0x660, 0x6f0, 0x7c0, 0x966, 0x9e6, 0xa66, 0xae6, 0xb66, 0xbe6, 0xc66, 0xce6, 0xd66, 0xde6,
    0xe50, 0xed0, 0xf20, 0x1040, 0x1090, 0x17e0, 0x1810, 0x1946, 0x19d0, 0x1a80, 0x1a90, 0x1b50,
    0x1bb0, 0x1c40, 0x1c50, 0xa620, 0xa8d0, 0xa900, 0xa9d0, 0xa9f0, 0xaa50, 0xabf0, 0xff10, 0x104a0,
    0x10d30, 0x11066, 0x110f0, 0x11136, 0x111d0, 0x112f0, 0x11450, 0x114d0, 0x11650, 0x116c0,
    0x11730, 0x118e0, 0x11950, 0x11c50, 0x11d50, 0x11da0, 0x11f50, 0x16a60, 0x16ac0, 0x16b50,
    0x1d7ce, 0x1d7d8, 0x1d7e2, 0x1d7ec, 0x1d7f6, 0x1e140, 0x1e2f0, 0x1e4f0, 0x1e950, 0x1fbf0]

/-- The value of a decimal digit. -/
def digitValue (char : Char) : Option Nat :=
  (decimalZeros.find? fun first => first ≤ char.toNat ∧ char.toNat < first + 10).map
    (char.toNat - ·)

/-- `\d`. -/
def isDecimal (char : Char) : Bool := (digitValue char).isSome

/-- `int` of decimal digits. -/
def intOfDigits (digits : List Char) : Nat :=
  digits.foldl (fun value digit => 10 * value + (digitValue digit).getD 0) 0

/-- What `int` says of a text with more digits than `sys.get_int_max_str_digits()`. -/
def exceedsLimit (limit count : Nat) : Error :=
  .value ("Exceeds the limit (" ++ toString limit ++
    " digits) for integer string conversion: value has " ++ toString count ++
    " digits; use sys.set_int_max_str_digits() to increase the limit")

/-- `sys.int_info.default_max_str_digits`. -/
def defaultMaxStrDigits : Nat := 4300

/-- The white space that `int` takes around a number. -/
def isPadding (char : Char) : Bool :=
  isWhitespace char && !(28 ≤ char.toNat && char.toNat ≤ 31)

/-- The digits of a number that may have an underscore between two of them. -/
def ungrouped (text : List Char) : Option (List Char) :=
  let groups := text.splitOn '_'
  if groups.all fun group => group ≠ [] ∧ group.all isDecimal then some groups.flatten else none

/-- A text after its sign, and whether that is a minus. -/
def unsigned : List Char → Bool × List Char
  | '-' :: rest => (true, rest)
  | '+' :: rest => (false, rest)
  | text => (false, text)

/-- `int(text)`. -/
def intOfText (text : String) : Except Error Int :=
  let body := ((text.toList.dropWhile isPadding).reverse.dropWhile isPadding).reverse
  let (negative, magnitude) := unsigned body
  match ungrouped magnitude with
  | none => .error (.value ("invalid literal for int() with base 10: " ++ quoted text))
  | some digits =>
    if defaultMaxStrDigits < digits.length then
      .error (exceedsLimit defaultMaxStrDigits digits.length)
    else .ok (if negative then -(intOfDigits digits : Int) else intOfDigits digits)

example : [" 12\n", "+5", "-1_000", "١"].map (fun text => (intOfText text).toOption) =
    [some 12, some 5, some (-1000), some 1] := by decide

example : ["", "+ 5", "1__0", "_1", "1.0"].map (fun text => (intOfText text).toOption) =
    [none, none, none, none, none] := by decide

/-- `int(value)`. -/
def intOf : Value → Except Error Int
  | .bool value => .ok (if value then 1 else 0)
  | .int value => .ok value
  | .float value => .ok (if value < 0 then value.ceil else value.floor)
  | .str value => intOfText value
  | .none => .error (.type "int() argument must be a string or a number, not 'NoneType'")
  | .list _ => .error (.type "int() argument must be a string or a number, not 'list'")

/-- `entries.get(key)`. -/
def get (entries : List (String × Value)) (key : String) : Value :=
  (entries.lookup key).getD .none

/-- `first or second`. -/
def orElse (first second : Value) : Value := if isTrue first then first else second

/-- `{**entries, **others}`. -/
def merged (entries others : List (String × Value)) : List (String × Value) :=
  entries.map (fun entry => (entry.1, (others.lookup entry.1).getD entry.2)) ++
    others.filter fun other => (entries.lookup other.1).isNone

section Routes

variable (floatText : Rat → String)

/-- `_gathering_id`. -/
def gatheringId (event : DomainEvent) : Option String :=
  (["gathering", "event"].find? fun key =>
    isTrue (orElse (get event.payload key) (get event.scope key))).map fun key =>
      textOf floatText (orElse (get event.payload key) (get event.scope key))

/-- `_attendee_refs`: the members of a list that are not empty. -/
def attendeeRefs (event : DomainEvent) : List String :=
  ["attendees", "members", "players", "attendee_refs"].flatMap fun key =>
    match get event.payload key with
    | .list values => values.filter (· ≠ "")
    | _ => []

/-- `_extra`. -/
def extra (event : DomainEvent) : List (String × Value) :=
  event.payload.filter fun entry =>
    entry.1 ∉ ["gathering", "event", "member", "attendee_ref", "count", "batch_id"]

/-- `_presence_message`. -/
def presenceMessage (event : DomainEvent) (delta : Int) : List (String × Value) :=
  [("delta", .int delta), ("source", (event.payload.lookup "source").getD (.str "reporting"))] ++
    (["gathering", "branch", "group"].filter fun key => isTrue (get event.payload key)).map
      fun key => (key, get event.payload key)

/-- `RT_ATTENDANCE_PRESENCE`. -/
def rtAttendancePresence : String := "flock_os:attendance:presence"
/-- `RT_ATTENDANCE_COUNT`. -/
def rtAttendanceCount : String := "flock_os:attendance:count"
/-- `RT_GAME_STATE`. -/
def rtGameState : String := "flock_os:engagement:state"
/-- `RT_NOTIFICATION`. -/
def rtNotification : String := "flock_os:notification"

/-- `RealtimeEmission`. -/
structure RealtimeEmission where
  /-- Event of the client. -/
  realtimeEvent : String
  /-- Room. -/
  room : String
  /-- Message. -/
  message : List (String × Value)
deriving DecidableEq, Repr

/-- One emission to each of some shards of a gathering. -/
def toShards (realtimeEvent eventId : String) (message : List (String × Value))
    (shards : List Nat) : List RealtimeEmission :=
  shards.map fun shard => ⟨realtimeEvent, shardChannel eventId shard, message⟩

variable (shardCount : Nat) (event : DomainEvent)

/-- `_route_single_attendance`. -/
def routeSingleAttendance : Except Error (List RealtimeEmission) :=
  match gatheringId floatText event with
  | none => .ok []
  | some eventId => do
    let reference := orElse (get event.payload "member") (get event.payload "attendee_ref")
    let member := if isTrue reference then textOf floatText reference else ""
    let presence ← if member = "" then pure []
      else do
        let shard ← shardFor member shardCount
        pure (toShards rtAttendancePresence eventId
          (merged [("gathering", .str eventId), ("member", .str member)] (extra event)) [shard])
    pure (presence ++
      [⟨rtAttendanceCount, broadcastChannel eventId, presenceMessage event 1⟩])

/-- `_route_bulk_attendance`. -/
def routeBulkAttendance : Except Error (List RealtimeEmission) :=
  match gatheringId floatText event with
  | none => .ok []
  | some eventId => do
    let count ← intOf (orElse (get event.payload "count") (.int 0))
    let refs := attendeeRefs event
    let shards ← if refs = [] then pure (allShards shardCount) else shardsFor refs shardCount
    pure (toShards rtAttendancePresence eventId
        [("gathering", .str eventId), ("batch_id", get event.payload "batch_id")] shards ++
      [⟨rtAttendanceCount, broadcastChannel eventId, presenceMessage event count⟩])

/-- `_route_game_lifecycle`. -/
def routeGameLifecycle : Except Error (List RealtimeEmission) :=
  match gatheringId floatText event with
  | none => .ok []
  | some eventId =>
    let state := if event.name = Events.engagementSessionOpened then "opened" else "closed"
    let message := merged [("gathering", .str eventId), ("state", .str state)] (extra event)
    .ok (toShards rtGameState eventId message (allShards shardCount) ++
      [⟨rtGameState, broadcastChannel eventId, message⟩])

/-- `_route_broadcast_only`. -/
def routeBroadcastOnly (realtimeEvent : String) : Except Error (List RealtimeEmission) :=
  match gatheringId floatText event with
  | none => .ok []
  | some eventId => .ok [⟨realtimeEvent, broadcastChannel eventId,
      merged [("gathering", .str eventId)] (extra event)⟩]

/-- `EventRoomProjector.project`: an event that is not routed goes nowhere. -/
def project : Except Error (List RealtimeEmission) :=
  if event.name = Events.attendanceRecorded then routeSingleAttendance floatText shardCount event
  else if event.name = Events.attendanceBulkRecorded then
    routeBulkAttendance floatText shardCount event
  else if event.name ∈ [Events.engagementSessionOpened, Events.engagementSessionClosed] then
    routeGameLifecycle floatText shardCount event
  else if event.name ∈
      [Events.notificationSent, Events.announcementScheduled, Events.gatheringApproved] then
    routeBroadcastOnly floatText event rtNotification
  else .ok []

end Routes

/-- `$`: the end of a text, or the newline at its end. -/
def atEnd (text : List Char) : Bool := text = [] ∨ text = ['\n']

/-- `EventRoomRef`. -/
structure EventRoomRef where
  /-- Gathering. -/
  eventId : String
  /-- Whether it is the broadcast room. -/
  isBroadcast : Bool := false
  /-- Shard, when it is the room of one. -/
  shard : Option Nat := none
deriving DecidableEq, Repr

/-- `:shard:(\d+)$`: the shard. -/
def shardTail (text : List Char) : Option Nat :=
  match (":" ++ shardSegment ++ ":").toList.isPrefixOf? text with
  | none => none
  | some rest =>
    let digits := rest.takeWhile isDecimal
    if digits ≠ [] ∧ atEnd (rest.dropWhile isDecimal) then some (intOfDigits digits) else none

/-- `:broadcast$` or `:shard:(\d+)$`: no shard for the first. -/
def roomTail (text : List Char) : Option (Option Nat) :=
  match (":" ++ broadcastSegment).toList.isPrefixOf? text with
  | some rest => if atEnd rest then some none else none
  | none => (shardTail text).map some

/-- `parse_event_room`: `EVENT_ROOM_RE` has the shortest id in front of its tail, and `.` is not a
newline. -/
def parseEventRoom (room : String) : Option EventRoomRef :=
  match (eventRoomPrefix ++ ":").toList.isPrefixOf? room.toList with
  | none => none
  | some rest =>
    (lazyMatch (fun char => char ≠ '\n') roomTail rest).map fun found =>
      match found.2 with
      | none => ⟨String.ofList found.1, true, none⟩
      | some shard => ⟨String.ofList found.1, false, some shard⟩

/-- `event_room_join_allowed`, with the branches of the gatherings. -/
def eventRoomJoinAllowed (room user : String) (gateway : PermissionGateway)
    (branchForGathering : String → Option String) : Bool :=
  match parseEventRoom room with
  | none => false
  | some ref =>
    match branchForGathering ref.eventId with
    | none => false
    | some branch =>
      canAccessBranch (some branch) (gateway.listBranchUserPermissions user)
        (gateway.getUserRoles user)

end FlockOs.Realtime
