import FlockOs.Realtime

/-!
# Two parsers of rooms

`EVENT_ROOM_RE` of `realtime.py` with its groups, `parse_event_room` with what `int` refuses, and
`isFlockEventRoom` of `flock_room_handlers.js`.
-/

namespace FlockOs.RoomParsers

open Lib Realtime

/-- `:shard:(?P<shard>\d+)$`: the text of the shard. -/
def shardGroup (text : List Char) : Option (List Char) :=
  match (":" ++ shardSegment ++ ":").toList.isPrefixOf? text with
  | none => none
  | some rest =>
    let digits := rest.takeWhile isDecimal
    if digits ≠ [] ∧ atEnd (rest.dropWhile isDecimal) then some digits else none

/-- `:broadcast$` or `:shard:(?P<shard>\d+)$`. -/
def tailGroup (text : List Char) : Option (Option (List Char)) :=
  match (":" ++ broadcastSegment).toList.isPrefixOf? text with
  | some rest => if atEnd rest then some none else none
  | none => (shardGroup text).map some

/-- `EVENT_ROOM_RE.match`: the groups `event_id` and `shard`. -/
def matchEventRoom (room : String) : Option (List Char × Option (List Char)) :=
  match (eventRoomPrefix ++ ":").toList.isPrefixOf? room.toList with
  | none => none
  | some rest => lazyMatch (fun char => char ≠ '\n') tailGroup rest

/-- Whether `int` reads so many digits under `sys.get_int_max_str_digits()`, where zero is no
limit. -/
def Fits (limit : Nat) (digits : List Char) : Prop := limit = 0 ∨ digits.length ≤ limit

instance (limit : Nat) (digits : List Char) : Decidable (Fits limit digits) :=
  inferInstanceAs (Decidable (_ ∨ _))

/-- `int` of decimal digits. -/
def int (limit : Nat) (digits : List Char) : Except Error Nat :=
  if Fits limit digits then .ok (intOfDigits digits)
  else .error (exceedsLimit limit digits.length)

/-- `parse_event_room`. -/
def parseEventRoom (limit : Nat) (room : String) : Except Error (Option EventRoomRef) :=
  match matchEventRoom room with
  | none => .ok none
  | some (eventId, none) => .ok (some ⟨String.ofList eventId, true, none⟩)
  | some (eventId, some shardRaw) => do
    let shard ← int limit shardRaw
    .ok (some ⟨String.ofList eventId, false, some shard⟩)

/-- The channel of a result: `broadcast_channel` or `shard_channel`. -/
def channel (ref : EventRoomRef) : String :=
  match ref.shard with
  | none => broadcastChannel ref.eventId
  | some shard => shardChannel ref.eventId shard

/-- A line terminator of ECMAScript, which its `.` does not match. -/
def isLineTerminator (char : Char) : Bool :=
  char = '\n' || char = '\r' || char.toNat = 0x2028 || char.toNat = 0x2029

/-- `:(?:broadcast|shard:\d+)$` of ECMAScript: ASCII digits, and the end of the text. -/
def handlerTail (text : List Char) : Option Unit :=
  if text = ":broadcast".toList then some ()
  else match ":shard:".toList.isPrefixOf? text with
    | none => none
    | some digits => if digits ≠ [] ∧ digits.all Char.isDigit then some () else none

/-- `isFlockEventRoom` of a string; a character outside the first plane is two units that `.` both
matches. -/
def isFlockEventRoom (room : String) : Bool :=
  match "flock_os:event:".toList.isPrefixOf? room.toList with
  | none => false
  | some rest => (lazyMatch (fun char => !isLineTerminator char) handlerTail rest).isSome

end FlockOs.RoomParsers
