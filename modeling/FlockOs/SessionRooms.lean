import FlockOs.Engagement
import FlockOs.Realtime

/-!
# The rooms that a player computes

The shard parity of `engagement-core.js`: the rooms that a client names by the id of its session,
out of the constants that `js_parity_contract` hands it.
-/

namespace FlockOs.SessionRooms

open Lib Engagement Realtime

/-- What the client reads of `js_parity_contract`. -/
structure Parity where
  /-- `prefix` of the channels. -/
  start : String
  /-- `broadcast_segment` of the channels. -/
  broadcastSegment : String
  /-- `shard_segment` of the channels. -/
  shardSegment : String
  /-- `shard_count`. -/
  shardCount : Nat
deriving DecidableEq, Repr

/-- `js_parity_contract`. -/
def jsParityContract (shardCount : Nat) : Parity where
  start := eventRoomPrefix
  broadcastSegment := Realtime.broadcastSegment
  shardSegment := Realtime.shardSegment
  shardCount := shardCount

/-- `makeCrcTable`. -/
def makeCrcTable : Vector (BitVec 32) 256 :=
  Vector.ofFn fun byte => Crc32.bitSteps 0xEDB88320#32 8 (BitVec.ofNat 32 byte.val)

/-- An entry of `CRC_TABLE`. -/
def crcTable (byte : BitVec 8) : BitVec 32 := makeCrcTable.get byte.toFin

/-- `crc32`. -/
def crc32 (text : String) : BitVec 32 :=
  (utf8 text).foldl (Crc32.tableStep crcTable) 0xFFFFFFFF#32 ^^^ 0xFFFFFFFF#32

/-- `shardFor`; no number where the remainder is `NaN`. -/
def shardFor (attendeeRef : String) (shardCount : Nat) : Option Nat :=
  if shardCount = 0 then none else some ((crc32 attendeeRef).toNat % shardCount)

/-- `broadcastChannel`. -/
def broadcastChannel (sessionId : String) (parity : Parity) : String :=
  parity.start ++ ":" ++ sessionId ++ ":" ++ parity.broadcastSegment

/-- The text of a shard. -/
def shardText : Option Nat → String
  | none => "NaN"
  | some shard => toString shard

/-- `shardChannel`. -/
def shardChannel (sessionId : String) (shard : Option Nat) (parity : Parity) : String :=
  parity.start ++ ":" ++ sessionId ++ ":" ++ parity.shardSegment ++ ":" ++ shardText shard

/-- The shard that `applyJoin` keeps: a count of zero stands for ten. -/
def joinedShard (attendeeRef : String) (parity : Parity) : Option Nat :=
  shardFor attendeeRef (if parity.shardCount = 0 then 10 else parity.shardCount)

/-- The rooms of a player of a session. -/
def playerRooms (sessionId attendeeRef : String) (parity : Parity) : List String :=
  [broadcastChannel sessionId parity,
    shardChannel sessionId (joinedShard attendeeRef parity) parity]

end FlockOs.SessionRooms
