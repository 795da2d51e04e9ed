import FlockOs.Lib.NumberBits
import FlockOs.SessionRooms

/-!
# The hash of the player on numbers

`makeCrcTable`, `crc32` and `shardFor` of `engagement-core.js` as the browser computes them: on
numbers, with operators that give signed and unsigned results, and with a typed array.
-/

namespace FlockOs.ShardNumbers

open Lib Realtime

/-- A turn of the inner loop of `makeCrcTable`. -/
def crcTurn (c : Int) : Int :=
  if NumberBits.and c 1 ≠ 0 then NumberBits.xor 0xedb88320 (NumberBits.shiftRight c 1)
  else NumberBits.shiftRight c 1

/-- The inner loop of `makeCrcTable`. -/
def crcTurns : Nat → Int → Int
  | 0, c => c
  | turns + 1, c => crcTurns turns (crcTurn c)

/-- A number as a `Uint32Array` stores it. -/
def storedUint32 (number : Int) : Int := (NumberBits.bits number).toNat

/-- `makeCrcTable`. -/
def makeCrcTable : Vector Int 256 :=
  Vector.ofFn fun n => storedUint32 (NumberBits.shiftRight (crcTurns 8 (n.val : Int)) 0)

/-- `CRC_TABLE[index]` under an operator, which takes what is absent for zero. -/
def crcTable (index : Int) : Int :=
  if index < 0 then 0 else makeCrcTable[index.toNat]?.getD 0

/-- A turn of the loop of `crc32`. -/
def crcByte (crc : Int) (byte : BitVec 8) : Int :=
  NumberBits.xor (crcTable (NumberBits.and (NumberBits.xor crc byte.toNat) 0xff))
    (NumberBits.shiftRight crc 8)

/-- `crc32`. -/
def crc32 (text : String) : Int :=
  NumberBits.shiftRight (NumberBits.xor ((utf8 text).foldl crcByte 0xffffffff) 0xffffffff) 0

/-- `shardFor`; no number where the remainder is `NaN`. -/
def shardFor (attendeeRef : String) (shardCount : Int) : Option Int :=
  if shardCount = 0 then none else some ((crc32 attendeeRef).tmod shardCount)

end FlockOs.ShardNumbers
