import FlockOs.ShardNumbers
import FlockOs.Verif.SessionRooms

/-!
# One shard in browser and server

The numbers of the browser stand for the words of the check at every step, whatever their sign, and
the last shift makes the number unsigned, so that its remainder is the shard of the server.
-/

namespace FlockOs.ShardNumbers

open Lib Realtime

/-- A turn on numbers is a step of one bit. -/
theorem bits_crcTurn (c : Int) :
    NumberBits.bits (crcTurn c) = Crc32.bitStep crcPolynomial (NumberBits.bits c) := by
  rw [crcTurn, Crc32.bitStep]
  by_cases low : (NumberBits.bits c).getLsbD 0 = true
  · rw [if_pos ((NumberBits.and_one_ne_zero_iff c).mpr low), if_pos low, NumberBits.bits_xor,
      NumberBits.bits_shiftRight]
    rfl
  · rw [if_neg (mt (NumberBits.and_one_ne_zero_iff c).mp low), if_neg low,
      NumberBits.bits_shiftRight]

/-- Turns on numbers are steps of as many bits. -/
theorem bits_crcTurns (turns : Nat) (c : Int) :
    NumberBits.bits (crcTurns turns c) =
      Crc32.bitSteps crcPolynomial turns (NumberBits.bits c) := by
  induction turns generalizing c with
  | zero => rfl
  | succ turns ih => rw [crcTurns, ih, bits_crcTurn, Crc32.bitSteps]

/-- An entry of the table stands for eight bits of its byte. -/
theorem bits_crcTable (byte : BitVec 8) :
    NumberBits.bits (crcTable byte.toNat) =
      Crc32.bitSteps crcPolynomial 8 (byte.setWidth 32) := by
  have entry : crcTable byte.toNat =
      storedUint32 (NumberBits.shiftRight (crcTurns 8 (byte.toNat : Int)) 0) := by
    rw [crcTable, if_neg (Int.not_lt.mpr (Int.natCast_nonneg _)), Int.toNat_natCast,
      Vector.getElem?_eq_getElem byte.isLt, Option.getD_some]
    exact Vector.getElem_ofFn byte.isLt
  rw [entry, storedUint32, NumberBits.bits_toNat, NumberBits.bits_shiftRight, bits_crcTurns,
    NumberBits.bits_byte]
  rfl

/-- A turn on numbers is a step of one byte. -/
theorem bits_crcByte (crc : Int) (byte : BitVec 8) :
    NumberBits.bits (crcByte crc byte) =
      Crc32.byteStep crcPolynomial (NumberBits.bits crc) byte := by
  have table := Crc32.tableStep_eq crcPolynomial
    (fun byte => Crc32.bitSteps crcPolynomial 8 (byte.setWidth 32)) (fun _ => rfl)
    (NumberBits.bits crc) byte
  rw [← table, crcByte, NumberBits.bits_xor, NumberBits.and_byte, bits_crcTable,
    NumberBits.bits_xor, NumberBits.bits_byte, NumberBits.bits_shiftRight]
  rfl

/-- The loop over the bytes stands for the steps of the check. -/
theorem bits_foldl_crcByte (bytes : List (BitVec 8)) (crc : Int) :
    NumberBits.bits (bytes.foldl crcByte crc) =
      bytes.foldl (Crc32.byteStep crcPolynomial) (NumberBits.bits crc) := by
  induction bytes generalizing crc with
  | nil => rfl
  | cons byte bytes ih => rw [List.foldl_cons, List.foldl_cons, ih, bits_crcByte]

/-- The browser's number is the unsigned check. -/
theorem crc32_eq (text : String) :
    crc32 text = (Crc32.check crcPolynomial (utf8 text)).toNat := by
  have ones : NumberBits.bits 0xffffffff = BitVec.allOnes 32 := by decide
  have word : NumberBits.bits (NumberBits.xor ((utf8 text).foldl crcByte 0xffffffff) 0xffffffff) =
      Crc32.check crcPolynomial (utf8 text) := by
    rw [NumberBits.bits_xor, bits_foldl_crcByte, ones, Crc32.check]
  rw [crc32, NumberBits.shiftRight, word]
  rfl

/-- The check of the digits from one to nine. -/
example : crc32 "123456789" = 0xCBF43926 := by decide +kernel

/-- On words and on numbers the browser computes one shard. -/
theorem shardFor_words (attendeeRef : String) (shardCount : Nat) :
    shardFor attendeeRef shardCount =
      (SessionRooms.shardFor attendeeRef shardCount).map fun shard => (shard : Int) := by
  rw [shardFor, SessionRooms.shardFor, crc32_eq, SessionRooms.crc32_eq]
  by_cases none : shardCount = 0
  · rw [none]
    rfl
  · rw [if_neg (Int.natCast_ne_zero.mpr none), if_neg none]
    rfl

/-- For every reference and every positive number of shards the browser computes the shard of the
server: the check of the bytes of the reference modulo the number. -/
theorem shardFor_agrees (attendeeRef : String) (shardCount : Nat) (positive : 0 < shardCount) :
    ∃ shard, Realtime.shardFor attendeeRef shardCount = .ok shard ∧
      shardFor attendeeRef shardCount = some (shard : Int) ∧
      shard = (Crc32.check crcPolynomial (utf8 attendeeRef)).toNat % shardCount := by
  have some : shardCount ≠ 0 := Nat.ne_of_gt positive
  refine ⟨_, if_neg some, ?_, rfl⟩
  rw [shardFor, if_neg (Int.natCast_ne_zero.mpr some), crc32_eq]
  rfl

/-- A reference and ten shards. -/
theorem shardFor_agrees_ten :
    0 < 10 ∧ ∃ shard, Realtime.shardFor "MEM-0001" 10 = .ok shard ∧
      shardFor "MEM-0001" 10 = some (shard : Int) ∧
      shard = (Crc32.check crcPolynomial (utf8 "MEM-0001")).toNat % 10 :=
  ⟨by decide, shardFor_agrees "MEM-0001" 10 (by decide)⟩

end FlockOs.ShardNumbers
