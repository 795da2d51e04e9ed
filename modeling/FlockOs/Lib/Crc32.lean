import Mathlib.Data.List.Basic

/-!
# Cyclic redundancy checks

The reflected 32-bit check of a list of bytes, bit by bit and by a table of the 256 bytes. A step
of one bit is linear, and a word whose low bits are clear is only shifted, so eight steps are one
lookup of the low byte.
-/

namespace FlockOs.Lib.Crc32

variable (polynomial : BitVec 32)

/-- One bit: shift it out, and take the polynomial away where it was set. -/
def bitStep (word : BitVec 32) : BitVec 32 :=
  if word.getLsbD 0 then polynomial ^^^ (word >>> 1) else word >>> 1

/-- A number of bits. -/
def bitSteps : Nat → BitVec 32 → BitVec 32
  | 0, word => word
  | count + 1, word => bitSteps count (bitStep polynomial word)

/-- One byte, bit by bit. -/
def byteStep (word : BitVec 32) (byte : BitVec 8) : BitVec 32 :=
  bitSteps polynomial 8 (word ^^^ byte.setWidth 32)

/-- The check of some bytes, bit by bit. -/
def check (bytes : List (BitVec 8)) : BitVec 32 :=
  bytes.foldl (byteStep polynomial) (BitVec.allOnes 32) ^^^ BitVec.allOnes 32

/-- One byte, by a lookup of the low byte. -/
def tableStep (table : BitVec 8 → BitVec 32) (word : BitVec 32) (byte : BitVec 8) : BitVec 32 :=
  table ((word ^^^ byte.setWidth 32).setWidth 8) ^^^ (word >>> 8)

/-- One bit of a sum. -/
theorem bitStep_xor (left right : BitVec 32) :
    bitStep polynomial (left ^^^ right) = bitStep polynomial left ^^^ bitStep polynomial right := by
  rw [bitStep, bitStep, bitStep, BitVec.getLsbD_xor, BitVec.ushiftRight_xor_distrib]
  cases left.getLsbD 0 <;> cases right.getLsbD 0
  · rfl
  · show polynomial ^^^ (left >>> 1 ^^^ right >>> 1) = left >>> 1 ^^^ (polynomial ^^^ right >>> 1)
    rw [← BitVec.xor_assoc, BitVec.xor_comm polynomial, BitVec.xor_assoc]
  · exact (BitVec.xor_assoc ..).symm
  · show left >>> 1 ^^^ right >>> 1 =
      polynomial ^^^ left >>> 1 ^^^ (polynomial ^^^ right >>> 1)
    rw [BitVec.xor_comm polynomial (left >>> 1), BitVec.xor_assoc, ← BitVec.xor_assoc polynomial,
      BitVec.xor_self, BitVec.zero_xor]

/-- Some bits of a sum. -/
theorem bitSteps_xor (count : Nat) (left right : BitVec 32) :
    bitSteps polynomial count (left ^^^ right) =
      bitSteps polynomial count left ^^^ bitSteps polynomial count right := by
  induction count generalizing left right with
  | zero => rfl
  | succ count ih => rw [bitSteps, bitStep_xor, ih, bitSteps, bitSteps]

/-- A word whose low bits are clear is only shifted. -/
theorem bitSteps_of_clear : ∀ (count : Nat) {word : BitVec 32},
    (∀ index, index < count → word.getLsbD index = false) →
      bitSteps polynomial count word = word >>> count
  | 0, word, _ => (BitVec.ushiftRight_zero word).symm
  | count + 1, word, clear => by
    have first : bitStep polynomial word = word >>> 1 := by
      rw [bitStep, clear 0 (Nat.succ_pos count), if_neg Bool.false_ne_true]
    have later : ∀ index, index < count → (word >>> 1).getLsbD index = false := by
      intro index below
      rw [BitVec.getLsbD_ushiftRight]
      exact clear (1 + index) (by omega)
    rw [bitSteps, first, bitSteps_of_clear count later, ← BitVec.shiftRight_add, Nat.add_comm]

/-- A word is its low byte and the rest. -/
theorem split_low (word : BitVec 32) :
    word = (word >>> 8) <<< 8 ^^^ (word.setWidth 8).setWidth 32 := by
  apply BitVec.eq_of_getLsbD_eq
  intro index below
  rw [BitVec.getLsbD_xor, BitVec.getLsbD_shiftLeft, BitVec.getLsbD_setWidth,
    BitVec.getLsbD_setWidth, BitVec.getLsbD_ushiftRight]
  by_cases low : index < 8
  · simp [low, below]
  · have back : 8 + (index - 8) = index := by omega
    simp [low, below, back]

/-- Eight bits are one lookup of the low byte. -/
theorem bitSteps_eight (word : BitVec 32) :
    bitSteps polynomial 8 word =
      bitSteps polynomial 8 ((word.setWidth 8).setWidth 32) ^^^ (word >>> 8) := by
  have clear : ∀ index, index < 8 → ((word >>> 8) <<< 8).getLsbD index = false := by
    intro index below
    rw [BitVec.getLsbD_shiftLeft]
    simp [below]
  have high : (word >>> 8) <<< 8 >>> 8 = word >>> 8 := by
    apply BitVec.eq_of_getLsbD_eq
    intro index below
    rw [BitVec.getLsbD_ushiftRight, BitVec.getLsbD_shiftLeft, BitVec.getLsbD_ushiftRight]
    have back : 8 + (8 + index - 8) = 8 + index := by omega
    rw [back, BitVec.getLsbD_ushiftRight]
    by_cases short : 8 + index < 32
    · simp [short]
    · rw [BitVec.getLsbD_of_ge word (8 + index) (by omega), Bool.and_false]
  calc bitSteps polynomial 8 word
      = bitSteps polynomial 8 ((word >>> 8) <<< 8 ^^^ (word.setWidth 8).setWidth 32) := by
        rw [← split_low]
    _ = bitSteps polynomial 8 ((word >>> 8) <<< 8) ^^^
          bitSteps polynomial 8 ((word.setWidth 8).setWidth 32) := bitSteps_xor ..
    _ = (word >>> 8) ^^^ bitSteps polynomial 8 ((word.setWidth 8).setWidth 32) := by
        rw [bitSteps_of_clear polynomial 8 clear, high]
    _ = _ := BitVec.xor_comm ..

/-- The table of the bytes does a byte at a time what the bits do. -/
theorem tableStep_eq (table : BitVec 8 → BitVec 32)
    (filled : ∀ byte, table byte = bitSteps polynomial 8 (byte.setWidth 32)) (word : BitVec 32)
    (byte : BitVec 8) : tableStep table word byte = byteStep polynomial word byte := by
  have clear : byte.setWidth 32 >>> 8 = 0#32 := by
    apply BitVec.eq_of_getLsbD_eq
    intro index below
    rw [BitVec.getLsbD_ushiftRight, BitVec.getLsbD_setWidth, BitVec.getLsbD_of_ge byte _ (by omega)]
    simp
  rw [tableStep, byteStep, bitSteps_eight, filled, BitVec.ushiftRight_xor_distrib, clear,
    BitVec.xor_zero]

end FlockOs.Lib.Crc32
