import Mathlib.Data.List.Basic

/-!
# Bitwise operators on numbers

The bitwise operators of ECMAScript take the low 32 bits of a number. Exclusive or and conjunction
give the signed number of the result, the shift that fills in zeros the unsigned one, so that a
number stands for a word by its bits and not by its value.
-/

namespace FlockOs.Lib.NumberBits

/-- The bits that an operator takes of a number, by `ToInt32` as by `ToUint32`. -/
def bits (number : Int) : BitVec 32 := BitVec.ofInt 32 number

/-- `left ^ right`. -/
def xor (left right : Int) : Int := (bits left ^^^ bits right).toInt

/-- `left & right`. -/
def and (left right : Int) : Int := (bits left &&& bits right).toInt

/-- `number >>> count`. -/
def shiftRight (number : Int) (count : Nat) : Int := (bits number >>> (count % 32)).toNat

/-- The bits of a signed number. -/
@[simp] theorem bits_toInt (word : BitVec 32) : bits word.toInt = word := BitVec.ofInt_toInt

/-- The bits of an unsigned number. -/
@[simp] theorem bits_toNat (word : BitVec 32) : bits word.toNat = word := by
  rw [bits, BitVec.ofInt_natCast, BitVec.ofNat_toNat, BitVec.setWidth_eq]

/-- The bits of a byte. -/
theorem bits_byte (byte : BitVec 8) : bits byte.toNat = byte.setWidth 32 := by
  rw [bits, BitVec.ofInt_natCast]
  exact BitVec.ofNat_toNat ..

/-- The bits of an exclusive or. -/
@[simp] theorem bits_xor (left right : Int) : bits (xor left right) = bits left ^^^ bits right :=
  bits_toInt _

/-- The bits of a shift. -/
@[simp] theorem bits_shiftRight (number : Int) (count : Nat) :
    bits (shiftRight number count) = bits number >>> (count % 32) :=
  bits_toNat _

/-- The low bit of a number, as a condition tests it. -/
theorem and_one_ne_zero_iff (number : Int) :
    and number 1 ≠ 0 ↔ (bits number).getLsbD 0 = true := by
  have low : bits number &&& bits 1 = (BitVec.ofBool ((bits number).getLsbD 0)).setWidth 32 :=
    BitVec.and_one_eq_setWidth_ofBool_getLsbD
  rw [and, low]
  cases (bits number).getLsbD 0 <;> decide

/-- The low byte of a number is not negative. -/
theorem and_byte (number : Int) : and number 0xff = ((bits number).setWidth 8).toNat := by
  have value : (bits number &&& bits 0xff).toNat = (bits number).toNat % 2 ^ 8 := by
    rw [BitVec.toNat_and]
    exact Nat.and_two_pow_sub_one_eq_mod _ 8
  have short : 2 * (bits number &&& bits 0xff).toNat < 2 ^ 32 := by
    rw [value]
    omega
  rw [and, BitVec.toInt_eq_toNat_of_lt short, value, BitVec.toNat_setWidth]

end FlockOs.Lib.NumberBits
