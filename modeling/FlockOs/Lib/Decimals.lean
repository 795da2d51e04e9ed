import FlockOs.Lib.Text
import Mathlib.Algebra.Order.Field.Basic
import Mathlib.Algebra.Order.Ring.Rat
import Mathlib.Data.Rat.Cast.Order
import Mathlib.Tactic.Linarith
import Mathlib.Tactic.Ring

/-!
# What six decimals say

A number written with six decimals is rounded to millionths. The text determines the number of
millionths, so two numbers with one text differ by a millionth at most.
-/

namespace FlockOs.Lib

/-- The number of millionths that `fixed6` writes after the sign. -/
def scaled6 (value : Rat) : Nat := roundHalfEven (value.num.natAbs * 1000000) value.den

/-- A number rounded to millionths. -/
def millionths (value : Rat) : Int := if value.num < 0 then -scaled6 value else scaled6 value

/-- No digit is a sign or a point. -/
theorem toDigits_clean {number : Nat} {char : Char} (other : char.isDigit = false) :
    char ∉ Nat.toDigits 10 number := by
  intro member
  rw [Nat.isDigit_of_mem_toDigits (by decide) (by decide) member] at other
  cases other

/-- Digits determine their number, whatever zeros stand before them. -/
theorem padded_inj (zeros zeros' : Nat) {number number' : Nat}
    (same : List.replicate zeros '0' ++ Nat.toDigits 10 number =
      List.replicate zeros' '0' ++ Nat.toDigits 10 number') : number = number' := by
  have read := congrArg (fun digits => Nat.ofDigitChars 10 digits 0) same
  simpa only [Nat.ofDigitChars_append, Nat.ofDigitChars_replicate_zero, Nat.mul_zero,
    Nat.ofDigitChars_ten_toDigits] using read

/-- The characters of a number with six decimals, without its sign. -/
def decimalChars (scaled : Nat) : List Char :=
  Nat.toDigits 10 (scaled / 1000000) ++ '.' ::
    (List.replicate (6 - (Nat.toDigits 10 (scaled % 1000000)).length) '0' ++
      Nat.toDigits 10 (scaled % 1000000))

/-- The characters determine the number of millionths. -/
theorem decimalChars_inj {scaled scaled' : Nat} (same : decimalChars scaled = decimalChars scaled') :
    scaled = scaled' := by
  have clean (zeros number : Nat) :
      '.' ∉ List.replicate zeros '0' ++ Nat.toDigits 10 number := by
    rw [List.mem_append]
    rintro (zero | digit)
    · exact absurd (List.eq_of_mem_replicate zero) (by decide)
    · exact toDigits_clean rfl digit
  obtain ⟨whole, fraction⟩ := split_last same (clean _ _) (clean _ _)
  have wholes : scaled / 1000000 = scaled' / 1000000 := padded_inj 0 0 whole
  have fractions : scaled % 1000000 = scaled' % 1000000 := padded_inj _ _ fraction
  omega

/-- The characters of a number with six decimals: its sign, and the others. -/
theorem toList_fixed6 (value : Rat) :
    (fixed6 value).toList =
      (if value.num < 0 then ['-'] else []) ++ decimalChars (scaled6 value) := by
  rw [fixed6, String.toList_ofList, ← scaled6]
  generalize scaled6 value = scaled
  rw [decimalChars, List.append_assoc, List.append_assoc, List.cons_append]

/-- The characters after the sign do not begin with a sign. -/
theorem decimalChars_ne_sign (scaled scaled' : Nat) :
    decimalChars scaled ≠ '-' :: decimalChars scaled' := by
  intro same
  have sign : '-' ∈ decimalChars scaled := same ▸ List.mem_cons_self
  rw [decimalChars, List.mem_append, List.mem_cons, List.mem_append] at sign
  rcases sign with whole | point | zero | digit
  · exact toDigits_clean rfl whole
  · exact absurd point (by decide)
  · exact absurd (List.eq_of_mem_replicate zero) (by decide)
  · exact toDigits_clean rfl digit

/-- Numbers with one text are rounded to the same millionths. -/
theorem millionths_of_fixed6 {value value' : Rat} (same : fixed6 value = fixed6 value') :
    millionths value = millionths value' := by
  have lists := congrArg String.toList same
  rw [toList_fixed6, toList_fixed6] at lists
  rw [millionths, millionths]
  by_cases negative : value.num < 0
  · by_cases negative' : value'.num < 0
    · rw [if_pos negative, if_pos negative'] at lists
      rw [if_pos negative, if_pos negative', decimalChars_inj (List.append_cancel_left lists)]
    · rw [if_pos negative, if_neg negative', List.singleton_append, List.nil_append] at lists
      exact absurd lists.symm (decimalChars_ne_sign _ _)
  · by_cases negative' : value'.num < 0
    · rw [if_neg negative, if_pos negative', List.singleton_append, List.nil_append] at lists
      exact absurd lists (decimalChars_ne_sign _ _)
    · rw [if_neg negative, if_neg negative'] at lists
      rw [if_neg negative, if_neg negative', decimalChars_inj (List.append_cancel_left lists)]

/-- Rounding moves a quotient by half a unit at most. -/
theorem roundHalfEven_near (numerator : Nat) {denominator : Nat} (positive : 0 < denominator) :
    2 * roundHalfEven numerator denominator * denominator ≤ 2 * numerator + denominator ∧
      2 * numerator ≤ 2 * roundHalfEven numerator denominator * denominator + denominator := by
  have parts := Nat.div_add_mod numerator denominator
  have small := Nat.mod_lt numerator positive
  have scale (count : Nat) : 2 * count * denominator = 2 * (denominator * count) := by ring
  have next (count : Nat) : denominator * (count + 1) = denominator * count + denominator :=
    Nat.mul_succ _ _
  rw [scale, roundHalfEven]
  split
  · omega
  · split
    · rw [next]
      omega
    · rcases Nat.mod_two_eq_zero_or_one (numerator / denominator) with even | odd
      · rw [even, Nat.add_zero]
        omega
      · rw [odd, next]
        omega

/-- A number is at most half a millionth away from its millionths. -/
theorem abs_sub_millionths_le (value : Rat) : |value * 1000000 - millionths value| ≤ 1 / 2 := by
  have positive : (0 : Rat) < value.den := by exact_mod_cast value.den_pos
  obtain ⟨below, above⟩ := roundHalfEven_near (value.num.natAbs * 1000000) value.den_pos
  rw [← scaled6] at below above
  rw [millionths]
  generalize scaled6 value = scaled at below above ⊢
  have below' : 2 * (scaled : Rat) * value.den ≤ 2 * (value.num.natAbs * 1000000) + value.den := by
    exact_mod_cast below
  have above' : 2 * (value.num.natAbs * 1000000 : Rat) ≤ 2 * scaled * value.den + value.den := by
    exact_mod_cast above
  have reads : value * value.den = value.num := Rat.mul_den_eq_num value
  rw [abs_le]
  by_cases negative : value.num < 0
  · have size : (value.num.natAbs : Rat) = -value.num := by
      rw [Nat.cast_natAbs, abs_of_neg negative, Int.cast_neg]
    rw [size] at below' above'
    rw [if_pos negative, Int.cast_neg, Int.cast_natCast]
    constructor
    · apply le_of_mul_le_mul_right _ positive
      linarith
    · apply le_of_mul_le_mul_right _ positive
      linarith
  · have size : (value.num.natAbs : Rat) = value.num := by
      rw [Nat.cast_natAbs, abs_of_nonneg (not_lt.mp negative)]
    rw [size] at below' above'
    rw [if_neg negative, Int.cast_natCast]
    constructor
    · apply le_of_mul_le_mul_right _ positive
      linarith
    · apply le_of_mul_le_mul_right _ positive
      linarith

/-- Numbers with the same millionths differ by a millionth at most. -/
theorem abs_sub_le_of_millionths {value value' : Rat}
    (same : millionths value = millionths value') : |value - value'| ≤ 1 / 1000000 := by
  have near := abs_le.mp (abs_sub_millionths_le value)
  have near' := abs_le.mp (abs_sub_millionths_le value')
  rw [← same] at near'
  rw [abs_le]
  constructor
  · linarith
  · linarith

end FlockOs.Lib
