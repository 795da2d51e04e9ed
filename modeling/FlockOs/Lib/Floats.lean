import Mathlib.Algebra.Order.Floor.Semiring
import Mathlib.Algebra.Order.Round
import Mathlib.Data.Int.Log
import Mathlib.Data.Rat.Floor
import Mathlib.Tactic.Linarith
import Mathlib.Tactic.Ring

/-!
# Rounding to a binary format

A format keeps so many digits of a number, down to a least place. A number is rounded to the nearest
multiple of its place, half way to the even one, whatever its size: the formats have no largest
number. Rounding is monotone and leaves the numbers of the format alone, so a rounded number lies on
the same side of every number of the format as before.
-/

namespace FlockOs.Lib

/-- The nearest whole number, half way the even one. -/
def nearestEven (value : Rat) : Int :=
  let rest := value - value.floor
  if rest < 1 / 2 then value.floor
  else if 1 / 2 < rest then value.floor + 1
  else value.floor + value.floor % 2

/-- The nearest whole number is one of the two neighbours. -/
theorem nearestEven_mem (value : Rat) :
    nearestEven value = ⌊value⌋ ∨
      nearestEven value = ⌊value⌋ + 1 ∧ (1 : Rat) / 2 ≤ value - ⌊value⌋ := by
  have floor : value.floor = ⌊value⌋ := rfl
  rw [nearestEven, floor]
  split
  · exact .inl rfl
  · next far =>
    split
    · exact .inr ⟨rfl, not_lt.mp far⟩
    · rcases Int.emod_two_eq_zero_or_one ⌊value⌋ with even | odd
      · rw [even, add_zero]
        exact .inl rfl
      · rw [odd]
        exact .inr ⟨rfl, not_lt.mp far⟩

/-- A whole number is the nearest one to itself. -/
@[simp] theorem nearestEven_intCast (number : Int) : nearestEven number = number := by
  rcases nearestEven_mem (number : Rat) with below | above
  · rw [below, Int.floor_intCast]
  · have half := above.2
    rw [Int.floor_intCast, sub_self] at half
    norm_num at half

/-- The nearest whole number is a neighbour. -/
theorem nearestEven_bounds (value : Rat) :
    ⌊value⌋ ≤ nearestEven value ∧ nearestEven value ≤ ⌊value⌋ + 1 := by
  rcases nearestEven_mem value with below | above
  · omega
  · omega

/-- The nearest whole number is monotone. -/
theorem nearestEven_mono {value other : Rat} (le : value ≤ other) :
    nearestEven value ≤ nearestEven other := by
  have floors := Int.floor_le_floor le
  by_cases same : ⌊value⌋ = ⌊other⌋
  · have floor (number : Rat) : number.floor = ⌊number⌋ := rfl
    have parity := Int.emod_two_eq_zero_or_one ⌊other⌋
    rw [nearestEven, nearestEven, floor, floor, same]
    have rests : value - ⌊other⌋ ≤ other - ⌊other⌋ := by linarith
    split_ifs
    · exact le_rfl
    · omega
    · omega
    · linarith
    · exact le_rfl
    · linarith
    · linarith
    · omega
    · exact le_rfl
  · have least := nearestEven_bounds other
    have most := nearestEven_bounds value
    omega

/-- The nearest whole number to the opposite is the opposite. -/
theorem nearestEven_neg (value : Rat) : nearestEven (-value) = -nearestEven value := by
  have floor (number : Rat) : number.floor = ⌊number⌋ := rfl
  by_cases whole : (⌊value⌋ : Rat) = value
  · rw [← whole, nearestEven_intCast, ← Int.cast_neg, nearestEven_intCast]
  · have above : ⌊-value⌋ = -⌊value⌋ - 1 := by
      rw [Int.floor_eq_iff]
      have le := Int.floor_le value
      have lt := Int.lt_floor_add_one value
      push_cast
      constructor
      · linarith
      · have strict := lt_of_le_of_ne le whole
        linarith
    have rest : -value - ((-⌊value⌋ - 1 : Int) : Rat) = 1 - (value - ⌊value⌋) := by
      push_cast
      ring
    rw [nearestEven, nearestEven, floor, floor, above, rest]
    split_ifs
    · linarith
    · omega
    · linarith
    · omega
    · linarith
    · linarith
    · linarith
    · linarith
    · omega

/-- How many binary digits a format keeps, and the place below which it keeps none. -/
structure FloatFormat where
  /-- Digits. -/
  precision : Nat
  /-- Exponent of the least place. -/
  least : Int
  /-- A digit is kept. -/
  positive : 0 < precision

/-- The numbers of `float`. -/
def binary64 : FloatFormat := ⟨53, -1074, by decide⟩

namespace FloatFormat

variable (format : FloatFormat)

/-- The exponent of the last digit that is kept of a number. -/
def exponent (value : Rat) : Int := max (Int.log 2 |value| + 1 - format.precision) format.least

/-- The place of the last digit that is kept of a number. -/
def unit (value : Rat) : Rat := 2 ^ format.exponent value

/-- A number that has no digits beyond those that are kept of it. -/
def Represents (value : Rat) : Prop := ∃ count : Int, value = count * format.unit value

/-- A number rounded to the format. -/
def round (value : Rat) : Rat := nearestEven (value / format.unit value) * format.unit value

variable {format} {value other : Rat}

/-- Whether a number has more digits can be computed. -/
instance (value : Rat) : Decidable (format.Represents value) :=
  decidable_of_iff ((value / format.unit value).num * format.unit value = value) (by
    constructor
    · intro whole
      exact ⟨_, whole.symm⟩
    · rintro ⟨count, multiple⟩
      have positive : format.unit value ≠ 0 := (zpow_pos (by norm_num) _).ne'
      have scaled : value / format.unit value = count := (div_eq_iff positive).mpr multiple
      rw [scaled, Rat.num_intCast, ← multiple])

/-- A place is positive. -/
theorem unit_pos (value : Rat) : 0 < format.unit value := zpow_pos (by norm_num) _

/-- The digits of the opposite are those of the number. -/
@[simp] theorem unit_neg (value : Rat) : format.unit (-value) = format.unit value := by
  rw [unit, unit, exponent, exponent, abs_neg]

/-- A larger number has no smaller place. -/
theorem exponent_mono (nonzero : value ≠ 0) (le : |value| ≤ |other|) :
    format.exponent value ≤ format.exponent other := by
  have logs : Int.log 2 |value| ≤ Int.log 2 |other| := Int.log_mono_right (abs_pos.mpr nonzero) le
  exact max_le_max_right _ (by omega)

/-- A multiple of a place is one of every smaller place. -/
theorem multiple_of_le {small large : Int} (le : small ≤ large) (count : Int) :
    ∃ finer : Int, (count : Rat) * 2 ^ large = finer * 2 ^ small := by
  obtain ⟨more, rfl⟩ := Int.le.dest le
  refine ⟨count * 2 ^ more, ?_⟩
  rw [zpow_add₀ (by norm_num), zpow_natCast]
  push_cast
  ring

/-- Zero is a number of the format. -/
theorem represents_zero : format.Represents 0 := ⟨0, by simp⟩

/-- A multiple of its place, or of a larger one, is a number of the format. -/
theorem represents_of_multiple {large : Int} (le : format.exponent value ≤ large) {count : Int}
    (multiple : value = count * 2 ^ large) : format.Represents value := by
  obtain ⟨finer, same⟩ := multiple_of_le le count
  exact ⟨finer, multiple.trans same⟩

/-- Rounding turns the sign with the number. -/
theorem round_neg (value : Rat) : format.round (-value) = -format.round value := by
  rw [round, round, unit_neg, neg_div, nearestEven_neg]
  push_cast
  ring

/-- Rounding leaves the numbers of the format alone. -/
theorem round_of_represents (represents : format.Represents value) :
    format.round value = value := by
  obtain ⟨count, multiple⟩ := represents
  have scaled : value / format.unit value = count :=
    (div_eq_iff (unit_pos value).ne').mpr multiple
  rw [round, scaled, nearestEven_intCast, ← multiple]

/-- A rounded number is not above a multiple of its place above it. -/
theorem round_le_multiple (count : Int) (le : value ≤ count * format.unit value) :
    format.round value ≤ count * format.unit value := by
  have scaled : value / format.unit value ≤ count := (div_le_iff₀ (unit_pos value)).mpr le
  have nearest := nearestEven_mono scaled
  rw [nearestEven_intCast] at nearest
  exact mul_le_mul_of_nonneg_right (by exact_mod_cast nearest) (unit_pos value).le

/-- A rounded number is not below a multiple of its place below it. -/
theorem multiple_le_round (count : Int) (le : count * format.unit value ≤ value) :
    count * format.unit value ≤ format.round value := by
  have scaled : (count : Rat) ≤ value / format.unit value := (le_div_iff₀ (unit_pos value)).mpr le
  have nearest := nearestEven_mono scaled
  rw [nearestEven_intCast] at nearest
  exact mul_le_mul_of_nonneg_right (by exact_mod_cast nearest) (unit_pos value).le

/-- Rounding is monotone where the digits that are kept are the same. -/
theorem round_mono_unit (same : format.unit value = format.unit other) (le : value ≤ other) :
    format.round value ≤ format.round other := by
  have scaled : value / format.unit other ≤ other / format.unit other :=
    div_le_div_of_nonneg_right le (unit_pos other).le
  have nearest : (nearestEven (value / format.unit other) : Rat) ≤
      nearestEven (other / format.unit other) := by exact_mod_cast nearestEven_mono scaled
  rw [round, round, same]
  exact mul_le_mul_of_nonneg_right nearest (unit_pos other).le

/-- Rounding is monotone among positive numbers: between two that keep other digits lies the power
of two at which the larger one begins. -/
theorem round_mono_of_pos (positive : 0 < value) (le : value ≤ other) :
    format.round value ≤ format.round other := by
  have larger : 0 < other := positive.trans_le le
  have places : format.exponent value ≤ format.exponent other := by
    apply exponent_mono positive.ne'
    rw [abs_of_pos positive, abs_of_pos larger]
    exact le
  by_cases same : format.exponent value = format.exponent other
  · exact round_mono_unit (by rw [unit, unit, same]) le
  · have some := format.positive
    have logs : Int.log 2 value < Int.log 2 other ∧
        format.exponent other ≤ Int.log 2 other := by
      rw [exponent, exponent, abs_of_pos positive, abs_of_pos larger] at same places
      rw [exponent, abs_of_pos larger]
      omega
    have above : value ≤ 2 ^ Int.log 2 other := by
      have next : value < 2 ^ (Int.log 2 value + 1) := by
        exact_mod_cast Int.lt_zpow_succ_log_self (by norm_num : 1 < 2) value
      have powers : (2 : Rat) ^ (Int.log 2 value + 1) ≤ 2 ^ Int.log 2 other :=
        zpow_le_zpow_right₀ (by norm_num) logs.1
      exact next.le.trans powers
    have below : (2 : Rat) ^ Int.log 2 other ≤ other := by
      exact_mod_cast Int.zpow_log_le_self (by norm_num : 1 < 2) larger
    obtain ⟨fine, small⟩ := multiple_of_le (places.trans logs.2) 1
    obtain ⟨coarse, large⟩ := multiple_of_le logs.2 1
    rw [Int.cast_one, one_mul] at small large
    calc
      format.round value ≤ 2 ^ Int.log 2 other := by
        rw [small] at above ⊢
        exact round_le_multiple fine above
      _ ≤ format.round other := by
        rw [large] at below ⊢
        exact multiple_le_round coarse below

/-- Rounding is monotone. -/
theorem round_mono (le : value ≤ other) : format.round value ≤ format.round other := by
  rcases lt_or_ge 0 value with positive | negative
  · exact round_mono_of_pos positive le
  · rcases lt_or_ge other 0 with below | above
    · have opposite : format.round (-other) ≤ format.round (-value) :=
        round_mono_of_pos (neg_pos.mpr below) (neg_le_neg le)
      rw [round_neg, round_neg] at opposite
      exact neg_le_neg_iff.mp opposite
    · have zero : format.round value ≤ 0 := by
        have multiple : format.round value ≤ (0 : Int) * format.unit value :=
          round_le_multiple 0 (by simpa using negative)
        simpa using multiple
      have other' : 0 ≤ format.round other := by
        have multiple : (0 : Int) * format.unit other ≤ format.round other :=
          multiple_le_round 0 (by simpa using above)
        simpa using multiple
      exact zero.trans other'

/-- A rounded number is not above a number of the format above it. -/
theorem round_le_of_le (represents : format.Represents other) (le : value ≤ other) :
    format.round value ≤ other :=
  (round_mono le).trans_eq (round_of_represents represents)

/-- One less than a number from one half on, as far as the format keeps its ones, is a number of
the format. -/
theorem represents_sub_one (fraction : format.least ≤ 0) (represents : format.Represents value)
    (least : 1 / 2 ≤ value) (most : value < 2 ^ format.precision) :
    format.Represents (value - 1) := by
  obtain ⟨count, multiple⟩ := represents
  have positive : 0 < value := by linarith
  by_cases none : value - 1 = 0
  · rw [none]
    exact represents_zero
  · have smaller : format.exponent (value - 1) ≤ format.exponent value := by
      apply exponent_mono none
      rw [abs_of_pos positive, abs_le]
      constructor
      · linarith
      · linarith
    have ones : format.exponent value ≤ 0 := by
      have log : Int.log 2 value < format.precision := by
        rw [← Int.lt_zpow_iff_log_lt (by norm_num) positive, zpow_natCast]
        exact_mod_cast most
      rw [exponent, abs_of_pos positive]
      omega
    obtain ⟨whole, one⟩ := multiple_of_le ones 1
    have counted : value - 1 = ((count - whole : Int) : Rat) * 2 ^ format.exponent value := by
      rw [Int.cast_one, one_mul, zpow_zero] at one
      rw [Int.cast_sub, sub_mul, ← one]
      exact congrArg (· - 1) multiple
    exact represents_of_multiple smaller counted

end FloatFormat

end FlockOs.Lib
