import Mathlib.Algebra.Order.Ring.Rat

/-!
# Numbers with infinities

The values of a floating-point type with exact arithmetic in place of rounding: the rationals, the
two infinities and a value that is no number. No comparison holds of the last, as in IEEE 754; the
two zeros are one.
-/

namespace FlockOs.Lib

/-- A value of a floating-point type. -/
inductive Extended where
  /-- `float("nan")`. -/
  | nan
  /-- `float("-inf")`. -/
  | negInf
  /-- A finite value. -/
  | fin (value : Rat)
  /-- `float("inf")`. -/
  | posInf
deriving DecidableEq, Repr

namespace Extended

instance : Zero Extended := ⟨.fin 0⟩

/-- The `<=` of floating-point values. -/
def le : Extended → Extended → Bool
  | .nan, _ | _, .nan => false
  | .negInf, _ | _, .posInf => true
  | .fin value, .fin other => value ≤ other
  | _, _ => false

instance : LE Extended := ⟨fun value other => le value other = true⟩

instance (value other : Extended) : Decidable (value ≤ other) :=
  inferInstanceAs (Decidable (le value other = true))

instance : LT Extended := ⟨fun value other => value ≤ other ∧ ¬other ≤ value⟩

instance (value other : Extended) : Decidable (value < other) :=
  inferInstanceAs (Decidable (value ≤ other ∧ ¬other ≤ value))

/-- The `+` of floating-point values. -/
def add : Extended → Extended → Extended
  | .nan, _ | _, .nan | .negInf, .posInf | .posInf, .negInf => .nan
  | .negInf, _ | _, .negInf => .negInf
  | .posInf, _ | _, .posInf => .posInf
  | .fin value, .fin other => .fin (value + other)

instance : Add Extended := ⟨add⟩

/-- The unary `-` of floating-point values. -/
def neg : Extended → Extended
  | .nan => .nan
  | .negInf => .posInf
  | .fin value => .fin (-value)
  | .posInf => .negInf

instance : Sub Extended := ⟨fun value other => value + neg other⟩

/-- A finite factor times a floating-point value. -/
def scale (factor : Rat) : Extended → Extended
  | .nan => .nan
  | .fin value => .fin (factor * value)
  | .posInf => if factor = 0 then .nan else if 0 < factor then .posInf else .negInf
  | .negInf => if factor = 0 then .nan else if 0 < factor then .negInf else .posInf

/-- Finite values compare as numbers do. -/
@[simp] theorem fin_le_fin {value other : Rat} : fin value ≤ fin other ↔ value ≤ other :=
  decide_eq_true_iff

/-- The sum of finite values. -/
@[simp] theorem fin_add_fin (value other : Rat) : fin value + fin other = fin (value + other) := rfl

/-- The difference of finite values. -/
@[simp] theorem fin_sub_fin (value other : Rat) : fin value - fin other = fin (value - other) := by
  rw [sub_eq_add_neg]
  rfl

/-- A multiple of a finite value. -/
@[simp] theorem scale_fin (factor value : Rat) : scale factor (fin value) = fin (factor * value) :=
  rfl

/-- What compares with anything is a number. -/
theorem ne_nan_of_le {value other : Extended} (below : value ≤ other) :
    value ≠ nan ∧ other ≠ nan := by
  constructor
  · rintro rfl
    cases below
  · rintro rfl
    cases value <;> cases below

/-- Every number is at most infinity. -/
theorem le_posInf {value : Extended} (number : value ≠ nan) : value ≤ posInf := by
  cases value with
  | nan => exact absurd rfl number
  | negInf => rfl
  | fin value => rfl
  | posInf => rfl

/-- Only infinity is at least infinity. -/
theorem eq_posInf_of_le {value : Extended} (above : posInf ≤ value) : value = posInf := by
  cases value <;> first | rfl | cases above

/-- The order is transitive. -/
theorem le_trans {low middle high : Extended} (below : low ≤ middle) (above : middle ≤ high) :
    low ≤ high := by
  cases low with
  | nan => cases below
  | negInf => cases high <;> first | rfl | (cases middle <;> cases above)
  | posInf =>
    rw [eq_posInf_of_le below] at above
    exact above
  | fin value =>
    cases middle with
    | nan => cases below
    | negInf => cases below
    | posInf =>
      rw [eq_posInf_of_le above]
      rfl
    | fin between =>
      cases high with
      | nan => cases above
      | negInf => cases above
      | posInf => rfl
      | fin other => exact fin_le_fin.mpr (Rat.le_trans (fin_le_fin.mp below) (fin_le_fin.mp above))

/-- A number is negative or it is not. -/
theorem not_lt_zero_iff {value : Extended} (number : value ≠ nan) : ¬value < 0 ↔ 0 ≤ value := by
  cases value with
  | nan => exact absurd rfl number
  | negInf => decide
  | posInf => decide
  | fin value =>
    show ¬(fin value ≤ fin 0 ∧ ¬fin 0 ≤ fin value) ↔ fin 0 ≤ fin value
    rw [fin_le_fin, fin_le_fin]
    constructor
    · intro kept
      by_contra under
      exact kept ⟨Rat.le_of_lt (Rat.not_le.mp under), under⟩
    · exact fun above both => both.2 above

end Extended

end FlockOs.Lib
