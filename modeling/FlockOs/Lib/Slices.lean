import Mathlib.Data.List.Basic

/-!
# Slices

A list cut by a stride, as a loop over `range(0, len(items), size)` cuts it.
-/

namespace FlockOs.Lib

variable {α : Type}

/-- `[items[i : i + size] for i in range(0, len(items), size)]`. -/
def strided (size : Nat) (items : List α) : List (List α) :=
  (List.range ((items.length + size - 1) / size)).map fun index =>
    (items.drop (index * size)).take size

/-- Batches of a list: together they are the list, none is empty, and all but the last are full. -/
structure Batched (size : Nat) (items : List α) (batches : List (List α)) : Prop where
  /-- Nothing is lost or moved. -/
  whole : batches.flatten = items
  /-- No batch is empty. -/
  filled : ∀ batch ∈ batches, batch ≠ []
  /-- No batch is too large. -/
  bounded : ∀ batch ∈ batches, batch.length ≤ size
  /-- Every batch but the last is full. -/
  full : ∀ batch ∈ batches.dropLast, batch.length = size

/-- The first slices of a list are a prefix of it. -/
theorem flatten_slices (size : Nat) (items : List α) (count : Nat) :
    ((List.range count).map fun index => (items.drop (index * size)).take size).flatten =
      items.take (count * size) := by
  induction count with
  | zero => simp
  | succ count ih =>
    rw [List.range_succ, List.map_append, List.flatten_append, ih, Nat.succ_mul, List.take_add]
    simp

/-- The strides reach the end of the list. -/
theorem length_le_strides {size : Nat} (positive : 0 < size) (items : List α) :
    items.length ≤ (items.length + size - 1) / size * size := by
  have rest := Nat.mod_lt (items.length + size - 1) positive
  have split := Nat.div_add_mod' (items.length + size - 1) size
  omega

/-- Every stride begins within the list. -/
theorem stride_lt {size count index : Nat} {items : List α} (positive : 0 < size)
    (within : index < (items.length + size - 1) / size) (later : count ≤ index) :
    count * size < items.length := by
  have reaches : (index + 1) * size ≤ items.length + size - 1 :=
    (Nat.le_div_iff_mul_le positive).mp within
  have below : (count + 1) * size ≤ (index + 1) * size :=
    Nat.mul_le_mul_right size (Nat.succ_le_succ later)
  rw [Nat.succ_mul] at below
  omega

/-- A list that is cut by a stride is batched. -/
theorem batched_strided {size : Nat} (positive : 0 < size) (items : List α) :
    Batched size items (strided size items) := by
  constructor
  · rw [strided, flatten_slices, List.take_of_length_le (length_le_strides positive items)]
  · intro batch member
    obtain ⟨index, within, rfl⟩ := List.mem_map.mp member
    have inside := stride_lt positive (List.mem_range.mp within) (Nat.le_refl index)
    rw [← List.length_pos_iff, List.length_take, List.length_drop]
    omega
  · intro batch member
    obtain ⟨index, _, rfl⟩ := List.mem_map.mp member
    exact List.length_take_le ..
  · intro batch member
    rw [strided] at member
    cases strides : (items.length + size - 1) / size with
    | zero =>
      rw [strides] at member
      cases member
    | succ last =>
      rw [strides, List.range_succ, List.map_append, List.map_singleton,
        List.dropLast_concat] at member
      obtain ⟨index, earlier, rfl⟩ := List.mem_map.mp member
      have next : (index + 1) * size < items.length :=
        stride_lt positive (strides ▸ Nat.lt_succ_self last) (List.mem_range.mp earlier)
      rw [Nat.succ_mul] at next
      rw [List.length_take, List.length_drop]
      omega

end FlockOs.Lib
