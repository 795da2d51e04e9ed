import Mathlib.Data.List.Basic

/-!
# Cumulative counts

One count for each of some bounds, of the values that are within it. A value that lands in a bucket
is added to that bucket and to all buckets after it; where every later bound takes what an earlier
one takes, each count is then the number of values within its bound.
-/

namespace FlockOs.Lib

variable {α β : Type}

/-- The counts with one added from the first bound that takes the value on, as a loop over the
bounds that stops there adds it. -/
def land (takes : β → Bool) (bounds : List β) (counts : List Nat) : List Nat :=
  match bounds.findIdx? takes with
  | none => counts
  | some index => counts.take index ++ (counts.drop index).map (· + 1)

/-- There are as many counts as before. -/
theorem length_land (takes : β → Bool) (bounds : List β) (counts : List Nat) :
    (land takes bounds counts).length = counts.length := by
  unfold land
  split
  · rfl
  · rw [List.length_append, List.length_map, ← List.length_append, List.take_append_drop]

/-- A value that the first bound takes is added everywhere. -/
theorem land_cons_taken {takes : β → Bool} {bound : β} (taken : takes bound = true)
    (bounds : List β) (counts : List Nat) :
    land takes (bound :: bounds) counts = counts.map (· + 1) := by
  rw [land, List.findIdx?_cons, if_pos taken]
  rfl

/-- A value that the first bound does not take is not added there. -/
theorem land_cons_passed {takes : β → Bool} {bound : β} (passed : takes bound = false)
    (bounds : List β) (count : Nat) (counts : List Nat) :
    land takes (bound :: bounds) (count :: counts) = count :: land takes bounds counts := by
  rw [land, land, List.findIdx?_cons, if_neg (Bool.eq_false_iff.mp passed)]
  cases bounds.findIdx? takes <;> rfl

/-- Where later bounds take what earlier ones take, each count grows by one exactly where its bound
takes the value. -/
theorem land_map {takes : β → Bool} {bounds : List β}
    (wider : bounds.Pairwise fun bound later => takes bound = true → takes later = true)
    (count : β → Nat) :
    land takes bounds (bounds.map count) =
      bounds.map fun bound => count bound + (takes bound).toNat := by
  induction bounds with
  | nil => rfl
  | cons bound bounds ih =>
    obtain ⟨first, rest⟩ := List.pairwise_cons.mp wider
    cases taken : takes bound with
    | false =>
      rw [List.map_cons, land_cons_passed taken, ih rest, List.map_cons, taken]
      rfl
    | true =>
      rw [land_cons_taken taken, List.map_map]
      refine List.map_congr_left fun later member => ?_
      have grown : takes later = true := by
        rcases List.mem_cons.mp member with rfl | member
        · exact taken
        · exact first later member taken
      rw [grown]
      rfl

/-- The number of values within each bound. -/
def cumulate (within : α → β → Bool) (bounds : List β) (values : List α) : List Nat :=
  bounds.map fun bound => values.countP (within · bound)

/-- One more value lands in the counts. -/
theorem cumulate_concat {within : α → β → Bool} {bounds : List β} {value : α}
    (wider : bounds.Pairwise fun bound later => within value bound = true → within value later = true)
    (values : List α) :
    cumulate within bounds (values ++ [value]) =
      land (within value) bounds (cumulate within bounds values) := by
  rw [cumulate, cumulate, land_map wider]
  refine List.map_congr_left fun bound _ => ?_
  rw [List.countP_append, List.countP_singleton]
  cases within value bound <;> rfl

/-- Where later bounds take what earlier ones take, the counts do not decrease. -/
theorem pairwise_cumulate {within : α → β → Bool} {bounds : List β}
    (wider : bounds.Pairwise fun bound later =>
      ∀ value, within value bound = true → within value later = true) (values : List α) :
    (cumulate within bounds values).Pairwise (· ≤ ·) := by
  rw [cumulate, List.pairwise_map]
  exact wider.imp fun grows => List.countP_mono_left fun value _ => grows value

end FlockOs.Lib
