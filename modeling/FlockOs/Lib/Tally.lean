import Mathlib.Algebra.BigOperators.Group.List.Lemmas
import Mathlib.Algebra.GroupWithZero.Nat
import Mathlib.Data.List.Nodup
import Mathlib.Logic.Function.Basic

/-!
# Tallies

`counter` lists how often each value occurs, once per value. Adding its numbers to a table of
totals, one key at a time, adds the number of occurrences at each key.
-/

namespace FlockOs.Lib

variable {α β : Type}

section Counter

variable [DecidableEq α]

/-- Python's `Counter`: how often each value occurs, in the order of first occurrence. -/
def counter (values : List α) : List (α × Nat) :=
  values.eraseDups.map fun value => (value, values.count value)

/-- The list of distinct values repeats none. -/
theorem nodup_eraseDups (values : List α) : values.eraseDups.Nodup := by
  match values with
  | [] => exact List.nodup_nil
  | value :: rest =>
    rw [List.eraseDups_cons, List.nodup_cons]
    constructor
    · intro member
      have kept := List.mem_eraseDups.mp member
      simp at kept
    · exact nodup_eraseDups (rest.filter fun other => !other == value)
termination_by values.length
decreasing_by
  have shorter := List.length_filter_le (fun other => !other == value) rest
  simpa using Nat.lt_succ_of_le shorter

/-- A value counts as often as it occurs. -/
theorem sum_counter (values : List α) (key : α) :
    (((counter values).filter fun entry => entry.1 = key).map Prod.snd).sum = values.count key := by
  have select : ((counter values).filter fun entry => entry.1 = key).map Prod.snd =
      (values.eraseDups.filter fun value => value = key).map values.count := by
    simp only [counter, List.filter_map, List.map_map]
    rfl
  rw [select, List.filter_eq]
  by_cases member : key ∈ values
  · have once : values.eraseDups.count key = 1 :=
      List.count_eq_one_of_mem (nodup_eraseDups values) (List.mem_eraseDups.mpr member)
    rw [once]
    simp
  · have never : values.eraseDups.count key = 0 :=
      List.count_eq_zero.mpr fun kept => member (List.mem_eraseDups.mp kept)
    rw [never, List.count_eq_zero.mpr member]
    simp

/-- The values of a counter are the distinct values. -/
theorem map_fst_counter (values : List α) : (counter values).map Prod.fst = values.eraseDups := by
  rw [counter, List.map_map]
  exact List.map_id _

/-- The number of an entry is how often its value occurs. -/
theorem mem_counter {values : List α} {entry : α × Nat} (member : entry ∈ counter values) :
    entry.2 = values.count entry.1 := by
  obtain ⟨value, _, same⟩ := List.mem_map.mp member
  rw [← same]

/-- The numbers of a counter add up to the number of values. -/
theorem sum_snd_counter (values : List α) :
    ((counter values).map Prod.snd).sum = values.length := by
  have once : values.eraseDups.Perm values.dedup := by
    apply (List.perm_ext_iff_of_nodup (nodup_eraseDups values) (List.nodup_dedup values)).mpr
    intro value
    rw [List.mem_eraseDups, List.mem_dedup]
  have numbers : (counter values).map Prod.snd = values.eraseDups.map values.count := by
    rw [counter, List.map_map]
    rfl
  rw [numbers, (once.map values.count).sum_eq]
  exact List.sum_map_count_dedup_eq_length values

end Counter

variable [DecidableEq β]

/-- Add a number at one key. -/
def addAt (totals : β → Nat) (key : β) (number : Nat) : β → Nat :=
  Function.update totals key (totals key + number)

/-- Adding entries one after the other adds the numbers of the entries placed at a key. -/
theorem foldl_addAt (place : α → β) (entries : List (α × Nat)) (totals : β → Nat) (key : β) :
    entries.foldl (fun totals entry => addAt totals (place entry.1) entry.2) totals key =
      totals key + ((entries.filter fun entry => place entry.1 = key).map Prod.snd).sum := by
  induction entries generalizing totals with
  | nil => simp
  | cons entry rest shorter =>
    rw [List.foldl_cons, shorter]
    by_cases here : place entry.1 = key
    · subst here
      simp [addAt]
      omega
    · have elsewhere : addAt totals (place entry.1) entry.2 key = totals key :=
        Function.update_of_ne (Ne.symm here) _ _
      rw [elsewhere]
      simp [here]

/-- Adding a counter, placed injectively, adds the number of occurrences. -/
theorem foldl_addAt_counter [DecidableEq α] {place : α → β} (injective : place.Injective) (values : List α)
    (totals : β → Nat) (key : α) :
    (counter values).foldl (fun totals entry => addAt totals (place entry.1) entry.2) totals
        (place key) = totals (place key) + values.count key := by
  rw [foldl_addAt place, ← sum_counter values key]
  simp only [injective.eq_iff]

/-- Adding a counter changes nothing where none of its values is placed. -/
theorem foldl_addAt_counter_of_ne [DecidableEq α] {place : α → β} (values : List α) (totals : β → Nat) {key : β}
    (elsewhere : ∀ value, place value ≠ key) :
    (counter values).foldl (fun totals entry => addAt totals (place entry.1) entry.2) totals key =
      totals key := by
  rw [foldl_addAt place]
  simp [elsewhere]

end FlockOs.Lib
