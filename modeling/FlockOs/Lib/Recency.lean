import Mathlib.Data.List.Basic

/-!
# Recency

Keys are used by the events of a log, the latest event first. A key was used the more recently the
longer the log was when it was used last.
-/

namespace FlockOs.Lib

variable {ε κ : Type}

/-- The length of the log after the last use of a key, and zero for a key that was never used. -/
def lastUse (uses : ε → κ → Bool) : List ε → κ → Nat
  | [], _ => 0
  | event :: earlier, key =>
    if uses event key then earlier.length + 1 else lastUse uses earlier key

variable {uses : ε → κ → Bool}

/-- A use is within the log. -/
theorem lastUse_le_length (uses : ε → κ → Bool) (key : κ) :
    ∀ log : List ε, lastUse uses log key ≤ log.length
  | [] => Nat.le_refl 0
  | event :: earlier => by
    rw [lastUse]
    split
    next => exact Nat.le_refl _
    next => exact Nat.le_succ_of_le (lastUse_le_length uses key earlier)

/-- An event that uses a key is its last use. -/
theorem lastUse_cons_used {event : ε} {key : κ} (used : uses event key = true) (log : List ε) :
    lastUse uses (event :: log) key = log.length + 1 := if_pos used

/-- Events that do not use a key leave its last use. -/
theorem lastUse_append {key : κ} :
    ∀ {events : List ε}, (∀ event ∈ events, uses event key = false) →
      ∀ log, lastUse uses (events ++ log) key = lastUse uses log key
  | [], _, _ => rfl
  | event :: events, idle, log => by
    obtain ⟨first, rest⟩ := List.forall_mem_cons.mp idle
    show (if uses event key = true then _ else lastUse uses (events ++ log) key) = _
    rw [first, if_neg Bool.false_ne_true, lastUse_append rest log]

/-- Keys in the order of their last uses stay so, and a key used by the next event comes last. -/
theorem pairwise_lastUse_concat {α : Type} {key : α → κ} {rows : List α} {events log : List ε}
    (ordered : rows.Pairwise fun first second =>
      lastUse uses log (key first) < lastUse uses log (key second))
    (idle : ∀ row ∈ rows, ∀ event ∈ events, uses event (key row) = false) {event : ε} {row : α}
    (used : uses event (key row) = true)
    (others : ∀ other ∈ rows, uses event (key other) = false) :
    (rows ++ [row]).Pairwise fun first second =>
      lastUse uses (event :: (events ++ log)) (key first) <
        lastUse uses (event :: (events ++ log)) (key second) := by
  have kept : ∀ other ∈ rows,
      lastUse uses (event :: (events ++ log)) (key other) = lastUse uses log (key other) := by
    intro other member
    have all : ∀ later ∈ event :: events, uses later (key other) = false :=
      List.forall_mem_cons.mpr ⟨others other member, idle other member⟩
    exact lastUse_append all log
  refine List.pairwise_append.mpr ⟨?_, List.pairwise_singleton _ _, ?_⟩
  · refine ordered.imp_of_mem fun first second earlier => ?_
    rw [kept _ first, kept _ second]
    exact earlier
  · intro other member last single
    rw [List.mem_singleton.mp single, kept other member, lastUse_cons_used used]
    have within := lastUse_le_length uses (key other) log
    rw [List.length_append]
    omega

end FlockOs.Lib
