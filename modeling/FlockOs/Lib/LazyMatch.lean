import Mathlib.Data.List.Basic

/-!
# Lazy matches

A lazy repetition in front of a tail, as a regular expression matches it: the body is the shortest
non-empty run of allowed symbols behind which the tail matches what is left.
-/

namespace FlockOs.Lib

variable {α β : Type}

/-- The shortest non-empty body of allowed symbols behind which the tail matches, with the value of
the tail. -/
def lazyMatch (allowed : α → Bool) (tail : List α → Option β) : List α → Option (List α × β)
  | [] => none
  | symbol :: rest =>
    if allowed symbol then
      match tail rest with
      | some value => some ([symbol], value)
      | none => (lazyMatch allowed tail rest).map fun found => (symbol :: found.1, found.2)
    else none

variable {allowed : α → Bool} {tail : List α → Option β}

/-- A body is found where the tail matches behind it and behind no shorter one. -/
theorem lazyMatch_append {value : β} : ∀ {body rest : List α}, body ≠ [] →
    (∀ symbol ∈ body, allowed symbol = true) → tail rest = some value →
    (∀ before behind, body = before ++ behind → before ≠ [] → behind ≠ [] →
      tail (behind ++ rest) = none) →
    lazyMatch allowed tail (body ++ rest) = some (body, value)
  | [], _, nonempty, _, _, _ => absurd rfl nonempty
  | [symbol], rest, _, all, matched, _ => by
    rw [List.singleton_append, lazyMatch, if_pos (all symbol List.mem_cons_self), matched]
  | symbol :: next :: body, rest, _, all, matched, shorter => by
    have first : tail (next :: body ++ rest) = none :=
      shorter [symbol] (next :: body) rfl (List.cons_ne_nil _ _) (List.cons_ne_nil _ _)
    have later : lazyMatch allowed tail (next :: body ++ rest) = some (next :: body, value) := by
      refine lazyMatch_append (List.cons_ne_nil _ _)
        (fun other there => all other (List.mem_cons_of_mem _ there)) matched ?_
      intro before behind whole _ last
      exact shorter (symbol :: before) behind (congrArg (symbol :: ·) whole) (List.cons_ne_nil _ _)
        last
    rw [List.cons_append, lazyMatch, if_pos (all symbol List.mem_cons_self), first, later]
    rfl

/-- What is found is a non-empty body of allowed symbols with a match of the tail behind it. -/
theorem of_lazyMatch {value : β} : ∀ {text body : List α},
    lazyMatch allowed tail text = some (body, value) →
      body ≠ [] ∧ (∀ symbol ∈ body, allowed symbol = true) ∧
        ∃ rest, text = body ++ rest ∧ tail rest = some value
  | [], _, found => by cases found
  | symbol :: rest, body, found => by
    rw [lazyMatch] at found
    split at found
    · next passes =>
      cases matched : tail rest with
      | some first =>
        rw [matched] at found
        cases found
        refine ⟨List.cons_ne_nil _ _, fun other there => ?_, rest, rfl, matched⟩
        rw [List.mem_singleton.mp there]
        exact passes
      | none =>
        rw [matched] at found
        obtain ⟨⟨shorter, last⟩, later, same⟩ := Option.map_eq_some_iff.mp found
        cases same
        obtain ⟨_, all, left, whole, behind⟩ := of_lazyMatch later
        refine ⟨List.cons_ne_nil _ _, fun other there => ?_, left, ?_, behind⟩
        · cases List.mem_cons.mp there with
          | inl own => rw [own]; exact passes
          | inr among => exact all other among
        · rw [whole]
          rfl
    · cases found

/-- Something is found where the tail matches behind any non-empty body of allowed symbols. -/
theorem lazyMatch_isSome : ∀ {body rest : List α}, body ≠ [] →
    (∀ symbol ∈ body, allowed symbol = true) → (tail rest).isSome = true →
    (lazyMatch allowed tail (body ++ rest)).isSome = true
  | [], _, nonempty, _, _ => absurd rfl nonempty
  | symbol :: body, rest, _, all, matched => by
    obtain ⟨first, others⟩ := List.forall_mem_cons.mp all
    rw [List.cons_append, lazyMatch, if_pos first]
    cases early : tail (body ++ rest) with
    | some value => rfl
    | none =>
      have longer : body ≠ [] := by
        rintro rfl
        rw [List.nil_append] at early
        rw [early] at matched
        cases matched
      rw [Option.isSome_map]
      exact lazyMatch_isSome longer others matched

/-- What a tail reads can be changed behind the match. -/
theorem lazyMatch_map {γ : Type} (change : β → γ) : ∀ text : List α,
    lazyMatch allowed (fun rest => (tail rest).map change) text =
      (lazyMatch allowed tail text).map fun found => (found.1, change found.2)
  | [] => rfl
  | symbol :: rest => by
    rw [lazyMatch, lazyMatch, lazyMatch_map change rest]
    split
    · cases tail rest with
      | some value => rfl
      | none => cases lazyMatch allowed tail rest <;> rfl
    · rfl

end FlockOs.Lib
