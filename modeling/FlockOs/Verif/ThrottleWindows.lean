import FlockOs.EngagementMemory
import Mathlib.Data.Real.Basic
import Mathlib.Tactic.Linarith

/-!
# Every window of a second

The bucket of a key holds the times at which calls of the key were allowed, as far as they are not
before the cutoff of the last call. The cutoff is a rounded difference: no `float` lies between it
and the difference. So in no second, wherever it begins, are more calls of a key allowed than the
limit, and a call is refused only when the second before it is full, unless its cutoff was rounded
down to a time at which a call was allowed.
-/

namespace FlockOs.Engagement

open Lib

/-- A call of `throttle_allows`. -/
structure ThrottleCall where
  /-- The key. -/
  key : String
  /-- The time. -/
  now : Rat
  /-- It is a `float`. -/
  double : binary64.Represents now
deriving DecidableEq

/-- A gateway with the calls that it answered. -/
structure Throttling where
  /-- The gateway. -/
  store : InMemory := {}
  /-- The calls and whether they were allowed. -/
  answers : List (ThrottleCall × Bool) := []

/-- The gateway answers a call. -/
def Throttling.answer (maxPerSecond : Nat) (throttling : Throttling) (call : ThrottleCall) :
    Throttling :=
  let (allowed, store) := throttling.store.throttleAllows call.key call.now maxPerSecond
  ⟨store, throttling.answers ++ [(call, allowed)]⟩

/-- The times at which calls of a key were allowed. -/
def allowedTimes (key : String) (answers : List (ThrottleCall × Bool)) : List Rat :=
  (answers.filter fun entry => entry.2 ∧ entry.1.key = key).map (·.1.now)

/-- The number of calls of a key that were allowed in the second from a time on, both of its ends
included. -/
noncomputable def allowedWithin (key : String) (answers : List (ThrottleCall × Bool))
    (start : ℝ) : Nat :=
  (allowedTimes key answers).countP fun time : Rat => start ≤ (time : ℝ) ∧ (time : ℝ) ≤ start + 1

/-- A call was allowed or refused at the end. -/
theorem allowedTimes_snoc (key : String) (answers : List (ThrottleCall × Bool))
    (call : ThrottleCall) (allowed : Bool) :
    allowedTimes key (answers ++ [(call, allowed)]) =
      allowedTimes key answers ++ if allowed ∧ call.key = key then [call.now] else [] := by
  rw [allowedTimes, List.filter_append, List.map_append, ← allowedTimes]
  by_cases counts : allowed = true ∧ call.key = key
  · rw [if_pos counts, List.filter_cons_of_pos (by simpa using counts)]
    rfl
  · rw [if_neg counts, List.filter_cons_of_neg (by simpa using counts)]
    rfl

/-- The calls are answered in order. -/
theorem answers_calls (maxPerSecond : Nat) (calls : List ThrottleCall) (start : Throttling) :
    ((runAll (Throttling.answer maxPerSecond) start calls).answers).map Prod.fst =
      start.answers.map Prod.fst ++ calls := by
  induction calls generalizing start with
  | nil => rw [runAll_nil, List.append_nil]
  | cons call rest answered =>
    rw [runAll_cons, answered]
    show (start.answers ++ [_]).map Prod.fst ++ rest = _
    rw [List.map_append, List.append_assoc]
    rfl

namespace Throttling

/-- No call answered is later. -/
def NotAfter (throttling : Throttling) (now : Rat) : Prop :=
  ∀ entry ∈ throttling.answers, entry.1.now ≤ now

/-- The bucket of every key holds the recent ones of the times at which its calls were allowed. -/
def Faithful (throttling : Throttling) : Prop :=
  ∀ key now, throttling.NotAfter now →
    throttling.store.recent key now =
      (allowedTimes key throttling.answers).filter fun time => cutoff now ≤ time

/-- A later call has no earlier cutoff. -/
theorem cutoff_mono {earlier now : Rat} (later : earlier ≤ now) : cutoff earlier ≤ cutoff now :=
  FloatFormat.round_mono (sub_le_sub_right later 1)

/-- Times that were recent before are those that are recent now, as far as they are recent now. -/
theorem filter_recent {earlier now : Rat} (later : earlier ≤ now) (times : List Rat) :
    (times.filter fun time => cutoff earlier ≤ time).filter (fun time => cutoff now ≤ time) =
      times.filter fun time => cutoff now ≤ time := by
  rw [List.filter_filter]
  apply List.filter_congr
  intro time _
  have implied : cutoff now ≤ time → cutoff earlier ≤ time := (cutoff_mono later).trans
  rw [← Bool.decide_and, decide_eq_decide]
  exact and_iff_left_of_imp implied

variable {maxPerSecond : Nat} {throttling : Throttling} {call : ThrottleCall}

/-- A call is allowed when fewer than the limit are recent. -/
def allows (maxPerSecond : Nat) (throttling : Throttling) (call : ThrottleCall) : Bool :=
  !throttling.store.bucketFull call.key call.now maxPerSecond

/-- The answer to a call is noted. -/
theorem answer_answers :
    (throttling.answer maxPerSecond call).answers =
      throttling.answers ++ [(call, throttling.allows maxPerSecond call)] := by
  rw [answer, InMemory.throttleAllows, allows]
  cases throttling.store.bucketFull call.key call.now maxPerSecond <;> rfl

/-- A call drops the old times of its key, and adds its own time if it is allowed. -/
theorem answer_throttle (key : String) :
    (throttling.answer maxPerSecond call).store.throttle key =
      if key = call.key then
        throttling.store.recent call.key call.now ++
          if throttling.allows maxPerSecond call then [call.now] else []
      else throttling.store.throttle key := by
  rw [answer, InMemory.throttleAllows, allows]
  by_cases mine : key = call.key
  · subst mine
    rw [if_pos rfl]
    cases throttling.store.bucketFull call.key call.now maxPerSecond with
    | true => exact (Function.update_self ..).trans (List.append_nil _).symm
    | false => exact Function.update_self ..
  · rw [if_neg mine]
    cases throttling.store.bucketFull call.key call.now maxPerSecond with
    | true => exact Function.update_of_ne mine ..
    | false => exact Function.update_of_ne mine ..

/-- A call that is not before another one keeps the buckets faithful. -/
theorem Faithful.answer (faithful : throttling.Faithful) (inOrder : throttling.NotAfter call.now) :
    (throttling.answer maxPerSecond call).Faithful := by
  intro key now notAfter
  rw [NotAfter, answer_answers] at notAfter
  have later : call.now ≤ now := notAfter (call, _) (List.mem_append_right _ List.mem_cons_self)
  have before : throttling.NotAfter now := fun entry member =>
    notAfter entry (List.mem_append_left _ member)
  rw [InMemory.recent, answer_throttle, answer_answers, allowedTimes_snoc, List.filter_append]
  by_cases mine : key = call.key
  · subst mine
    rw [if_pos rfl, List.filter_append, faithful call.key call.now inOrder, filter_recent later]
    simp only [and_true]
  · have other : ¬(throttling.allows maxPerSecond call = true ∧ call.key = key) :=
      fun both => mine both.2.symm
    rw [if_neg mine, if_neg other, List.filter_nil, List.append_nil]
    exact faithful key now before

/-- The times of calls that were allowed are times of calls. -/
theorem NotAfter.time_le {now : Rat} (notAfter : throttling.NotAfter now) {key : String}
    {time : Rat} (allowed : time ∈ allowedTimes key throttling.answers) : time ≤ now := by
  obtain ⟨entry, member, same⟩ := List.mem_map.mp allowed
  rw [← same]
  exact notAfter entry (List.mem_of_mem_filter member)

/-- The times of calls that were allowed are of type `float`. -/
theorem double_of_allowed {answers : List (ThrottleCall × Bool)} {key : String} {time : Rat}
    (allowed : time ∈ allowedTimes key answers) : binary64.Represents time := by
  obtain ⟨entry, _, same⟩ := List.mem_map.mp allowed
  rw [← same]
  exact entry.1.double

/-- The bucket of a key has the calls allowed up to a time in every second that ends after it. -/
theorem Faithful.allowedWithin_le (faithful : throttling.Faithful) {now : Rat}
    (notAfter : throttling.NotAfter now) (key : String) {start : ℝ}
    (ends : (now : ℝ) ≤ start + 1) :
    allowedWithin key throttling.answers start ≤ (throttling.store.recent key now).length := by
  rw [faithful key now notAfter, ← List.countP_eq_length_filter, allowedWithin]
  apply List.countP_mono_left
  intro time allowed within
  have late : (now : ℝ) - 1 ≤ time := by
    have starts := (of_decide_eq_true within).1
    linarith
  have exactly : now - 1 ≤ time := by exact_mod_cast late
  exact decide_eq_true (FloatFormat.round_le_of_le (double_of_allowed allowed) exactly)

/-- The bucket of a key has calls allowed in the second before only, where the cutoff was not
rounded down. -/
theorem Faithful.length_recent_le (faithful : throttling.Faithful) {now : Rat}
    (notAfter : throttling.NotAfter now) (kept : now - 1 ≤ cutoff now) (key : String) :
    (throttling.store.recent key now).length ≤
      allowedWithin key throttling.answers (now - 1) := by
  rw [faithful key now notAfter, ← List.countP_eq_length_filter, allowedWithin]
  apply List.countP_mono_left
  intro time allowed recent
  have late : now - 1 ≤ time := kept.trans (of_decide_eq_true recent)
  have early : time ≤ now := notAfter.time_le allowed
  apply decide_eq_true
  rw [sub_add_cancel]
  constructor
  · exact_mod_cast late
  · exact_mod_cast early

/-- The last call counts in a window when it was allowed in it. -/
theorem allowedWithin_snoc (key : String) (answers : List (ThrottleCall × Bool))
    (call : ThrottleCall) (allowed : Bool) (start : ℝ) :
    allowedWithin key (answers ++ [(call, allowed)]) start =
      allowedWithin key answers start +
        if (allowed ∧ call.key = key) ∧ start ≤ call.now ∧ call.now ≤ start + 1 then 1 else 0 := by
  rw [allowedWithin, allowedTimes_snoc, List.countP_append, ← allowedWithin]
  by_cases counts : allowed = true ∧ call.key = key
  · simp only [counts, and_self, ↓reduceIte, true_and, List.countP_singleton, decide_eq_true_eq]
  · rw [if_neg counts, if_neg fun both => counts both.1, List.countP_nil]

/-- No window has more calls allowed than the limit, and the second before a call that was refused
has that many, where the cutoff of the call was not rounded down. -/
structure Bounded (maxPerSecond : Nat) (throttling : Throttling) : Prop where
  within : ∀ key start, allowedWithin key throttling.answers start ≤ maxPerSecond
  refused : ∀ index (call : ThrottleCall), throttling.answers[index]? = some (call, false) →
    call.now - 1 ≤ cutoff call.now →
    allowedWithin call.key (throttling.answers.take index) (call.now - 1) = maxPerSecond

/-- A call that is not before another one keeps the bounds. -/
theorem Bounded.answer (bounded : throttling.Bounded maxPerSecond) (faithful : throttling.Faithful)
    (inOrder : throttling.NotAfter call.now) :
    (throttling.answer maxPerSecond call).Bounded maxPerSecond := by
  constructor
  · intro key start
    rw [answer_answers, allowedWithin_snoc]
    split
    next counts =>
      obtain ⟨⟨allowed, mine⟩, _, ends⟩ := counts
      subst mine
      have room : (throttling.store.recent call.key call.now).length < maxPerSecond := by
        simpa [allows, InMemory.bucketFull] using allowed
      have fewer := faithful.allowedWithin_le inOrder call.key ends
      omega
    next => exact bounded.within key start
  · intro index other refused kept
    rw [answer_answers] at refused ⊢
    by_cases old : index < throttling.answers.length
    · rw [List.getElem?_append_left old] at refused
      rw [List.take_append_of_le_length (Nat.le_of_lt old)]
      exact bounded.refused index other refused kept
    · rw [List.getElem?_append_right (not_lt.mp old), List.getElem?_singleton,
        Option.ite_none_right_eq_some, Option.some.injEq] at refused
      obtain ⟨last, same⟩ := refused
      obtain ⟨mine, full⟩ := Prod.mk.inj same
      have here : index = throttling.answers.length := by omega
      rw [← mine] at kept
      rw [here, List.take_left, ← mine]
      have most := bounded.within call.key (call.now - 1)
      have least : maxPerSecond ≤ (throttling.store.recent call.key call.now).length := by
        simpa [allows, InMemory.bucketFull] using full
      have recent := faithful.length_recent_le inOrder kept call.key
      omega

/-- Every run of calls in order, from empty buckets on, keeps the buckets faithful and the
bounds. -/
theorem run_bounded (maxPerSecond : Nat) (store : InMemory)
    (empty : ∀ key, store.throttle key = []) (calls : List ThrottleCall)
    (inOrder : calls.Pairwise fun earlier later => earlier.now ≤ later.now) :
    (runAll (Throttling.answer maxPerSecond) ⟨store, []⟩ calls).Faithful ∧
      (runAll (Throttling.answer maxPerSecond) ⟨store, []⟩ calls).Bounded maxPerSecond := by
  induction calls using List.reverseRecOn with
  | nil =>
    refine ⟨fun key now _ => ?_, fun key start => Nat.zero_le _, fun index call refused => ?_⟩
    · show (store.throttle key).filter _ = _
      rw [empty key]
      rfl
    · cases refused
  | append_singleton before call kept =>
    obtain ⟨ordered, _, last⟩ := List.pairwise_append.mp inOrder
    obtain ⟨faithful, bounded⟩ := kept ordered
    have answered := answers_calls maxPerSecond before ⟨store, []⟩
    have notAfter : (runAll (Throttling.answer maxPerSecond) ⟨store, []⟩ before).NotAfter
        call.now := by
      intro entry member
      have made : entry.1 ∈ before := by
        have mapped := List.mem_map_of_mem (f := Prod.fst) member
        rw [answered] at mapped
        exact mapped
      exact last entry.1 made call List.mem_cons_self
    rw [runAll_append, runAll_cons, runAll_nil]
    exact ⟨faithful.answer notAfter, bounded.answer faithful notAfter⟩

end Throttling

/-- The cutoff of a time from half a second on is exact, as long as `float` keeps the seconds. -/
theorem cutoff_exact {now : Rat} (double : binary64.Represents now) (least : 1 / 2 ≤ now)
    (most : now < 2 ^ 53) : cutoff now = now - 1 :=
  FloatFormat.round_of_represents
    (FloatFormat.represents_sub_one (by decide) double least (by exact_mod_cast most))

/-- In any run of calls whose times do not decrease, at most as many calls of a key as the limit are
allowed in any second, and a call is refused only if that many calls of its key were allowed in
the second before it, where its cutoff is not rounded down; from half a second on up to `2 ** 53`
no cutoff is. -/
theorem throttle_windows (maxPerSecond : Nat) (store : InMemory)
    (empty : ∀ key, store.throttle key = []) (calls : List ThrottleCall)
    (inOrder : calls.Pairwise fun earlier later => earlier.now ≤ later.now) :
    (∀ key (start : ℝ), allowedWithin key
      (runAll (Throttling.answer maxPerSecond) ⟨store, []⟩ calls).answers start ≤ maxPerSecond) ∧
    (∀ index (call : ThrottleCall),
      (runAll (Throttling.answer maxPerSecond) ⟨store, []⟩ calls).answers[index]? =
        some (call, false) →
      call.now - 1 ≤ cutoff call.now →
      allowedWithin call.key
        ((runAll (Throttling.answer maxPerSecond) ⟨store, []⟩ calls).answers.take index)
        (call.now - 1) = maxPerSecond) ∧
    ∀ now, binary64.Represents now → 1 / 2 ≤ now → now < 2 ^ 53 → cutoff now = now - 1 := by
  have ⟨_, bounded⟩ := Throttling.run_bounded maxPerSecond store empty calls inOrder
  exact ⟨bounded.within, bounded.refused, fun _ => cutoff_exact⟩

/-- Calls of one key at the ends of a second, and just after it. -/
def burst : List ThrottleCall :=
  [⟨"ann", 0, by decide +kernel⟩, ⟨"ann", 1, by decide +kernel⟩, ⟨"ann", 1, by decide +kernel⟩,
    ⟨"ann", 1 + 1 / 8, by decide +kernel⟩]

/-- With a limit of two the third call is refused, as the first one is a second before it, and the
fourth one is allowed. -/
theorem burst_windows :
    (runAll (Throttling.answer 2) {} burst).answers.map Prod.snd = [true, true, false, true] ∧
      ∀ key (start : ℝ),
        allowedWithin key (runAll (Throttling.answer 2) {} burst).answers start ≤ 2 :=
  ⟨by decide +kernel, (throttle_windows 2 {} (fun _ => rfl) burst (by decide +kernel)).1⟩

/-- Calls of one key two seconds apart, where `float` has only the even seconds. -/
def lateCalls : List ThrottleCall :=
  [⟨"ann", 2 ^ 53, by decide +kernel⟩, ⟨"ann", 2 ^ 53 + 2, by decide +kernel⟩]

/-- With a limit of one the second call is refused, and no call was allowed in the second before
it. -/
theorem late_call_refused :
    lateCalls.Pairwise (fun earlier later => earlier.now ≤ later.now) ∧
    ∃ call, (runAll (Throttling.answer 1) {} lateCalls).answers[1]? = some (call, false) ∧
      allowedWithin call.key ((runAll (Throttling.answer 1) {} lateCalls).answers.take 1)
        (call.now - 1) = 0 := by
  have answers : (runAll (Throttling.answer 1) {} lateCalls).answers =
      [(⟨"ann", 2 ^ 53, by decide +kernel⟩, true),
        (⟨"ann", 2 ^ 53 + 2, by decide +kernel⟩, false)] := by decide +kernel
  rw [answers]
  refine ⟨by decide +kernel, _, rfl, ?_⟩
  simp [allowedWithin, allowedTimes]

end FlockOs.Engagement
