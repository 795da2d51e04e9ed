import Mathlib.Data.List.Induction
import Mathlib.Logic.Relation

/-!
# Runs of a step function

A run is a list of calls performed one after another by a total step function. Two
predicates speak about a whole run: `EveryState`, a property of every state visited, and
`EveryCall`, a property of every call judged at the state it is made in. The rules below
reduce both to one step.
-/

namespace FlockOs.Lib

variable {State Call : Type*}

/-- The state after performing the calls in order. -/
def runAll (step : State → Call → State) (start : State) (calls : List Call) : State :=
  calls.foldl step start

@[simp] theorem runAll_nil (step : State → Call → State) (start : State) :
    runAll step start [] = start := rfl

@[simp] theorem runAll_cons (step : State → Call → State) (start : State) (call : Call)
    (rest : List Call) :
    runAll step start (call :: rest) = runAll step (step start call) rest := rfl

/-- A run is performed by performing its parts one after the other. -/
theorem runAll_append (step : State → Call → State) (start : State) (first second : List Call) :
    runAll step start (first ++ second) = runAll step (runAll step start first) second :=
  List.foldl_append

/-- The property holds in every state visited, the first and the last included. -/
def EveryState (step : State → Call → State) (holds : State → Prop) : State → List Call → Prop
  | state, [] => holds state
  | state, call :: rest => holds state ∧ EveryState step holds (step state call) rest

/-- The condition holds of every call at the state it is made in. -/
def EveryCall (step : State → Call → State) (allowed : State → Call → Prop) :
    State → List Call → Prop
  | _, [] => True
  | state, call :: rest => allowed state call ∧ EveryCall step allowed (step state call) rest

/-- The condition can be tested on a given run. -/
instance EveryCall.decidable (step : State → Call → State) (allowed : State → Call → Prop)
    [∀ state call, Decidable (allowed state call)] :
    ∀ (start : State) (calls : List Call), Decidable (EveryCall step allowed start calls)
  | _, [] => .isTrue trivial
  | start, call :: rest =>
    have := EveryCall.decidable step allowed (step start call) rest
    inferInstanceAs (Decidable (_ ∧ _))

variable {step : State → Call → State} {holds : State → Prop} {allowed : State → Call → Prop}

/-- A property that every step keeps holds after every run. -/
theorem runAll_invariant (holds : State → Prop)
    (kept : ∀ state call, holds state → holds (step state call)) :
    ∀ (calls : List Call) (start : State), holds start → holds (runAll step start calls)
  | [], _, initial => initial
  | call :: rest, start, initial =>
    runAll_invariant holds kept rest (step start call) (kept start call initial)

/-- A property that every allowed step keeps holds after every run of allowed steps. -/
theorem runAll_guarded (holds : State → Prop)
    (kept : ∀ state call, holds state → allowed state call → holds (step state call)) :
    ∀ (calls : List Call) (start : State), holds start → EveryCall step allowed start calls →
      holds (runAll step start calls)
  | [], _, initial, _ => initial
  | call :: rest, start, initial, permitted =>
    runAll_guarded holds kept rest (step start call) (kept start call initial permitted.1)
      permitted.2

/-- What an invariant implies holds throughout a run of allowed steps that keep the
invariant. -/
theorem everyState_of_everyCall (invariant : State → Prop)
    (kept : ∀ state call, invariant state → allowed state call → invariant (step state call))
    (implied : ∀ state, invariant state → holds state) :
    ∀ {calls : List Call} {start : State}, invariant start → EveryCall step allowed start calls →
      EveryState step holds start calls
  | [], start, initial, _ => implied start initial
  | call :: _, start, initial, permitted =>
    ⟨implied start initial, everyState_of_everyCall invariant kept implied
      (kept start call initial permitted.1) permitted.2⟩

/-- A property of the calls made and the state reached that every further call keeps holds after
every run. -/
theorem runAll_recorded {start : State} (holds : List Call → State → Prop)
    (initial : holds [] start)
    (kept : ∀ past call, holds past (runAll step start past) →
      holds (past ++ [call]) (step (runAll step start past) call)) (calls : List Call) :
    holds calls (runAll step start calls) := by
  induction calls using List.reverseRecOn with
  | nil => exact initial
  | append_singleton past call ih =>
    rw [runAll_append]
    exact kept past call ih

/-- The first state of a run has every property that holds throughout it. -/
theorem EveryState.first : ∀ {calls : List Call} {start : State},
    EveryState step holds start calls → holds start
  | [], _, throughout => throughout
  | _ :: _, _, throughout => throughout.1

/-- The last state of a run has every property that holds throughout it. -/
theorem EveryState.last : ∀ {calls : List Call} {start : State},
    EveryState step holds start calls → holds (runAll step start calls)
  | [], _, throughout => throughout
  | _ :: _, _, throughout => throughout.2.last

/-- When the steps keep an invariant, and under it keep a property exactly if they are allowed,
the property holds throughout a run exactly if every call of the run is allowed. -/
theorem everyState_iff_everyCall (invariant : State → Prop)
    (kept : ∀ state call, invariant state → invariant (step state call))
    (exact_step : ∀ state call, invariant state → holds state →
      (holds (step state call) ↔ allowed state call)) :
    ∀ {calls : List Call} {start : State}, invariant start → holds start →
      (EveryState step holds start calls ↔ EveryCall step allowed start calls)
  | [], _, _, initial => ⟨fun _ => trivial, fun _ => initial⟩
  | call :: rest, start, sound, initial => by
    have later (held : holds (step start call)) :
        EveryState step holds (step start call) rest ↔ EveryCall step allowed (step start call) rest :=
      everyState_iff_everyCall invariant kept exact_step (kept start call sound) held
    constructor
    · rintro ⟨_, throughout⟩
      have permitted := (exact_step start call sound initial).mp throughout.first
      exact ⟨permitted, (later throughout.first).mp throughout⟩
    · rintro ⟨permitted, every⟩
      have next := (exact_step start call sound initial).mpr permitted
      exact ⟨initial, (later next).mpr every⟩

/-- The number of calls of a run that have a property at the state they are made in. -/
def callCount (step : State → Call → State) (counts : State → Call → Bool) :
    State → List Call → Nat
  | _, [] => 0
  | state, call :: rest =>
    (if counts state call then 1 else 0) + callCount step counts (step state call) rest

/-- An indexed property whose index a step raises by one for each counted call holds after a
run with the index raised by their number. -/
theorem runAll_counted {counts : State → Call → Bool} (holds : Nat → State → Prop)
    (kept : ∀ index state call, holds index state →
      holds (index + if counts state call then 1 else 0) (step state call)) :
    ∀ (calls : List Call) (start : State) (index : Nat), holds index start →
      holds (index + callCount step counts start calls) (runAll step start calls)
  | [], _, _, initial => initial
  | call :: rest, start, index, initial => by
    have later := runAll_counted holds kept rest (step start call) _
      (kept index start call initial)
    rw [Nat.add_assoc] at later
    exact later

/-- No call is counted exactly when every call lacks the property. -/
theorem callCount_eq_zero {counts : State → Call → Bool} :
    ∀ {calls : List Call} {start : State}, callCount step counts start calls = 0 ↔
      EveryCall step (fun state call => counts state call = false) start calls
  | [], _ => ⟨fun _ => trivial, fun _ => rfl⟩
  | call :: rest, start => by
    rw [callCount, Nat.add_eq_zero_iff, callCount_eq_zero]
    refine and_congr_left fun _ => ?_
    cases counted : counts start call <;> simp [counted]

/-- Two conditions that agree in the states of an invariant, at the calls that meet an
assumption, hold throughout the same runs, where the calls that meet the first keep the
invariant. -/
theorem everyCall_congr_guarded {assumed first second : State → Call → Prop}
    (invariant : State → Prop)
    (kept : ∀ state call, invariant state → assumed state call → first state call →
      invariant (step state call))
    (agree : ∀ state call, invariant state → assumed state call →
      (first state call ↔ second state call)) :
    ∀ {calls : List Call} {start : State}, invariant start → EveryCall step assumed start calls →
      (EveryCall step first start calls ↔ EveryCall step second start calls)
  | [], _, _, _ => Iff.rfl
  | call :: _, start, sound, assumptions => by
    have now := agree start call sound assumptions.1
    have later (meets : first start call) :=
      everyCall_congr_guarded invariant kept agree (kept start call sound assumptions.1 meets)
        assumptions.2
    constructor
    · intro every
      exact ⟨now.mp every.1, (later every.1).mp every.2⟩
    · intro every
      have meets := now.mpr every.1
      exact ⟨meets, (later meets).mpr every.2⟩

/-- Two conditions that agree in the states of an invariant, at the calls that meet an
assumption, hold throughout the same runs. -/
theorem everyCall_congr {assumed first second : State → Call → Prop} (invariant : State → Prop)
    (kept : ∀ state call, invariant state → invariant (step state call))
    (agree : ∀ state call, invariant state → assumed state call →
      (first state call ↔ second state call)) :
    ∀ {calls : List Call} {start : State}, invariant start → EveryCall step assumed start calls →
      (EveryCall step first start calls ↔ EveryCall step second start calls) :=
  everyCall_congr_guarded invariant (fun state call sound _ _ => kept state call sound) agree

/-- A condition on the calls alone that all of them meet holds of every call. -/
theorem everyCall_of_forall {meets : Call → Prop} : ∀ {calls : List Call} (start : State),
    (∀ call ∈ calls, meets call) → EveryCall step (fun _ call => meets call) start calls
  | [], _, _ => trivial
  | call :: _, start, all =>
    ⟨all call List.mem_cons_self, everyCall_of_forall (step start call) fun other member =>
      all other (List.mem_cons_of_mem _ member)⟩

/-- A part of a run is a run from where the part before it ends. -/
theorem EveryCall.drop (rest : List Call) : ∀ (first : List Call) {start : State},
    EveryCall step allowed start (first ++ rest) →
      EveryCall step allowed (runAll step start first) rest
  | [], _, every => every
  | _ :: first, _, every => EveryCall.drop rest first every.2

/-- What every call keeps survives the beginning of a run. -/
theorem EveryCall.survives {Item : Type*} {holds : Item → State → Prop} {item : Item}
    (rest : List Call) : ∀ (first : List Call) {start : State},
      EveryCall step (fun state call => ∀ item, holds item state → holds item (step state call))
        start (first ++ rest) →
      holds item start → holds item (runAll step start first)
  | [], _, _, held => held
  | _ :: first, _, every, held => EveryCall.survives rest first every.2 (every.1 item held)

/-- Every call keeps what holds before it exactly when whatever holds at some point of the run
holds at every later one. -/
theorem everyCall_keeps_iff {Item : Type*} {holds : Item → State → Prop} {calls : List Call}
    {start : State} :
    EveryCall step (fun state call => ∀ item, holds item state → holds item (step state call))
        start calls ↔
      ∀ first middle last, calls = first ++ middle ++ last → ∀ item,
        holds item (runAll step start first) → holds item (runAll step start (first ++ middle)) := by
  constructor
  · intro every first middle last same item held
    rw [same, List.append_assoc] at every
    rw [runAll_append]
    exact (every.drop (middle ++ last) first).survives last middle held
  · intro later
    induction calls generalizing start with
    | nil => trivial
    | cons call rest ih =>
      refine ⟨fun item held => later [] [call] rest rfl item held, ih ?_⟩
      intro first middle last same item held
      exact later (call :: first) middle last (congrArg (call :: ·) same) item held

/-- Two conditions hold together at every call exactly when each does. -/
theorem everyCall_and_iff {other : State → Call → Prop} :
    ∀ {calls : List Call} {start : State},
      EveryCall step (fun state call => allowed state call ∧ other state call) start calls ↔
        EveryCall step allowed start calls ∧ EveryCall step other start calls
  | [], _ => ⟨fun _ => ⟨trivial, trivial⟩, fun _ => trivial⟩
  | call :: _, start => by
    rw [EveryCall, EveryCall, EveryCall, everyCall_and_iff]
    exact and_and_and_comm

/-- Two conditions that hold at every call hold together at every call. -/
theorem EveryCall.and {other : State → Call → Prop} {calls : List Call} {start : State}
    (every : EveryCall step allowed start calls) (everyOther : EveryCall step other start calls) :
    EveryCall step (fun state call => allowed state call ∧ other state call) start calls :=
  everyCall_and_iff.mpr ⟨every, everyOther⟩

/-- Allowed calls that keep an invariant have whatever it implies of them. -/
theorem EveryCall.conclude {concluded : State → Call → Prop} (invariant : State → Prop)
    (kept : ∀ state call, invariant state → allowed state call → invariant (step state call))
    (concludes : ∀ state call, invariant state → allowed state call → concluded state call) :
    ∀ {calls : List Call} {start : State}, invariant start →
      EveryCall step allowed start calls → EveryCall step concluded start calls
  | [], _, _, _ => trivial
  | call :: _, start, sound, every =>
    ⟨concludes start call sound every.1,
      every.2.conclude invariant kept concludes (kept start call sound every.1)⟩

end FlockOs.Lib
