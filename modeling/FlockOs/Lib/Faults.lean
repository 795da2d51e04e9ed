import FlockOs.Lib.Exec

/-!
# Calls that fail by a plan

A computation makes calls to the outside, and a plan says which of them raise instead of
acting. `Triple` says where a computation ends whatever the plan; `Calls` says that it makes a
number of calls and raises exactly when one of them is planned to; `Commits` splits a
computation at the call after which a failure no longer leaves the state as it was.
-/

namespace FlockOs.Lib

/-- A state with the plan of the calls to come: a call raises where the plan has `true`, and
acts past its end. -/
structure Planned (σ : Type) where
  /-- The plan. -/
  faults : List Bool
  /-- The state. -/
  state : σ

/-- One of the next calls is planned to fail. -/
def failsWithin (calls : Nat) (faults : List Bool) : Bool := (faults.take calls).any id

/-- A failure within two stretches of calls is a failure within one of them. -/
theorem failsWithin_add (first second : Nat) (faults : List Bool) :
    failsWithin (first + second) faults =
      (failsWithin first faults || failsWithin second (faults.drop first)) := by
  rw [failsWithin, List.take_add, List.any_append]
  rfl

namespace Exec

variable {ε σ α β : Type}

/-- One call: it takes its turn of the plan, and acts or raises. -/
def attempt (fault : ε) (act : Exec ε σ α) : Exec ε (Planned σ) α := fun start =>
  if failsWithin 1 start.faults then .error fault ⟨start.faults.drop 1, start.state⟩
  else match act start.state with
    | .ok value next => .ok value ⟨start.faults.drop 1, next⟩
    | .error raised next => .error raised ⟨start.faults.drop 1, next⟩

/-- A step that no plan touches. -/
def surely (act : Exec ε σ α) : Exec ε (Planned σ) α := fun start =>
  match act start.state with
  | .ok value next => .ok value ⟨start.faults, next⟩
  | .error raised next => .error raised ⟨start.faults, next⟩

/-- Where nothing is planned to fail a call returns as it acts. -/
theorem attempt_run_ok {fault : ε} {act : Exec ε σ α} {state next : σ} {value : α}
    (acted : act state = .ok value next) :
    attempt fault act ⟨[], state⟩ = .ok value ⟨[], next⟩ := by
  show (match act state with
    | .ok value next => EStateM.Result.ok value (Planned.mk [] next)
    | .error raised next => .error raised (Planned.mk [] next)) = _
  rw [acted]

/-- Where nothing is planned to fail a call raises as it acts. -/
theorem attempt_run_error {fault raised : ε} {act : Exec ε σ α} {state next : σ}
    (acted : act state = .error raised next) :
    attempt fault act ⟨[], state⟩ = .error raised ⟨[], next⟩ := by
  show (match act state with
    | .ok value next => EStateM.Result.ok value (Planned.mk [] next)
    | .error raised next => .error raised (Planned.mk [] next)) = _
  rw [acted]

/-- A step that no plan touches returns as it acts. -/
theorem surely_run_ok {act : Exec ε σ α} {state next : σ} {value : α}
    (acted : act state = .ok value next) (faults : List Bool) :
    surely act ⟨faults, state⟩ = .ok value ⟨faults, next⟩ := by
  simp only [surely, acted]

/-- A step that no plan touches raises as it acts. -/
theorem surely_run_error {act : Exec ε σ α} {state next : σ} {raised : ε}
    (acted : act state = .error raised next) (faults : List Bool) :
    surely act ⟨faults, state⟩ = .error raised ⟨faults, next⟩ := by
  simp only [surely, acted]

/-- A sequence of steps that no plan touches is one. -/
theorem surely_bind (first : Exec ε σ α) (rest : α → Exec ε σ β) :
    surely (first >>= rest) = surely first >>= fun value => surely (rest value) := by
  funext start
  cases outcome : first start.state with
  | ok value next =>
    rw [bind_run_ok (surely_run_ok outcome start.faults), surely, bind_run_ok outcome]
    rfl
  | error raised next =>
    rw [bind_run_error (surely_run_error outcome start.faults), surely, bind_run_error outcome]

/-- A result that needs no state needs no plan. -/
theorem surely_ofExcept (result : Except ε α) :
    surely (ofExcept result : Exec ε σ α) = ofExcept result := by
  cases result <;> rfl

/-- A loop of steps that no plan touches is one. -/
theorem surely_foldlM (turn : β → α → Exec ε σ β) :
    ∀ (items : List α) (value : β),
      surely (items.foldlM turn value) =
        items.foldlM (fun value item => surely (turn value item)) value
  | [], _ => rfl
  | item :: rest, value => by
    rw [List.foldlM_cons, List.foldlM_cons, surely_bind]
    congr
    funext next
    exact surely_foldlM turn rest next

/-- The result is a value and a state that `returned` holds of, or an exception in a state that
`failed` holds of. -/
def EndsWith (failed : σ → Prop) (returned : α → σ → Prop) :
    EStateM.Result ε (Planned σ) α → Prop
  | .ok value last => returned value last.state
  | .error _ last => failed last.state

/-- From a state `before` holds of, the computation returns a value and a state that `returned`
holds of, or raises in a state that `failed` holds of. -/
def Triple (before : σ → Prop) (computation : Exec ε (Planned σ) α) (failed : σ → Prop)
    (returned : α → σ → Prop) : Prop :=
  ∀ start, before start.state → EndsWith failed returned (computation start)

variable {fault : ε} {before failed early late : σ → Prop}

/-- What a computation brings about is weakened, and what it needs strengthened. -/
theorem Triple.imp {before' failed' : σ → Prop} {returned returned' : α → σ → Prop}
    {computation : Exec ε (Planned σ) α} (needs : ∀ state, before' state → before state)
    (triple : Triple before computation failed returned)
    (fails : ∀ state, failed state → failed' state)
    (returns : ∀ value state, returned value state → returned' value state) :
    Triple before' computation failed' returned' := by
  intro start held
  have ended := triple start (needs start.state held)
  cases outcome : computation start with
  | ok value last =>
    rw [outcome] at ended
    exact returns value last.state ended
  | error raised last =>
    rw [outcome] at ended
    exact fails last.state ended

/-- A value ends where it starts. -/
theorem Triple.pure {returned : α → σ → Prop} (value : α)
    (held : ∀ state, before state → returned value state) :
    Triple before (Pure.pure value : Exec ε (Planned σ) α) failed returned :=
  fun start => held start.state

/-- An exception ends where it starts. -/
theorem Triple.throw {returned : α → σ → Prop} (raised : ε)
    (held : ∀ state, before state → failed state) :
    Triple before (MonadExcept.throw raised : Exec ε (Planned σ) α) failed returned :=
  fun start => held start.state

/-- A sequence goes on from where its first part returned. -/
theorem Triple.bind {middle : α → σ → Prop} {returned : β → σ → Prop}
    {first : Exec ε (Planned σ) α} {rest : α → Exec ε (Planned σ) β}
    (reaches : Triple before first failed middle)
    (goesOn : ∀ value, Triple (middle value) (rest value) failed returned) :
    Triple before (first >>= rest) failed returned := by
  intro start held
  have reached := reaches start held
  cases outcome : first start with
  | ok value next =>
    rw [outcome] at reached
    rw [bind_run_ok outcome]
    exact goesOn value next reached
  | error raised next =>
    rw [outcome] at reached
    rw [bind_run_error outcome]
    exact reached

/-- A sequence whose first part returns a known value. -/
theorem Triple.bind_value {result : α} {middle : σ → Prop} {returned : β → σ → Prop}
    {first : Exec ε (Planned σ) α} {rest : α → Exec ε (Planned σ) β}
    (reaches : Triple before first failed fun value state => value = result ∧ middle state)
    (goesOn : Triple middle (rest result) failed returned) :
    Triple before (first >>= rest) failed returned := by
  refine reaches.bind fun value start held => ?_
  rw [held.1]
  exact goesOn start held.2

/-- A call ends where it acts, or where it starts. -/
theorem Triple.attempt {returned : α → σ → Prop} {act : Exec ε σ α}
    (acts : ∀ state, before state → match act state with
      | .ok value next => returned value next
      | .error _ next => failed next)
    (stays : ∀ state, before state → failed state) :
    Triple before (attempt fault act) failed returned := by
  intro start held
  by_cases planned : failsWithin 1 start.faults
  · rw [Exec.attempt, if_pos planned]
    exact stays start.state held
  · have acted := acts start.state held
    rw [Exec.attempt, if_neg planned]
    cases outcome : act start.state with
    | ok value next =>
      rw [outcome] at acted
      exact acted
    | error raised next =>
      rw [outcome] at acted
      exact acted

/-- A step that no plan touches ends where it acts. -/
theorem Triple.surely {returned : α → σ → Prop} {act : Exec ε σ α}
    (acts : ∀ state, before state → match act state with
      | .ok value next => returned value next
      | .error _ next => failed next) :
    Triple before (surely act) failed returned := by
  intro start held
  have acted := acts start.state held
  rw [Exec.surely]
  cases outcome : act start.state with
  | ok value next =>
    rw [outcome] at acted
    exact acted
  | error raised next =>
    rw [outcome] at acted
    exact acted

/-- A loop keeps what each turn keeps. -/
theorem Triple.forM {turn : α → Exec ε (Planned σ) PUnit} {holds : σ → Prop}
    (kept : ∀ item, Triple holds (turn item) holds fun _ => holds) :
    ∀ items : List α, Triple holds (items.forM turn) holds fun _ => holds
  | [] => .pure _ fun _ held => held
  | item :: rest => (kept item).bind fun _ => Triple.forM kept rest

/-- An exception is handled in the state that it left. -/
theorem Triple.tryCatch {caught : σ → Prop} {returned : α → σ → Prop}
    {body : Exec ε (Planned σ) α} {handler : ε → Exec ε (Planned σ) α}
    (runs : Triple before body caught returned)
    (handles : ∀ raised, Triple caught (handler raised) failed returned) :
    Triple before (MonadExcept.tryCatch body handler) failed returned := by
  intro start held
  have ran := runs start held
  cases outcome : body start with
  | ok value next =>
    rw [outcome] at ran
    rw [tryCatch_run_ok outcome]
    exact ran
  | error raised next =>
    rw [outcome] at ran
    rw [tryCatch_run_error outcome]
    exact handles raised next ran

/-- A finalizer runs after a return and after an exception. -/
theorem Triple.tryFinally {raising : σ → Prop} {middle returned : α → σ → Prop}
    {body : Exec ε (Planned σ) α} {finalizer : Exec ε (Planned σ) PUnit}
    (runs : Triple before body raising middle)
    (closes : ∀ value, Triple (middle value) finalizer failed fun _ => returned value)
    (closesRaised : Triple raising finalizer failed fun _ => failed) :
    Triple before (tryFinally body finalizer) failed returned := by
  intro start held
  have ran := runs start held
  cases outcome : body start with
  | ok value next =>
    rw [outcome] at ran
    rw [tryFinally_run_ok outcome]
    have closed := (closes value).bind fun _ => Triple.pure value fun _ reached => reached
    exact closed next ran
  | error raised next =>
    rw [outcome] at ran
    rw [tryFinally_run_error outcome]
    have closed : Triple raising (finalizer >>= fun _ => MonadExcept.throw raised) failed returned :=
      closesRaised.bind fun _ => .throw raised fun _ reached => reached
    exact closed next ran

/-- Where some plan lets the computation return, the other one returns the same without a plan. -/
def CalmedBy (computation calm : Exec ε (Planned σ) α) : Prop :=
  ∀ start value last, computation start = .ok value last →
    calm ⟨[], start.state⟩ = .ok value ⟨[], last.state⟩

/-- A value needs no plan. -/
theorem CalmedBy.pure (value : α) :
    CalmedBy (Pure.pure value : Exec ε (Planned σ) α) (Pure.pure value) := by
  intro start result last returned
  cases returned
  rfl

/-- A call that returns acts as it does without a plan, whatever it would raise. -/
theorem CalmedBy.attempt (other : ε) (act : Exec ε σ α) :
    CalmedBy (attempt fault act) (Exec.attempt other act) := by
  intro start value last returned
  rw [Exec.attempt] at returned
  split at returned
  · cases returned
  · cases outcome : act start.state with
    | error raised next =>
      rw [outcome] at returned
      cases returned
    | ok result next =>
      rw [outcome] at returned
      cases returned
      exact attempt_run_ok outcome

/-- A step that no plan touches needs none. -/
theorem CalmedBy.surely (act : Exec ε σ α) : CalmedBy (surely act) (Exec.surely act) := by
  intro start value last returned
  rw [Exec.surely] at returned ⊢
  cases outcome : act start.state with
  | error raised next =>
    rw [outcome] at returned
    cases returned
  | ok result next =>
    rw [outcome] at returned
    cases returned
    rfl

/-- A sequence is calmed part by part. -/
theorem CalmedBy.bind {first first' : Exec ε (Planned σ) α}
    {rest rest' : α → Exec ε (Planned σ) β} (begins : CalmedBy first first')
    (goesOn : ∀ value, CalmedBy (rest value) (rest' value)) :
    CalmedBy (first >>= rest) (first' >>= rest') := by
  intro start result last returned
  obtain ⟨value, next, ran, later⟩ := bind_ok returned
  rw [bind_run_ok (begins start value next ran)]
  exact goesOn value next result last later

/-- A loop is calmed turn by turn. -/
theorem CalmedBy.forM {turn turn' : α → Exec ε (Planned σ) PUnit}
    (calmed : ∀ item, CalmedBy (turn item) (turn' item)) :
    ∀ items : List α, CalmedBy (items.forM turn) (items.forM turn')
  | [] => .pure _
  | item :: rest => (calmed item).bind fun _ => CalmedBy.forM calmed rest

/-- A body is calmed under a handler that raises again. -/
theorem CalmedBy.tryCatch {body body' : Exec ε (Planned σ) α}
    {handler handler' : ε → Exec ε (Planned σ) α} (calmed : CalmedBy body body')
    (raises : ∀ raised start value last, handler raised start ≠ .ok value last) :
    CalmedBy (MonadExcept.tryCatch body handler) (MonadExcept.tryCatch body' handler') := by
  intro start value last returned
  cases outcome : body start with
  | error raised next =>
    rw [tryCatch_run_error outcome] at returned
    exact absurd returned (raises raised next value last)
  | ok result next =>
    rw [tryCatch_run_ok outcome] at returned
    cases returned
    exact tryCatch_run_ok (calmed start _ _ outcome)

/-- A body is calmed with its finalizer. -/
theorem CalmedBy.tryFinally {body body' : Exec ε (Planned σ) α}
    {finalizer finalizer' : Exec ε (Planned σ) PUnit} (calmed : CalmedBy body body')
    (closes : CalmedBy finalizer finalizer') :
    CalmedBy (tryFinally body finalizer) (tryFinally body' finalizer') := by
  intro start value last returned
  cases outcome : body start with
  | error raised next =>
    rw [tryFinally_run_error outcome] at returned
    obtain ⟨_, _, _, again⟩ := bind_ok returned
    cases again
  | ok result next =>
    rw [tryFinally_run_ok outcome] at returned
    rw [tryFinally_run_ok (calmed start _ _ outcome)]
    exact (closes.bind fun _ => .pure result) next value last returned

/-- A fault planned within the first calls is raised, in a state that `early` holds of. Past them
the result is as `past` says, given what is left of the plan. -/
def Splits (calls : Nat) (fault : ε) (before : σ → Prop) (computation : Exec ε (Planned σ) α)
    (early : σ → Prop) (past : List Bool → EStateM.Result ε (Planned σ) α → Prop) : Prop :=
  ∀ start, before start.state →
    if failsWithin calls start.faults then
      ∃ last, computation start = .error fault last ∧ early last.state
    else past (start.faults.drop calls) (computation start)

/-- The computation makes the calls and returns, or raises the fault when one of them is planned
to fail. -/
abbrev Calls (calls : Nat) (fault : ε) (before : σ → Prop) (computation : Exec ε (Planned σ) α)
    (early : σ → Prop) (returned : α → σ → Prop) : Prop :=
  Splits calls fault before computation early fun faults result =>
    ∃ value state, result = .ok value ⟨faults, state⟩ ∧ returned value state

/-- The last of the calls is the point of no return: past it the computation returns, or raises
`late`. -/
abbrev Commits (calls : Nat) (fault : ε) (before : σ → Prop) (computation : Exec ε (Planned σ) α)
    (early late : σ → Prop) (returned : α → σ → Prop) : Prop :=
  Splits calls fault before computation early fun _ result => EndsWith late returned result

variable {calls more : Nat}

/-- A run with a fault planned within the first calls. -/
theorem Splits.run_early {computation : Exec ε (Planned σ) α}
    {past : List Bool → EStateM.Result ε (Planned σ) α → Prop}
    (splits : Splits calls fault before computation early past) (start : Planned σ) (held : before start.state)
    (planned : failsWithin calls start.faults = true) :
    ∃ last, computation start = .error fault last ∧ early last.state := by
  have ran := splits start held
  rw [if_pos planned] at ran
  exact ran

/-- A run without one. -/
theorem Splits.run_past {computation : Exec ε (Planned σ) α}
    {past : List Bool → EStateM.Result ε (Planned σ) α → Prop}
    (splits : Splits calls fault before computation early past) (start : Planned σ) (held : before start.state)
    (unplanned : ¬failsWithin calls start.faults = true) :
    past (start.faults.drop calls) (computation start) := by
  have ran := splits start held
  rw [if_neg unplanned] at ran
  exact ran

/-- A call that returns when it acts is one call. -/
theorem Calls.attempt {returned : α → σ → Prop} {act : Exec ε σ α}
    (acts : ∀ state, before state → ∃ value next, act state = .ok value next ∧ returned value next)
    (stays : ∀ state, before state → early state) :
    Calls 1 fault before (attempt fault act) early returned := by
  intro start held
  split
  next planned =>
    refine ⟨⟨start.faults.drop 1, start.state⟩, ?_, stays _ held⟩
    rw [Exec.attempt, if_pos planned]
  next unplanned =>
    obtain ⟨value, next, acted, reached⟩ := acts start.state held
    refine ⟨value, next, ?_, reached⟩
    rw [Exec.attempt, if_neg unplanned, acted]

/-- A step that no plan touches makes no call. -/
theorem Calls.surely {returned : α → σ → Prop} {act : Exec ε σ α}
    (acts : ∀ state, before state → ∃ value next, act state = .ok value next ∧ returned value next) :
    Calls 0 fault before (surely act) early returned := by
  intro start held
  obtain ⟨value, next, acted, reached⟩ := acts start.state held
  exact ⟨value, next, surely_run_ok acted start.faults, reached⟩

/-- Nothing is called for a value. -/
theorem Calls.pure {returned : α → σ → Prop} (value : α)
    (held : ∀ state, before state → returned value state) :
    Calls 0 fault before (Pure.pure value : Exec ε (Planned σ) α) early returned :=
  fun start holds => ⟨value, start.state, rfl, held start.state holds⟩

/-- The calls of a sequence are those of its parts. -/
theorem Calls.bind {middle : α → σ → Prop}
    {past : List Bool → EStateM.Result ε (Planned σ) β → Prop}
    {first : Exec ε (Planned σ) α} {rest : α → Exec ε (Planned σ) β}
    (makes : Calls calls fault before first early middle)
    (goesOn : ∀ value, Splits more fault (middle value) (rest value) early past) :
    Splits (calls + more) fault before (first >>= rest) early past := by
  intro start held
  have made := makes start held
  rw [failsWithin_add]
  split at made
  next planned =>
    obtain ⟨last, ran, reached⟩ := made
    rw [planned, Bool.true_or, if_pos rfl]
    exact ⟨last, bind_run_error ran rest, reached⟩
  next unplanned =>
    obtain ⟨value, state, ran, reached⟩ := made
    have next := goesOn value ⟨start.faults.drop calls, state⟩ reached
    rw [List.drop_drop] at next
    rw [(Bool.not_eq_true _).mp unplanned, Bool.false_or, bind_run_ok ran rest]
    exact next

/-- The calls of a sequence whose first part returns a known value. -/
theorem Calls.bind_value {result : α} {middle : σ → Prop}
    {past : List Bool → EStateM.Result ε (Planned σ) β → Prop}
    {first : Exec ε (Planned σ) α} {rest : α → Exec ε (Planned σ) β}
    (makes : Calls calls fault before first early fun value state => value = result ∧ middle state)
    (goesOn : Splits more fault middle (rest result) early past) :
    Splits (calls + more) fault before (first >>= rest) early past := by
  refine makes.bind fun value start held => ?_
  rw [held.1]
  exact goesOn start held.2

/-- The last of a number of calls may be the point of no return. -/
theorem Calls.commits {returned : α → σ → Prop} {computation : Exec ε (Planned σ) α}
    (makes : Calls calls fault before computation early returned) :
    Commits calls fault before computation early late returned := by
  intro start held
  have made := makes start held
  split at made
  next planned =>
    rw [if_pos planned]
    exact made
  next unplanned =>
    obtain ⟨value, state, ran, reached⟩ := made
    rw [if_neg unplanned, ran]
    exact reached

/-- What follows the point of no return ends by returning or late. -/
theorem Commits.bind {middle : α → σ → Prop} {returned : β → σ → Prop}
    {first : Exec ε (Planned σ) α} {rest : α → Exec ε (Planned σ) β}
    (commits : Commits calls fault before first early late middle)
    (goesOn : ∀ value, Triple (middle value) (rest value) late returned) :
    Commits calls fault before (first >>= rest) early late returned := by
  intro start held
  have committed := commits start held
  split at committed
  next planned =>
    obtain ⟨last, ran, reached⟩ := committed
    rw [if_pos planned]
    exact ⟨last, bind_run_error ran rest, reached⟩
  next unplanned =>
    rw [if_neg unplanned]
    cases outcome : first start with
    | ok value next =>
      rw [outcome] at committed
      rw [bind_run_ok outcome]
      exact goesOn value next committed
    | error raised next =>
      rw [outcome] at committed
      rw [bind_run_error outcome]
      exact committed

end Exec

end FlockOs.Lib
