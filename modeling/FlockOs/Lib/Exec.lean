import Mathlib.Logic.Basic

/-!
# Stateful computations that may raise

`Exec ε σ α` reads and writes a state and may raise an exception; what it wrote before it
raised stays written. The rules say how the parts of a computation determine the whole, and
what a computation keeps whether it returns or raises.
-/

namespace FlockOs.Lib

/-- A computation over a state `σ` that may raise an `ε`. -/
abbrev Exec (ε σ α : Type) := EStateM ε σ α

namespace Exec

variable {ε σ α β : Type}

/-- The state in which a computation ends, by returning or by raising. -/
def after (computation : Exec ε σ α) (state : σ) : σ :=
  match computation state with
  | .ok _ next => next
  | .error _ next => next

/-- The computation raises. -/
def raises (computation : Exec ε σ α) (state : σ) : Bool :=
  match computation state with
  | .ok _ _ => false
  | .error _ _ => true

/-- A result that needs no state. -/
def ofExcept : Except ε α → Exec ε σ α
  | .ok value => pure value
  | .error raised => throw raised

@[simp] theorem pure_run (value : α) (state : σ) :
    (pure value : Exec ε σ α) state = .ok value state := rfl

@[simp] theorem throw_run (raised : ε) (state : σ) :
    (throw raised : Exec ε σ α) state = .error raised state := rfl

@[simp] theorem get_run (state : σ) : (get : Exec ε σ σ) state = .ok state state := rfl

@[simp] theorem modify_run (change : σ → σ) (state : σ) :
    (modify change : Exec ε σ PUnit) state = .ok ⟨⟩ (change state) := rfl

/-- A computation goes on where its first part returned. -/
theorem bind_run_ok {first : Exec ε σ α} {state next : σ} {value : α}
    (returned : first state = .ok value next) (rest : α → Exec ε σ β) :
    (first >>= rest) state = rest value next := by
  show EStateM.bind first rest state = _
  simp only [EStateM.bind, returned]

/-- A computation raises when its first part does. -/
theorem bind_run_error {first : Exec ε σ α} {state next : σ} {raised : ε}
    (failed : first state = .error raised next) (rest : α → Exec ε σ β) :
    (first >>= rest) state = .error raised next := by
  show EStateM.bind first rest state = _
  simp only [EStateM.bind, failed]

/-- A result that a computation returns is changed. -/
theorem map_run_ok {computation : Exec ε σ α} {state next : σ} {value : α} (change : α → β)
    (returned : computation state = .ok value next) :
    (change <$> computation) state = .ok (change value) next := by
  show EStateM.map change computation state = _
  simp only [EStateM.map, returned]

/-- There is no result to change in a computation that raises. -/
theorem map_run_error {computation : Exec ε σ α} {state next : σ} {raised : ε} (change : α → β)
    (failed : computation state = .error raised next) :
    (change <$> computation) state = .error raised next := by
  show EStateM.map change computation state = _
  simp only [EStateM.map, failed]

/-- The result of a sequence is changed where its first part returned. -/
theorem map_bind_run_ok {γ : Type} {first : Exec ε σ α} {state next : σ} {value : α}
    (change : β → γ) (returned : first state = .ok value next) (rest : α → Exec ε σ β) :
    (change <$> (first >>= rest)) state = (change <$> rest value) next := by
  show EStateM.map change (EStateM.bind first rest) state = EStateM.map change (rest value) next
  simp only [EStateM.map, EStateM.bind, returned]

/-- A computation that returns needs no handler. -/
theorem tryCatch_run_ok {body : Exec ε σ α} {handler : ε → Exec ε σ α} {state next : σ}
    {value : α} (returned : body state = .ok value next) :
    tryCatch body handler state = .ok value next := by
  show EStateM.tryCatch body handler state = _
  delta EStateM.tryCatch
  simp only [returned]

/-- An exception is handled in the state that it left. -/
theorem tryCatch_run_error {body : Exec ε σ α} {handler : ε → Exec ε σ α} {state next : σ}
    {raised : ε} (failed : body state = .error raised next) :
    tryCatch body handler state = handler raised next := by
  show EStateM.tryCatch body handler state = _
  delta EStateM.tryCatch
  simp only [failed]
  rfl

/-- The finalizer runs after a return. -/
theorem tryFinally_run_ok {body : Exec ε σ α} {finalizer : Exec ε σ PUnit} {state next : σ}
    {value : α} (returned : body state = .ok value next) :
    tryFinally body finalizer state = (finalizer >>= fun _ => pure value) next := by
  show EStateM.map Prod.fst (fun state => tryFinally' body (fun _ => finalizer) state) state =
    EStateM.bind finalizer (fun _ => EStateM.pure value) next
  simp only [EStateM.map, EStateM.bind, tryFinally', returned]
  cases finalizer next <;> rfl

/-- The finalizer runs after an exception, which goes on unless the finalizer raises. -/
theorem tryFinally_run_error {body : Exec ε σ α} {finalizer : Exec ε σ PUnit} {state next : σ}
    {raised : ε} (failed : body state = .error raised next) :
    tryFinally body finalizer state = (finalizer >>= fun _ => throw raised) next := by
  show EStateM.map Prod.fst (fun state => tryFinally' body (fun _ => finalizer) state) state =
    EStateM.bind finalizer (fun _ => EStateM.throw raised) next
  simp only [EStateM.map, EStateM.bind, tryFinally', failed]
  cases finalizer next <;> rfl

/-- A loop whose turns all return, on the states of a kind, folds their effects over what the
states are of. -/
theorem forM_run_on {τ : Type} (embed : τ → σ) (turn : α → Exec ε σ PUnit) (effect : τ → α → τ)
    (returns : ∀ item state, turn item (embed state) = .ok ⟨⟩ (embed (effect state item))) :
    ∀ (items : List α) (state : τ),
      items.forM turn (embed state) = .ok ⟨⟩ (embed (items.foldl effect state))
  | [], _ => rfl
  | item :: rest, state => by
    show (turn item >>= fun _ => rest.forM turn) (embed state) = _
    rw [bind_run_ok (returns item state), forM_run_on embed turn effect returns rest]
    rfl

/-- A loop whose turns all return folds their effects over the state. -/
theorem forM_run (turn : α → Exec ε σ PUnit) (effect : σ → α → σ)
    (returns : ∀ item state, turn item state = .ok ⟨⟩ (effect state item)) (items : List α)
    (state : σ) : items.forM turn state = .ok ⟨⟩ (items.foldl effect state) :=
  forM_run_on id turn effect returns items state

/-- A computation that returns has a first part that returns. -/
theorem bind_ok {first : Exec ε σ α} {rest : α → Exec ε σ β} {state last : σ} {result : β}
    (returned : (first >>= rest) state = .ok result last) :
    ∃ value next, first state = .ok value next ∧ rest value next = .ok result last := by
  cases outcome : first state with
  | ok value next =>
    rw [bind_run_ok outcome] at returned
    exact ⟨value, next, rfl, returned⟩
  | error raised next =>
    rw [bind_run_error outcome] at returned
    cases returned

/-- A computation whose result is dropped raises as it did. -/
theorem raises_bind_pure (computation : Exec ε σ α) (result : α → β) (state : σ) :
    (computation >>= fun value => pure (result value)).raises state =
      computation.raises state := by
  rw [raises, raises]
  cases outcome : computation state with
  | ok value next =>
    rw [bind_run_ok outcome]
    rfl
  | error raised next => rw [bind_run_error outcome]

/-- The property, held before, holds after, whether the computation returns or raises. -/
def Keeps (holds : σ → Prop) (computation : Exec ε σ α) : Prop :=
  ∀ state, holds state → holds (computation.after state)

variable {holds : σ → Prop}

/-- A computation that leaves the state alone keeps everything. -/
theorem Keeps.of_unchanged {computation : Exec ε σ α}
    (unchanged : ∀ state, computation.after state = state) : Keeps holds computation := by
  intro state held
  rw [unchanged]
  exact held

/-- A sequence ends where its second part does, when the first returns. -/
theorem after_bind_ok {first : Exec ε σ α} {state next : σ} {value : α}
    (returned : first state = .ok value next) (rest : α → Exec ε σ β) :
    (first >>= rest).after state = (rest value).after next := by
  rw [after, bind_run_ok returned]
  rfl

/-- A sequence ends where its first part raises. -/
theorem after_bind_error {first : Exec ε σ α} {state next : σ} {raised : ε}
    (failed : first state = .error raised next) (rest : α → Exec ε σ β) :
    (first >>= rest).after state = next := by
  rw [after, bind_run_error failed]

/-- A computation whose result is dropped ends where it did. -/
theorem after_bind_pure (computation : Exec ε σ α) (result : α → β) (state : σ) :
    (computation >>= fun value => pure (result value)).after state = computation.after state := by
  cases outcome : computation state with
  | ok value next =>
    rw [after_bind_ok outcome, after, after, outcome]
    rfl
  | error raised next => rw [after_bind_error outcome, after, outcome]

/-- A computation that returns ends there, handler or not. -/
theorem after_tryCatch_ok {body : Exec ε σ α} {state next : σ} {value : α}
    (returned : body state = .ok value next) (handler : ε → Exec ε σ α) :
    Exec.after (tryCatch body handler) state = next := by
  rw [after, tryCatch_run_ok returned]

/-- A computation that raises ends where its handler does. -/
theorem after_tryCatch_error {body : Exec ε σ α} {state next : σ} {raised : ε}
    (failed : body state = .error raised next) (handler : ε → Exec ε σ α) :
    Exec.after (tryCatch body handler) state = (handler raised).after next := by
  rw [after, tryCatch_run_error failed]
  rfl

/-- What the first part of a sequence reaches and the rest keeps holds at the end. -/
theorem after_bind (holds : σ → Prop) {first : Exec ε σ α} {rest : α → Exec ε σ β} {state : σ}
    (reached : holds (first.after state)) (kept : ∀ value, Keeps holds (rest value)) :
    holds ((first >>= rest).after state) := by
  rw [after] at reached
  cases outcome : first state with
  | ok value next =>
    rw [outcome] at reached
    rw [after_bind_ok outcome]
    exact kept value next reached
  | error raised next =>
    rw [outcome] at reached
    rw [after_bind_error outcome]
    exact reached

/-- A sequence keeps what its parts keep. -/
theorem Keeps.bind {first : Exec ε σ α} {rest : α → Exec ε σ β} (keepsFirst : Keeps holds first)
    (keepsRest : ∀ value, Keeps holds (rest value)) : Keeps holds (first >>= rest) :=
  fun state held => after_bind holds (keepsFirst state held) keepsRest

/-- A choice keeps what both branches keep. -/
theorem Keeps.ite {condition : Prop} [Decidable condition] {first second : Exec ε σ α}
    (keepsFirst : Keeps holds first) (keepsSecond : Keeps holds second) :
    Keeps holds (if condition then first else second) := by
  split
  · exact keepsFirst
  · exact keepsSecond

/-- A value keeps everything. -/
theorem Keeps.pure (value : α) : Keeps holds (Pure.pure value : Exec ε σ α) :=
  of_unchanged fun _ => rfl

/-- An exception keeps everything. -/
theorem Keeps.throw (raised : ε) : Keeps holds (MonadExcept.throw raised : Exec ε σ α) :=
  of_unchanged fun _ => rfl

/-- A result that needs no state keeps everything. -/
theorem Keeps.ofExcept (result : Except ε α) : Keeps holds (ofExcept result : Exec ε σ α) := by
  cases result with
  | ok value => exact .pure value
  | error raised => exact .throw raised

/-- A handled computation keeps what the body and the handler keep. -/
theorem Keeps.tryCatch {body : Exec ε σ α} {handler : ε → Exec ε σ α}
    (keepsBody : Keeps holds body) (keepsHandler : ∀ raised, Keeps holds (handler raised)) :
    Keeps holds (MonadExcept.tryCatch body handler) := by
  intro state held
  have reached := keepsBody state held
  rw [after] at reached ⊢
  cases outcome : body state with
  | ok value next =>
    rw [outcome] at reached
    rw [tryCatch_run_ok outcome]
    exact reached
  | error raised next =>
    rw [outcome] at reached
    rw [tryCatch_run_error outcome]
    exact keepsHandler raised next reached

/-- A computation repeated for each item keeps what each of them keeps. -/
theorem Keeps.mapM {turn : α → Exec ε σ β} (keeps : ∀ item, Keeps holds (turn item)) :
    ∀ items : List α, Keeps holds (items.mapM turn)
  | [] => .pure []
  | item :: rest => by
    rw [List.mapM_cons]
    exact (keeps item).bind fun _ => (Keeps.mapM keeps rest).bind fun _ => .pure _

/-- A change of the state keeps what it keeps in each state. -/
theorem Keeps.modify {change : σ → σ} (kept : ∀ state, holds state → holds (change state)) :
    Keeps holds (modify change : Exec ε σ PUnit) :=
  kept

end Exec

variable {ε α β : Type} {holds : α → Prop} {later : β → Prop}

/-- A sequence returns where its first part does and the rest goes on to return. -/
theorem bind_eq_ok_iff {first : Except ε α} {rest : α → Except ε β} {result : β} :
    (first >>= rest) = .ok result ↔ ∃ value, first = .ok value ∧ rest value = .ok result := by
  constructor
  · intro returned
    cases first with
    | error raised => cases returned
    | ok value => exact ⟨value, rfl, returned⟩
  · intro ⟨value, same, returned⟩
    rw [same]
    exact returned

/-- Whatever a computation returns has a property. -/
def Yields (holds : α → Prop) (computation : Except ε α) : Prop :=
  ∀ value, computation = .ok value → holds value

theorem Yields.ok {value : α} (held : holds value) : Yields holds (.ok value : Except ε α) := by
  intro returned same
  cases same
  exact held

theorem Yields.error (raised : ε) : Yields holds (.error raised) := by
  intro returned same
  cases same

/-- What the first part yields is what the rest goes on with. -/
theorem Yields.bind {first : Except ε α} {rest : α → Except ε β} (yields : Yields holds first)
    (goesOn : ∀ value, holds value → Yields later (rest value)) : Yields later (first >>= rest) := by
  intro returned same
  cases outcome : first with
  | error raised =>
    rw [outcome] at same
    cases same
  | ok value =>
    rw [outcome] at same
    exact goesOn value (yields value outcome) returned same

/-- A computation for each item yields only what it yields for one. -/
theorem Yields.mapM {turn : β → Except ε α} (yields : ∀ item, Yields holds (turn item)) :
    ∀ items : List β, Yields (fun values => ∀ value ∈ values, holds value) (items.mapM turn)
  | [] => .ok fun _ there => nomatch there
  | item :: rest => by
    rw [List.mapM_cons]
    refine (yields item).bind fun first held => (Yields.mapM yields rest).bind fun others all => ?_
    exact .ok (List.forall_mem_cons.mpr ⟨held, all⟩)

/-- The values of some items can be had when the value of each can. -/
theorem exists_mapM_ok_iff {turn : β → Except ε α} : ∀ {items : List β},
    (∃ values, items.mapM turn = .ok values) ↔ ∀ item ∈ items, ∃ value, turn item = .ok value
  | [] => iff_of_true ⟨[], rfl⟩ nofun
  | item :: rest => by
    rw [List.mapM_cons, List.forall_mem_cons, ← exists_mapM_ok_iff]
    constructor
    · rintro ⟨values, had⟩
      obtain ⟨value, first, others⟩ := bind_eq_ok_iff.mp had
      obtain ⟨more, later, _⟩ := bind_eq_ok_iff.mp others
      exact ⟨⟨value, first⟩, more, later⟩
    · rintro ⟨⟨value, first⟩, more, later⟩
      exact ⟨value :: more, bind_eq_ok_iff.mpr ⟨value, first, bind_eq_ok_iff.mpr ⟨more, later, rfl⟩⟩⟩

/-- A computation for each item whose values are changed. -/
theorem mapM_map_values {γ : Type} (change : α → γ) (turn : β → Except ε α) :
    ∀ items : List β,
      items.mapM (fun item => change <$> turn item) = List.map change <$> items.mapM turn
  | [] => rfl
  | item :: items => by
    rw [List.mapM_cons, List.mapM_cons, mapM_map_values change turn items]
    cases turn item with
    | error raised => rfl
    | ok value =>
      cases items.mapM turn with
      | error raised => rfl
      | ok values => rfl

end FlockOs.Lib
