import FlockOs.EventBus

/-!
# Where an event reaches the outbox

An emit hands the event to its subscribers, one after the other, and then to the sink. What a
subscriber or a filter raises ends the emit before the sink is reached, and what
`publish_realtime` raises ends the sink before the outbox is. Otherwise the emit returns, and has
made one attempt to insert one row.
-/

namespace FlockOs.EventBus

open Lib

variable {Value World Raised : Type}

/-- Whether a subscriber is called, and the world after its filter; a filter that raises calls no
one. -/
def asked (event : DomainEvent Value) (sub : Subscription Value World Raised) (world : World) :
    Bool × World :=
  match sub.filterFn with
  | none => (true, world)
  | some filterFn =>
    match filterFn event world with
    | .ok passes next => (passes, next)
    | .error _ next => (false, next)

/-- The world after a subscriber, whether it raises or not. -/
def dispatched (event : DomainEvent Value) (sub : Subscription Value World Raised)
    (world : World) : World :=
  if (asked event sub world).1 then (sub.handler event).after (asked event sub world).2
  else (asked event sub world).2

/-- The world after some subscribers. -/
def served (event : DomainEvent Value) (subs : List (Subscription Value World Raised))
    (world : World) : World :=
  subs.foldl (fun world sub => dispatched event sub world) world

/-- The places of the subscribers that match the event, from a place on. -/
def matching (event : DomainEvent Value) :
    List (Subscription Value World Raised) → Nat → World → List Nat
  | [], _, _ => []
  | sub :: rest, place, world =>
    (if (asked event sub world).1 then [place] else []) ++
      matching event rest (place + 1) (dispatched event sub world)

/-- Neither the filter of a subscriber raises nor, where it matches, its handler. -/
def Calm (event : DomainEvent Value) (sub : Subscription Value World Raised) (world : World) :
    Prop :=
  (∀ filterFn ∈ sub.filterFn, (filterFn event).raises world = false) ∧
    ((asked event sub world).1 = true →
      (sub.handler event).raises (asked event sub world).2 = false)

/-- No filter and no matching subscriber raises. -/
def Quiet (event : DomainEvent Value) : List (Subscription Value World Raised) → World → Prop
  | [], _ => True
  | sub :: rest, world => Calm event sub world ∧ Quiet event rest (dispatched event sub world)

/-- The subscribers called. -/
def handled (acts : List (Act Value)) : List Nat :=
  acts.filterMap fun
    | .handler place => some place
    | _ => none

/-- The rows that were to be inserted. -/
def inserted (acts : List (Act Value)) : List OutboxRow :=
  acts.filterMap fun
    | .insert row => some row
    | _ => none

/-- Exactly one row was to be inserted, and it holds the event. -/
def Appended (frappe : Frappe Value World Raised) (event : DomainEvent Value)
    (acts : List (Act Value)) : Prop :=
  ∃ row, inserted acts = [row] ∧ row.event = event.name ∧
    frappe.str event.payload = .ok row.payload ∧ frappe.str event.scope = .ok row.scope

/-- An emit is durable: it returns the event, has called every matching subscriber once and in
order, and has inserted exactly one row, which holds the event, unless the insert itself failed. -/
structure Durable (frappe : Frappe Value World Raised)
    (subs : List (Subscription Value World Raised)) (event : DomainEvent Value) (world : World)
    (emit : Emitting Value World Raised (DomainEvent Value)) : Prop where
  /-- It does not raise. -/
  returned : ∃ after, emit ⟨world, []⟩ = .ok event after
  /-- Every matching subscriber is called. -/
  called : handled (emit.after ⟨world, []⟩).acts = matching event subs 0 world
  /-- One row is appended. -/
  appended : Appended frappe event (emit.after ⟨world, []⟩).acts

/-- The subscribers called are those of the loop. -/
theorem handled_append (places : List Nat) (more : List (Act Value)) :
    handled (places.map .handler ++ more) = places ++ handled more := by
  rw [handled, List.filterMap_append, List.filterMap_map]
  exact congrArg (· ++ _) List.filterMap_some

/-- No subscriber inserts. -/
theorem inserted_append (places : List Nat) (more : List (Act Value)) :
    inserted (places.map .handler ++ more) = inserted more := by
  rw [inserted, List.filterMap_append, List.filterMap_map]
  exact congrArg (· ++ _) (List.filterMap_eq_nil_iff.mpr fun _ _ => rfl)

/-- A call that returns. -/
theorem outside_ok {α : Type} {call : Exec Raised World α} {world next : World} {result : α}
    (returned : call world = .ok result next) (acts : List (Act Value)) :
    outside call ⟨world, acts⟩ = .ok result ⟨next, acts⟩ := by
  rw [outside, returned]

/-- A call that raises. -/
theorem outside_error {α : Type} {call : Exec Raised World α} {world next : World}
    {raised : Raised} (failed : call world = .error raised next) (acts : List (Act Value)) :
    outside call ⟨world, acts⟩ = .error raised ⟨next, acts⟩ := by
  rw [outside, failed]

/-- A call that does not raise returns. -/
theorem returns_of_raises {α : Type} {call : Exec Raised World α} {world : World}
    (calm : call.raises world = false) : ∃ result, call world = .ok result (call.after world) := by
  rw [Exec.raises] at calm
  rw [Exec.after]
  cases ends : call world with
  | ok result next => exact ⟨result, rfl⟩
  | error raised next =>
    rw [ends] at calm
    cases calm

/-- A call that raises. -/
theorem fails_of_raises {α : Type} {call : Exec Raised World α} {world : World}
    (loud : ¬call.raises world = false) : ∃ raised, call world = .error raised (call.after world) := by
  rw [Exec.raises] at loud
  rw [Exec.after]
  cases ends : call world with
  | ok result next =>
    rw [ends] at loud
    exact absurd rfl loud
  | error raised next => exact ⟨raised, rfl⟩

section Subscribers

variable {event : DomainEvent Value} {sub : Subscription Value World Raised} {world : World}

/-- A filter that does not raise is asked. -/
theorem passes_calm (calm : ∀ filterFn ∈ sub.filterFn, (filterFn event).raises world = false)
    (acts : List (Act Value)) : passes event sub ⟨world, acts⟩ =
      .ok (asked event sub world).1 ⟨(asked event sub world).2, acts⟩ := by
  rw [passes, asked]
  cases kind : sub.filterFn with
  | none => rfl
  | some filterFn =>
    obtain ⟨result, returned⟩ := returns_of_raises (calm filterFn kind)
    dsimp only
    rw [outside_ok returned, returned]

/-- A filter that raises ends the turn. -/
theorem passes_loud (loud : ¬∀ filterFn ∈ sub.filterFn, (filterFn event).raises world = false)
    (acts : List (Act Value)) :
    ∃ raised after, passes event sub ⟨world, acts⟩ = .error raised after := by
  rw [passes]
  cases kind : sub.filterFn with
  | none =>
    rw [kind] at loud
    exact absurd nofun loud
  | some filterFn =>
    have raises : ¬(filterFn event).raises world = false := by
      intro calm
      refine loud fun other same => ?_
      rw [kind] at same
      rw [← Option.some.inj same]
      exact calm
    obtain ⟨raised, failed⟩ := fails_of_raises raises
    exact ⟨raised, _, outside_error failed acts⟩

/-- A calm subscriber is called where it matches. -/
theorem dispatch_calm (calm : Calm event sub world) (place : Nat) (acts : List (Act Value)) :
    dispatch event sub place ⟨world, acts⟩ = .ok () ⟨dispatched event sub world,
      acts ++ if (asked event sub world).1 then [.handler place] else []⟩ := by
  rw [dispatch, Exec.bind_run_ok (passes_calm calm.1 acts), dispatched]
  cases matched : (asked event sub world).1 with
  | false =>
    rw [if_neg Bool.false_ne_true, if_neg Bool.false_ne_true, if_neg Bool.false_ne_true,
      List.append_nil]
    rfl
  | true =>
    obtain ⟨_, returned⟩ := returns_of_raises (calm.2 matched)
    rw [if_pos rfl, if_pos rfl, if_pos rfl]
    exact outside_ok returned _

/-- A subscriber that is not calm ends the loop. -/
theorem dispatch_loud (loud : ¬Calm event sub world) (place : Nat) (acts : List (Act Value)) :
    ∃ raised after, dispatch event sub place ⟨world, acts⟩ = .error raised after := by
  rw [dispatch]
  by_cases filtered : ∀ filterFn ∈ sub.filterFn, (filterFn event).raises world = false
  · rw [Exec.bind_run_ok (passes_calm filtered acts)]
    have raises : ¬((asked event sub world).1 = true →
        (sub.handler event).raises (asked event sub world).2 = false) :=
      fun calm => loud ⟨filtered, calm⟩
    obtain ⟨matched, handler⟩ := Classical.not_imp.mp raises
    obtain ⟨raised, failed⟩ := fails_of_raises handler
    rw [if_pos matched]
    exact ⟨raised, _, outside_error failed _⟩
  · obtain ⟨raised, after, failed⟩ := passes_loud filtered acts
    exact ⟨raised, after, Exec.bind_run_error failed _⟩

variable {subs : List (Subscription Value World Raised)}

/-- The loop is its first turn and the others. -/
theorem dispatchAll_cons (event : DomainEvent Value) (sub : Subscription Value World Raised)
    (rest : List (Subscription Value World Raised)) (place : Nat) :
    dispatchAll event (sub :: rest) place =
      (dispatch event sub place >>= fun _ => dispatchAll event rest (place + 1)) := rfl

/-- Quiet subscribers are all served. -/
theorem dispatchAll_quiet (quiet : Quiet event subs world) (place : Nat)
    (acts : List (Act Value)) :
    dispatchAll event subs place ⟨world, acts⟩ = .ok () ⟨served event subs world,
      acts ++ (matching event subs place world).map .handler⟩ := by
  induction subs generalizing place world acts with
  | nil =>
    rw [matching, List.map_nil, List.append_nil]
    rfl
  | cons sub rest ih =>
    obtain ⟨calm, later⟩ := quiet
    rw [dispatchAll_cons, Exec.bind_run_ok (dispatch_calm calm place acts), ih later, matching,
      List.map_append, List.append_assoc]
    cases (asked event sub world).1 <;> rfl

/-- Where a subscriber raises the loop does. -/
theorem dispatchAll_loud (loud : ¬Quiet event subs world) (place : Nat)
    (acts : List (Act Value)) :
    ∃ raised after, dispatchAll event subs place ⟨world, acts⟩ = .error raised after := by
  induction subs generalizing place world acts with
  | nil => exact absurd trivial loud
  | cons sub rest ih =>
    rw [dispatchAll_cons]
    by_cases calm : Calm event sub world
    · rw [Exec.bind_run_ok (dispatch_calm calm place acts)]
      exact ih (fun later => loud ⟨calm, later⟩) _ _
    · obtain ⟨raised, after, failed⟩ := dispatch_loud calm place acts
      exact ⟨raised, after, Exec.bind_run_error failed _⟩

end Subscribers

section Sink

variable {frappe : Frappe Value World Raised} {event : DomainEvent Value} {world : World}

/-- The texts of an event can be taken. -/
def Textual (frappe : Frappe Value World Raised) (event : DomainEvent Value) : Prop :=
  (∃ payload, frappe.str event.payload = .ok payload) ∧
    ∃ scope, frappe.str event.scope = .ok scope

/-- A call outside does nothing here. -/
theorem outside_acts {α : Type} (call : Exec Raised World α) (emission : Emission Value World) :
    ((outside call).after emission).acts = emission.acts := by
  rw [Exec.after, outside]
  cases call emission.world <;> rfl

variable (frappe event) in
/-- A failure is logged. -/
theorem logFailed_acts (emission : Emission Value World) :
    ((logFailed frappe event).after emission).acts =
      emission.acts ++ [.log (appendFailedLine event)] :=
  outside_acts (frappe.logError (appendFailedLine event))
    { emission with acts := emission.acts ++ [.log (appendFailedLine event)] }

/-- Where the texts can be taken one insert is attempted. -/
theorem appendOutbox_textual {payload scope : String}
    (payloadText : frappe.str event.payload = .ok payload)
    (scopeText : frappe.str event.scope = .ok scope) (emission : Emission Value World) :
    ∃ more, ((appendOutbox frappe event).after emission).acts =
        emission.acts ++ .insert ⟨event.name, payload, scope⟩ :: more ∧
      handled more = [] ∧ inserted more = [] := by
  have row : insertRow frappe event emission =
      outside (frappe.dbInsert ⟨event.name, payload, scope⟩)
        { emission with acts := emission.acts ++ [.insert ⟨event.name, payload, scope⟩] } := by
    rw [insertRow, payloadText, scopeText]
    rfl
  rw [appendOutbox]
  cases insert : frappe.dbInsert ⟨event.name, payload, scope⟩ emission.world with
  | ok _ next =>
    have returned := row.trans (outside_ok insert _)
    rw [Exec.after_tryCatch_ok returned]
    exact ⟨[], rfl, rfl, rfl⟩
  | error raised next =>
    have failed := row.trans (outside_error insert _)
    rw [Exec.after_tryCatch_error failed, logFailed_acts]
    exact ⟨[.log (appendFailedLine event)], List.append_assoc .., rfl, rfl⟩

/-- Where a text cannot be taken nothing is inserted. -/
theorem appendOutbox_untextual (untextual : ¬Textual frappe event)
    (emission : Emission Value World) :
    ((appendOutbox frappe event).after emission).acts =
      emission.acts ++ [.log (appendFailedLine event)] := by
  have failed : ∃ raised, insertRow frappe event emission = .error raised emission := by
    cases payloadText : frappe.str event.payload with
    | error raised => exact ⟨raised, by rw [insertRow, payloadText]; rfl⟩
    | ok payload =>
      cases scopeText : frappe.str event.scope with
      | error raised => exact ⟨raised, by rw [insertRow, payloadText, scopeText]; rfl⟩
      | ok scope => exact absurd ⟨⟨payload, payloadText⟩, scope, scopeText⟩ untextual
  obtain ⟨raised, failed⟩ := failed
  rw [appendOutbox, Exec.after_tryCatch_error failed, logFailed_acts]

/-- After the subscribers and what inserts nothing, the outbox is appended to exactly when the
texts can be taken. -/
theorem appendOutbox_appended_iff {places : List Nat} {before : List (Act Value)}
    (unhandled : handled before = []) (uninserted : inserted before = []) :
    (handled ((appendOutbox frappe event).after ⟨world, places.map .handler ++ before⟩).acts =
        places ∧
      Appended frappe event
        ((appendOutbox frappe event).after ⟨world, places.map .handler ++ before⟩).acts) ↔
      Textual frappe event := by
  by_cases textual : Textual frappe event
  · have ⟨⟨payload, payloadText⟩, scope, scopeText⟩ := textual
    obtain ⟨more, acts, unhandledMore, uninsertedMore⟩ := appendOutbox_textual payloadText scopeText
      ⟨world, places.map .handler ++ before⟩
    refine iff_of_true ?_ textual
    rw [acts, List.append_assoc]
    constructor
    · rw [handled_append, handled, List.filterMap_append, ← handled, unhandled]
      show places ++ handled more = places
      rw [unhandledMore, List.append_nil]
    · refine ⟨⟨event.name, payload, scope⟩, ?_, rfl, payloadText, scopeText⟩
      rw [inserted_append, inserted, List.filterMap_append, ← inserted, uninserted]
      show _ :: inserted more = _
      rw [uninsertedMore]
  · refine iff_of_false ?_ textual
    rintro ⟨_, row, one, _⟩
    rw [appendOutbox_untextual textual, List.append_assoc, inserted_append, inserted,
      List.filterMap_append, ← inserted, uninserted] at one
    cases one

/-- The outbox is reached: there is no push in real time, or it does not raise. -/
def Reached (frappe : Frappe Value World Raised) (event : DomainEvent Value) (realtime : Bool)
    (room : Option String) (world : World) : Prop :=
  realtime = true → (frappe.publishRealtime event room).raises world = false

/-- The sink gets to the outbox where nothing is pushed. -/
theorem publish_silent (room : Option String) (emission : Emission Value World) :
    (publish frappe event false room).after emission =
      (appendOutbox frappe event).after emission := rfl

/-- The sink gets to the outbox where the push does not raise. -/
theorem publish_reached {room : Option String} {emission : Emission Value World}
    (calm : (frappe.publishRealtime event room).raises emission.world = false) :
    (publish frappe event true room).after emission = (appendOutbox frappe event).after
      ⟨(frappe.publishRealtime event room).after emission.world,
        emission.acts ++ [.realtime event room]⟩ := by
  obtain ⟨_, returned⟩ := returns_of_raises calm
  exact Exec.after_bind_ok (outside_ok returned (emission.acts ++ [.realtime event room])) _

/-- The sink does not get to the outbox where the push raises. -/
theorem publish_unreached {room : Option String} {emission : Emission Value World}
    (loud : ¬(frappe.publishRealtime event room).raises emission.world = false) :
    ((publish frappe event true room).after emission).acts =
      emission.acts ++ [.realtime event room] := by
  obtain ⟨_, failed⟩ := fails_of_raises loud
  exact congrArg Emission.acts
    (Exec.after_bind_error (outside_error failed (emission.acts ++ [.realtime event room])) _)

/-- After the subscribers, the sink appends to the outbox exactly when it reaches it and the texts
can be taken. -/
theorem publish_appended_iff (realtime : Bool) (room : Option String) (places : List Nat) :
    (handled ((publish frappe event realtime room).after ⟨world, places.map .handler⟩).acts =
        places ∧
      Appended frappe event
        ((publish frappe event realtime room).after ⟨world, places.map .handler⟩).acts) ↔
      Reached frappe event realtime room world ∧ Textual frappe event := by
  cases realtime with
  | false =>
    have silent : Reached frappe event false room world := nofun
    rw [publish_silent, and_iff_right silent, ← List.append_nil (places.map Act.handler)]
    exact appendOutbox_appended_iff rfl rfl
  | true =>
    by_cases calm : (frappe.publishRealtime event room).raises world = false
    · have reached : Reached frappe event true room world := fun _ => calm
      rw [publish_reached calm, and_iff_right reached]
      exact appendOutbox_appended_iff rfl rfl
    · refine iff_of_false ?_ fun both => calm (both.1 rfl)
      rintro ⟨_, row, one, _⟩
      rw [publish_unreached calm, inserted_append] at one
      cases one

end Sink

section Emit

variable {frappe : Frappe Value World Raised} {bus : Bus Value World Raised} {name : String}
  {payload scope : Option (List (String × Value))} {realtime : Bool} {room : Option String}
  {world : World}

/-- What a sink raises is dropped. -/
theorem sink_dropped (sink : Emitting Value World Raised Unit) (emission : Emission Value World) :
    tryCatch sink (fun _ => pure ()) emission = .ok () (sink.after emission) := by
  rw [Exec.after]
  cases ends : sink emission with
  | ok _ next => exact Exec.tryCatch_run_ok ends
  | error raised next => exact Exec.tryCatch_run_error ends

variable (bus realtime room) in
/-- An emit to quiet subscribers returns, and leaves what the sink does. -/
theorem emit_quiet (quiet : Quiet (domainEvent name payload scope) (bus.subs name) world) :
    bus.emit name payload scope realtime room ⟨world, []⟩ =
      .ok (domainEvent name payload scope)
        ((bus.sink (domainEvent name payload scope) realtime room).after
          ⟨served (domainEvent name payload scope) (bus.subs name) world,
            (matching (domainEvent name payload scope) (bus.subs name) 0 world).map .handler⟩) := by
  rw [Bus.emit, Exec.bind_run_ok (dispatchAll_quiet quiet 0 []), Exec.bind_run_ok (sink_dropped ..)]
  rfl

variable (bus realtime room) in
/-- An emit to a subscriber that raises raises. -/
theorem emit_loud (loud : ¬Quiet (domainEvent name payload scope) (bus.subs name) world) :
    ∃ raised after, bus.emit name payload scope realtime room ⟨world, []⟩ = .error raised after := by
  obtain ⟨raised, after, failed⟩ := dispatchAll_loud loud 0 []
  exact ⟨raised, after, Exec.bind_run_error failed _⟩

end Emit

/-- An emit over the sink of Frappe is durable exactly when no filter and no matching subscriber
raises, there is no push in real time or it does not raise, and the texts of the event can be
taken. -/
theorem emit_durable_iff (frappe : Frappe Value World Raised)
    (subs : String → List (Subscription Value World Raised)) (name : String)
    (payload scope : Option (List (String × Value))) (realtime : Bool) (room : Option String)
    (world : World) :
    Durable frappe (subs name) (domainEvent name payload scope) world
        ((frappeBus frappe subs).emit name payload scope realtime room) ↔
      Quiet (domainEvent name payload scope) (subs name) world ∧
        Reached frappe (domainEvent name payload scope) realtime room
          (served (domainEvent name payload scope) (subs name) world) ∧
        Textual frappe (domainEvent name payload scope) := by
  by_cases quiet : Quiet (domainEvent name payload scope) (subs name) world
  · have emitted := emit_quiet (frappeBus frappe subs) realtime room quiet
    have ends : ((frappeBus frappe subs).emit name payload scope realtime room).after
        ⟨world, []⟩ = (publish frappe (domainEvent name payload scope) realtime room).after
          ⟨served (domainEvent name payload scope) (subs name) world,
            (matching (domainEvent name payload scope) (subs name) 0 world).map .handler⟩ := by
      rw [Exec.after, emitted]
      rfl
    rw [and_iff_right quiet, ← publish_appended_iff realtime room
      (matching (domainEvent name payload scope) (subs name) 0 world), ← ends]
    constructor
    · rintro ⟨_, called, appended⟩
      exact ⟨called, appended⟩
    · rintro ⟨called, appended⟩
      exact ⟨⟨_, emitted⟩, called, appended⟩
  · obtain ⟨raised, after, failed⟩ := emit_loud (frappeBus frappe subs) realtime room quiet
    refine iff_of_false ?_ fun both => quiet both.1
    rintro ⟨⟨_, returned⟩, _, _⟩
    cases failed.symm.trans returned

/-- Frappe with a message bus that is down; its world is the outbox. -/
def downFrappe : Frappe String (List OutboxRow) Unit where
  publishRealtime _ _ := throw ()
  str _ := .ok "\x7b\x7d"
  dbInsert row := modify (· ++ [row])
  logError _ := pure ()

/-- A push that raises loses the row, and so does a subscriber, which fails the emit too. -/
theorem outbox_misses :
    ((frappeBus downFrappe fun _ => []).emit "flock.member.created" none none true none).after
        ⟨[], []⟩ =
      ⟨[], [.realtime (domainEvent "flock.member.created" none none) none]⟩ ∧
    (frappeBus downFrappe fun _ => [⟨fun _ => throw (), none⟩]).emit "flock.member.created" none
        none false none ⟨[], []⟩ = .error () ⟨[], [.handler 0]⟩ ∧
    ¬Durable downFrappe [] (domainEvent "flock.member.created" none none) []
      ((frappeBus downFrappe fun _ => []).emit "flock.member.created" none none true none) := by
  refine ⟨rfl, rfl, ?_⟩
  rintro ⟨_, _, row, one, _⟩
  cases one

end FlockOs.EventBus
