import FlockOs.Lib.Exec

/-!
# The event bus

`events.py`: `EventBus.emit` dispatches a domain event to its subscribers and pushes it to the sink,
which in production publishes it in real time and appends it to the outbox. Subscribers, filters and
Frappe are outside: each reads and changes a world of its own and may raise.
-/

namespace FlockOs.EventBus

open Lib

/-- `DomainEvent`, with dictionaries of any values. -/
structure DomainEvent (Value : Type) where
  name : String
  payload : List (String × Value)
  scope : List (String × Value)
deriving DecidableEq, Repr

/-- A row of the `Flock Event Outbox`. -/
structure OutboxRow where
  event : String
  payload : String
  scope : String
deriving DecidableEq, Repr

/-- What an emit does itself, besides asking filters. -/
inductive Act (Value : Type) where
  /-- A subscriber is called, by its place among those of the event. -/
  | handler (place : Nat)
  /-- `frappe.publish_realtime`, with the event as its message. -/
  | realtime (message : DomainEvent Value) (room : Option String)
  /-- `db_insert` of an outbox row. -/
  | insert (row : OutboxRow)
  /-- `frappe.log_error`. -/
  | log (line : String)
deriving DecidableEq, Repr

/-- The world outside and what an emit has done so far. -/
structure Emission (Value World : Type) where
  world : World
  acts : List (Act Value) := []
deriving DecidableEq, Repr

variable {Value World Raised : Type}

/-- A part of an emit. -/
abbrev Emitting (Value World Raised α : Type) := Exec Raised (Emission Value World) α

/-- A call that leaves the bus. -/
def outside {α : Type} (call : Exec Raised World α) : Emitting Value World Raised α :=
  fun emission =>
    match call emission.world with
    | .ok result world => .ok result { emission with world }
    | .error raised world => .error raised { emission with world }

/-- The act is done now. -/
def act (done : Act Value) : Emitting Value World Raised Unit :=
  modify fun emission => { emission with acts := emission.acts ++ [done] }

/-- What the sink uses of Frappe, and `str` of a dictionary. -/
structure Frappe (Value World Raised : Type) where
  publishRealtime : DomainEvent Value → Option String → Exec Raised World Unit
  str : List (String × Value) → Except Raised String
  dbInsert : OutboxRow → Exec Raised World Unit
  logError : String → Exec Raised World Unit

variable (frappe : Frappe Value World Raised)

/-- The line of `_append_outbox` about a row that was not appended. -/
def appendFailedLine (event : DomainEvent Value) : String :=
  s!"flock_os.events outbox append failed: {event.name}"

/-- The row of an event is made and inserted. -/
def insertRow (event : DomainEvent Value) : Emitting Value World Raised Unit := do
  let payload ← Exec.ofExcept (frappe.str event.payload)
  let scope ← Exec.ofExcept (frappe.str event.scope)
  let row : OutboxRow := { event := event.name, payload, scope }
  act (.insert row)
  outside (frappe.dbInsert row)

/-- A row that was not appended is logged. -/
def logFailed (event : DomainEvent Value) : Emitting Value World Raised Unit := do
  act (.log (appendFailedLine event))
  outside (frappe.logError (appendFailedLine event))

/-- `FrappeEventSink._append_outbox`. -/
def appendOutbox (event : DomainEvent Value) : Emitting Value World Raised Unit :=
  tryCatch (insertRow frappe event) fun _ => logFailed frappe event

/-- `FrappeEventSink.publish`. -/
def publish (event : DomainEvent Value) (realtime : Bool) (room : Option String) :
    Emitting Value World Raised Unit := do
  if realtime then
    act (.realtime event room)
    outside (frappe.publishRealtime event room)
  appendOutbox frappe event

/-- `_Subscription`. -/
structure Subscription (Value World Raised : Type) where
  handler : DomainEvent Value → Exec Raised World Unit
  filterFn : Option (DomainEvent Value → Exec Raised World Bool) := none

/-- `EventBus`, with the subscriptions of each name in the order in which they were made. -/
structure Bus (Value World Raised : Type) where
  sink : DomainEvent Value → Bool → Option String → Emitting Value World Raised Unit :=
    fun _ _ _ => pure ()
  subs : String → List (Subscription Value World Raised) := fun _ => []

/-- `EventBus.install_sink`. -/
def Bus.installSink (bus : Bus Value World Raised)
    (sink : DomainEvent Value → Bool → Option String → Emitting Value World Raised Unit) :
    Bus Value World Raised := { bus with sink }

/-- `EventBus.subscribe`. -/
def Bus.subscribe (bus : Bus Value World Raised) (event : String)
    (sub : Subscription Value World Raised) : Bus Value World Raised :=
  { bus with subs := fun name => if name = event then bus.subs name ++ [sub] else bus.subs name }

/-- The filter of a subscription, if it has one. -/
def passes (event : DomainEvent Value) (sub : Subscription Value World Raised) :
    Emitting Value World Raised Bool :=
  match sub.filterFn with
  | none => pure true
  | some filterFn => outside (filterFn event)

/-- One turn of the loop over the subscriptions of an event. -/
def dispatch (event : DomainEvent Value) (sub : Subscription Value World Raised) (place : Nat) :
    Emitting Value World Raised Unit := do
  if ← passes event sub then
    act (.handler place)
    outside (sub.handler event)

/-- The loop over the subscriptions of an event, from a place on. -/
def dispatchAll (event : DomainEvent Value) (subs : List (Subscription Value World Raised))
    (place : Nat) : Emitting Value World Raised Unit :=
  (subs.zipIdx place).forM fun (sub, place) => dispatch event sub place

/-- The event that `emit` makes of its arguments. -/
def domainEvent (name : String) (payload scope : Option (List (String × Value))) :
    DomainEvent Value :=
  { name, payload := payload.getD [], scope := scope.getD [] }

/-- `EventBus.emit`. -/
def Bus.emit (bus : Bus Value World Raised) (name : String)
    (payload scope : Option (List (String × Value))) (realtime : Bool) (room : Option String) :
    Emitting Value World Raised (DomainEvent Value) := do
  let event := domainEvent name payload scope
  dispatchAll event (bus.subs name) 0
  tryCatch (bus.sink event realtime room) fun _ => pure ()
  return event

/-- A bus over a `FrappeEventSink`. -/
def frappeBus (subs : String → List (Subscription Value World Raised)) :
    Bus Value World Raised := { sink := publish frappe, subs }

end FlockOs.EventBus
