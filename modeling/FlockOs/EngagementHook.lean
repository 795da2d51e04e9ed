import FlockOs.EngagementApi
import Mathlib.Logic.Function.Iterate

/-!
# The connection of a player

`useEngagementSession` of `engagement-core.js` between its join and its `destroy`: the subscription
to realtime events, and the polling of the session state while the socket is down. A hook has the
endpoint `session_state`. What its page does comes as events, one after another: the callbacks of
the socket and of the timers, and the answers to the requests.
-/

namespace FlockOs.EngagementHook

open Lib EngagementApi

/-- `POLL_MIN_MS`. -/
def pollMinMs : Nat := 1500

/-- `POLL_MAX_MS`. -/
def pollMaxMs : Nat := 15000

/-- `state.connection`. -/
inductive Connection where
  | connecting
  | live
  | polling
  | offline
deriving DecidableEq, Repr

/-- What the page offers a hook. -/
structure Page where
  /-- The parity names the realtime events, and the page has `frappe.realtime`. -/
  realtime : Bool
  /-- `frappe.realtime` shows its socket. -/
  socket : Bool
deriving DecidableEq, Repr

/-- A timeout of the page that has not fired. -/
structure Timer where
  /-- Handle, a positive number. -/
  handle : Nat
  /-- Milliseconds. -/
  delay : Nat
deriving DecidableEq, Repr

/-- The variables of a hook and what the page keeps for it. -/
structure Hook where
  /-- `state.ticket`. -/
  ticket : Option TicketPayload := none
  /-- `state.joined`. -/
  joined : Bool := false
  /-- `state.connection`. -/
  connection : Connection := .connecting
  /-- `pollTimer`; a timeout that has fired keeps its handle here. -/
  pollTimer : Option Nat := none
  /-- `pollDelay`. -/
  pollDelay : Nat := pollMinMs
  /-- `socketLive`. -/
  socketLive : Bool := false
  /-- `destroyed`. -/
  destroyed : Bool := false
  /-- Whether there is an `rtHandler`. -/
  rtHandler : Bool := false
  /-- Handlers that are subscribed to the realtime events. -/
  handlers : Nat := 0
  /-- Joins that hooked `connect` and `disconnect` of the socket. -/
  hooked : Nat := 0
  /-- `connected` of the socket. -/
  connected : Bool := false
  /-- Timeouts that have not fired. -/
  timers : List Timer := []
  /-- Timeouts made so far. -/
  made : Nat := 0
  /-- Ticks that await the answer of their `refreshState`. -/
  awaiting : Nat := 0
deriving DecidableEq, Repr

namespace Hook

/-- `setConnection`. -/
def setConnection (kind : Connection) (hook : Hook) : Hook := { hook with connection := kind }

/-- `pollTimer = setTimeout(tick, pollDelay)`. -/
def schedule (hook : Hook) : Hook :=
  let handle := hook.made + 1
  { hook with
    pollTimer := some handle
    timers := hook.timers ++ [⟨handle, hook.pollDelay⟩]
    made := handle }

/-- `startPolling`. -/
def startPolling (hook : Hook) : Hook :=
  if hook.pollTimer.isSome || hook.destroyed then hook
  else
    let kind :=
      if hook.socketLive then .live else if hook.ticket.isSome then .polling else .connecting
    (hook.setConnection kind).schedule

/-- `stopPolling`. -/
def stopPolling (hook : Hook) : Hook :=
  match hook.pollTimer with
  | some handle =>
    { hook with
      timers := hook.timers.filter fun timer => timer.handle ≠ handle
      pollTimer := none
      pollDelay := pollMinMs }
  | none => { hook with pollDelay := pollMinMs }

/-- `tick` up to its request. -/
def tick (hook : Hook) : Hook :=
  if hook.destroyed then hook else { hook with awaiting := hook.awaiting + 1 }

/-- `Math.min(POLL_MAX_MS, Math.round(pollDelay * 1.7))`. -/
def backoff (delay : Nat) : Nat := min pollMaxMs ((delay * 17 + 5) / 10)

/-- `tick` from the answer to its request. -/
def resume (hook : Hook) : Hook :=
  { hook with awaiting := hook.awaiting - 1, pollDelay := backoff hook.pollDelay }.schedule

/-- What the realtime handler and the hook of `connect` both begin with. -/
def wake (hook : Hook) : Hook :=
  ({ hook with socketLive := true }.stopPolling).setConnection .live

/-- The hook of `disconnect`. -/
def drop (hook : Hook) : Hook :=
  ({ hook with socketLive := false }.setConnection .offline).startPolling

/-- `subscribeRealtime`. -/
def subscribeRealtime (page : Page) (hook : Hook) : Hook :=
  if page.realtime then
    let subscribed := { hook with rtHandler := true, handlers := hook.handlers + 1 }
    if page.socket then
      let live := { subscribed with hooked := hook.hooked + 1, socketLive := hook.connected }
      if hook.connected then live.setConnection .live else live.startPolling
    else { subscribed with socketLive := false }.startPolling
  else hook.startPolling

/-- `applyJoin`. -/
def applyJoin (page : Page) (ticket : Option TicketPayload) (hook : Hook) : Hook :=
  subscribeRealtime page { hook with ticket := ticket, joined := true }

/-- `destroy`: the handler of the last join is unsubscribed, the hooks of the socket stay. -/
def destroy (hook : Hook) : Hook :=
  let stopped := { hook with destroyed := true }.stopPolling
  { stopped with
    handlers := if hook.rtHandler then hook.handlers - 1 else hook.handlers
    rtHandler := false }

end Hook

/-- What happens to a hook. -/
inductive Event where
  /-- A `join` is answered. -/
  | joined (ticket : Option TicketPayload)
  /-- A realtime event of the session arrives. -/
  | message
  /-- The socket connects. -/
  | connect
  /-- The socket disconnects. -/
  | disconnect
  /-- A timeout is up. -/
  | fire (handle : Nat)
  /-- The request of a tick is answered. -/
  | answer
  /-- `destroy` is called. -/
  | destroy
deriving DecidableEq, Repr

/-- The hook after an event. -/
def step (page : Page) (hook : Hook) : Event → Hook
  | .joined ticket => hook.applyJoin page ticket
  | .message => Hook.wake^[hook.handlers] hook
  | .connect => Hook.wake^[hook.hooked] { hook with connected := true }
  | .disconnect => Hook.drop^[hook.hooked] { hook with connected := false }
  | .fire handle =>
    if hook.timers.any fun timer => timer.handle = handle then
      { hook with timers := hook.timers.filter fun timer => timer.handle ≠ handle }.tick
    else hook
  | .answer => if 0 < hook.awaiting then hook.resume else hook
  | .destroy => hook.destroy

end FlockOs.EngagementHook
