import FlockOs.EngagementHook
import FlockOs.Lib.Runs

/-!
# One poll loop while the socket is down

A hook polls in one loop while its socket is down and not at all while it is up. That holds of a run
exactly where no realtime event and no connect of the socket comes between the request of a tick and
its answer: `stopPolling` clears the timer of the loop, and such a tick has none.
-/

namespace FlockOs.EngagementHook

open Lib

namespace Hook

/-- The poll loops of a hook: each has a timeout that has not fired, or a tick with a request. -/
def loops (hook : Hook) : Nat := hook.timers.length + hook.awaiting

/-- The polling is what the socket asks for: a single loop while it is down. -/
structure Tidy (hook : Hook) : Prop where
  /-- No two loops. -/
  single : hook.loops ≤ 1
  /-- No loop beside a live socket. -/
  live : hook.socketLive = true → hook.loops = 0
  /-- A loop where there is no live socket. -/
  fallen : hook.joined = true → hook.destroyed = false → hook.socketLive = false → hook.loops = 1

/-- `pollTimer` tells whether there is a loop, and clears it. -/
structure Kept (hook : Hook) : Prop where
  /-- Every timeout is the one of `pollTimer`. -/
  held : ∀ timer ∈ hook.timers, hook.pollTimer = some timer.handle
  /-- There is a loop exactly where there is a `pollTimer`. -/
  timed : hook.destroyed = false → (hook.pollTimer.isSome = true ↔ hook.loops = 1)

/-- The hook knows the state of a socket that it joined. -/
structure Wired (page : Page) (hook : Hook) : Prop where
  /-- Only the events of the page bring the socket up. -/
  realtime : 0 < hook.handlers ∨ hook.socketLive = true → page.realtime = true
  /-- A join hooks the socket that the page shows. -/
  hooked : 0 < hook.hooked ↔ page.realtime = true ∧ page.socket = true ∧ hook.joined = true
  /-- A hooked socket that is connected is live. -/
  connected : 0 < hook.hooked → hook.connected = true → hook.socketLive = true

/-- The invariant of the runs in which no loop escapes `stopPolling`. -/
structure Steady (page : Page) (hook : Hook) : Prop
    extends Tidy hook, Kept hook, Wired page hook where
  /-- There is no loop before the first join. -/
  fresh : hook.joined = false → hook.loops = 0

end Hook

open Hook

variable {page : Page} {hook : Hook}

/-- No loop is neither a timeout nor a tick. -/
theorem loops_eq_zero_iff : hook.loops = 0 ↔ hook.timers = [] ∧ hook.awaiting = 0 := by
  rw [loops, Nat.add_eq_zero_iff, List.length_eq_zero_iff]

/-- `stopPolling` stops a loop whose tick has no request. -/
theorem stopPolling_timers (kept : Kept hook) : hook.stopPolling.timers = [] := by
  rw [stopPolling]
  cases timer : hook.pollTimer with
  | none =>
    apply List.eq_nil_iff_forall_not_mem.mpr
    intro scheduled member
    have held := kept.held scheduled member
    rw [timer] at held
    cases held
  | some handle =>
    apply List.filter_eq_nil_iff.mpr
    intro scheduled member
    have held := kept.held scheduled member
    rw [timer] at held
    simp [Option.some.inj held]

/-- `stopPolling` changes nothing but the timer and its delay. -/
theorem stopPolling_eq : hook.stopPolling =
    { hook with timers := hook.stopPolling.timers, pollTimer := none, pollDelay := pollMinMs } := by
  cases timer : hook.pollTimer with
  | none => simp [stopPolling, timer]
  | some handle => simp [stopPolling, timer]

/-- A socket that comes up leaves no loop whose tick has no request. -/
theorem wake_eq (kept : Kept hook) : hook.wake =
    { hook with
      socketLive := true
      timers := []
      pollTimer := none
      pollDelay := pollMinMs
      connection := .live } := by
  have lit : Kept { hook with socketLive := true } := ⟨kept.held, kept.timed⟩
  rw [wake, stopPolling_eq, stopPolling_timers lit]
  rfl

/-- A hook without a loop, whose socket comes up, is steady. -/
theorem wake_steady (kept : Kept hook) (wired : Wired page { hook with socketLive := true })
    (asked : hook.awaiting = 0) : Steady page hook.wake := by
  have silent : hook.wake.loops = 0 := by
    rw [loops_eq_zero_iff, wake_eq kept]
    exact ⟨rfl, asked⟩
  constructor
  · constructor
    · rw [silent]
      exact Nat.zero_le 1
    · exact fun _ => silent
    · intro _ _ down
      rw [wake_eq kept] at down
      cases down
  · constructor
    · intro timer member
      rw [wake_eq kept] at member
      cases member
    · intro _
      rw [silent, wake_eq kept]
      simp
  · rw [wake_eq kept]
    exact ⟨wired.realtime, wired.hooked, wired.connected⟩
  · exact fun _ => silent

variable (hook) in
/-- A joined hook whose socket is down is steady once `startPolling` has run. -/
theorem startPolling_steady (single : hook.loops ≤ 1) (kept : Kept hook)
    (wired : Wired page hook) (joined : hook.joined = true) (down : hook.socketLive = false) :
    Steady page hook.startPolling := by
  rw [startPolling]
  split
  · next already =>
    rw [Bool.or_eq_true] at already
    refine ⟨⟨single, ?_, ?_⟩, kept, wired, ?_⟩
    · intro live
      rw [down] at live
      cases live
    · intro _ running _
      rw [running] at already
      exact (kept.timed running).mp (already.resolve_right (by simp))
    · intro unjoined
      rw [joined] at unjoined
      cases unjoined
  · next idle =>
    rw [Bool.or_eq_true, not_or, Bool.not_eq_true, Bool.not_eq_true] at idle
    obtain ⟨untimed, running⟩ := idle
    have quiet : hook.timers = [] ∧ hook.awaiting = 0 := by
      have other : hook.loops ≠ 1 := by
        intro one
        have timed := (kept.timed running).mpr one
        rw [untimed] at timed
        cases timed
      exact loops_eq_zero_iff.mp (by omega)
    constructor
    · constructor
      · simp [loops, schedule, setConnection, quiet.1, quiet.2]
      · intro live
        exact absurd (down.symm.trans live) (by decide)
      · intro _ _ _
        simp [loops, schedule, setConnection, quiet.1, quiet.2]
    · constructor
      · intro timer member
        simp only [schedule, setConnection, quiet.1, List.nil_append, List.mem_singleton] at member
        rw [member]
        rfl
      · intro _
        simp [loops, schedule, setConnection, quiet.1, quiet.2]
    · exact ⟨wired.realtime, wired.hooked, wired.connected⟩
    · intro unjoined
      exact absurd (joined.symm.trans unjoined) (by decide)

/-- The event brings the socket up between the request of a tick and its answer. -/
def Strikes (hook : Hook) : Event → Prop
  | .message => 0 < hook.handlers ∧ 0 < hook.awaiting
  | .connect => 0 < hook.hooked ∧ 0 < hook.awaiting
  | .joined _ | .disconnect | .fire _ | .answer | .destroy => False

instance Strikes.decidable (hook : Hook) : (event : Event) → Decidable (Strikes hook event)
  | .message | .connect => inferInstanceAs (Decidable (_ ∧ _))
  | .joined _ | .disconnect | .fire _ | .answer | .destroy => .isFalse id

/-- A single loop has the timeout of `pollTimer` or a tick with a request. -/
theorem Hook.Tidy.timers (tidy : Tidy hook) (asked : 0 < hook.awaiting) :
    hook.timers = [] ∧ hook.awaiting = 1 := by
  have single := tidy.single
  rw [loops] at single
  exact ⟨List.length_eq_zero_iff.mp (by omega), by omega⟩

/-- A hook that a live socket has woken is wired. -/
theorem Hook.Wired.awake (wired : Wired page hook) (realtime : page.realtime = true) :
    Wired page { hook with socketLive := true } :=
  ⟨fun _ => realtime, wired.hooked, fun _ _ => rfl⟩

/-- However many handlers run on a hook, it is steady, unless one strikes. -/
theorem wake_iterate (count : Nat) (unhandled : count = 0 → Steady page hook) (kept : Kept hook)
    (roused : 0 < count → Wired page { hook with socketLive := true } ∧ hook.awaiting = 0) :
    Steady page (Hook.wake^[count] hook) := by
  cases count with
  | zero => exact unhandled rfl
  | succ count =>
    obtain ⟨wired, asked⟩ := roused (Nat.succ_pos count)
    rw [Function.iterate_succ_apply]
    have again (awake : Hook) (still : Steady page awake ∧ awake.awaiting = 0) :
        Steady page awake.wake ∧ awake.wake.awaiting = 0 := by
      obtain ⟨steady, asked⟩ := still
      have realtime : page.realtime = true := wired.realtime (.inr rfl)
      refine ⟨wake_steady steady.toKept (steady.toWired.awake realtime) asked, ?_⟩
      rw [wake_eq steady.toKept]
      exact asked
    have first : Steady page hook.wake ∧ hook.wake.awaiting = 0 := by
      refine ⟨wake_steady kept wired asked, ?_⟩
      rw [wake_eq kept]
      exact asked
    exact (Function.Iterate.rec (fun hook => Steady page hook ∧ hook.awaiting = 0)
      first again count).1

/-- A realtime event keeps a hook steady unless it strikes. -/
theorem message_steady (steady : Steady page hook) (spared : ¬ Strikes hook .message) :
    Steady page (step page hook .message) := by
  apply wake_iterate hook.handlers (fun _ => steady) steady.toKept
  intro handled
  refine ⟨steady.toWired.awake (steady.realtime (.inl handled)), ?_⟩
  rw [Strikes] at spared
  omega

/-- A connect of the socket keeps a hook steady unless it strikes. -/
theorem connect_steady (steady : Steady page hook) (spared : ¬ Strikes hook .connect) :
    Steady page (step page hook .connect) := by
  apply wake_iterate hook.hooked
  · intro unhooked
    refine ⟨⟨steady.single, steady.live, steady.fallen⟩, ⟨steady.held, steady.timed⟩,
      ⟨steady.realtime, steady.hooked, ?_⟩, steady.fresh⟩
    intro hooked
    exact absurd hooked (by simp [unhooked])
  · exact ⟨steady.held, steady.timed⟩
  · intro hooked
    have realtime : page.realtime = true := (steady.hooked.mp hooked).1
    refine ⟨⟨fun _ => realtime, steady.hooked, fun _ _ => rfl⟩, ?_⟩
    rw [Strikes] at spared
    show hook.awaiting = 0
    omega

variable (hook) in
/-- The polling leaves the wiring of the hook as it is. -/
theorem startPolling_wires : hook.startPolling.joined = hook.joined ∧
    hook.startPolling.hooked = hook.hooked ∧ hook.startPolling.connected = hook.connected := by
  rw [startPolling]
  split
  · exact ⟨rfl, rfl, rfl⟩
  · exact ⟨rfl, rfl, rfl⟩

/-- However many joins hooked a disconnected socket, the hook is steady. -/
theorem drop_iterate (count : Nat) (steady : Steady page hook) (cut : hook.connected = false)
    (joined : 0 < count → hook.joined = true) : Steady page (Hook.drop^[count] hook) := by
  cases count with
  | zero => exact steady
  | succ count =>
    have again (falling : Hook) (still : Steady page falling ∧ falling.connected = false ∧
        falling.joined = true) : Steady page falling.drop ∧ falling.drop.connected = false ∧
          falling.drop.joined = true := by
      obtain ⟨steady, cut, joined⟩ := still
      let down := { falling with socketLive := false }.setConnection .offline
      obtain ⟨sameJoined, sameHooked, sameConnected⟩ := startPolling_wires down
      refine ⟨?_, sameConnected.trans cut, sameJoined.trans joined⟩
      apply startPolling_steady down steady.single ⟨steady.held, steady.timed⟩ _ joined rfl
      refine ⟨fun either => steady.realtime (either.imp id fun live => nomatch live),
        steady.hooked, ?_⟩
      intro _ connected
      exact absurd (cut.symm.trans connected) (by decide)
    exact (Function.Iterate.rec (fun hook => Steady page hook ∧ hook.connected = false ∧
      hook.joined = true) ⟨steady, cut, joined (Nat.succ_pos count)⟩ again (count + 1)).1

/-- A disconnect of the socket keeps a hook steady. -/
theorem disconnect_steady (steady : Steady page hook) :
    Steady page (step page hook .disconnect) := by
  have cut : Steady page { hook with connected := false } := by
    refine ⟨⟨steady.single, steady.live, steady.fallen⟩, ⟨steady.held, steady.timed⟩,
      ⟨steady.realtime, steady.hooked, ?_⟩, steady.fresh⟩
    intro _ connected
    cases connected
  exact drop_iterate hook.hooked cut rfl fun hooked => (steady.hooked.mp hooked).2.2

/-- A join keeps a hook steady. -/
theorem joined_steady (steady : Steady page hook) (ticket : Option EngagementApi.TicketPayload) :
    Steady page (step page hook (.joined ticket)) := by
  rw [step, applyJoin, subscribeRealtime]
  have down (off : page.realtime = false) : hook.socketLive = false := by
    cases live : hook.socketLive with
    | false => rfl
    | true => exact absurd (off.symm.trans (steady.realtime (.inr live))) (by decide)
  split
  · next realtime =>
    dsimp only
    split
    · next socket =>
      have wired (live : Bool) (shown : hook.connected = true → live = true) :
          Wired page
            { hook with
              ticket := ticket
              joined := true
              rtHandler := true
              handlers := hook.handlers + 1
              hooked := hook.hooked + 1
              socketLive := live } :=
        ⟨fun _ => realtime, iff_of_true (Nat.succ_pos _) ⟨realtime, socket, rfl⟩, fun _ => shown⟩
      split
      · next connected =>
        -- The socket is up and known to be, or this is the first join.
        have none : hook.loops = 0 := by
          cases joined : hook.joined with
          | false => exact steady.fresh joined
          | true =>
            have hooked : 0 < hook.hooked := steady.hooked.mpr ⟨realtime, socket, joined⟩
            exact steady.live (steady.connected hooked connected)
        refine ⟨⟨steady.single, fun _ => none, ?_⟩, ⟨steady.held, steady.timed⟩,
          ⟨(wired _ id).realtime, (wired _ id).hooked, (wired _ id).connected⟩, fun _ => none⟩
        intro _ _ dark
        exact absurd (connected.symm.trans dark) (by decide)
      · next cut =>
        rw [Bool.not_eq_true] at cut
        exact startPolling_steady _ steady.single ⟨steady.held, steady.timed⟩ (wired _ id) rfl cut
    · next hidden =>
      refine startPolling_steady _ steady.single ⟨steady.held, steady.timed⟩ ?_ rfl rfl
      have unhooked : ¬ 0 < hook.hooked := fun hooked => hidden (steady.hooked.mp hooked).2.1
      refine ⟨fun _ => realtime, iff_of_false unhooked fun all => hidden all.2.1, ?_⟩
      intro hooked
      exact absurd hooked unhooked
  · next off =>
    rw [Bool.not_eq_true] at off
    refine startPolling_steady _ steady.single ⟨steady.held, steady.timed⟩ ?_ rfl (down off)
    have unhooked : ¬ 0 < hook.hooked := by
      intro hooked
      exact absurd (off.symm.trans (steady.hooked.mp hooked).1) (by decide)
    refine ⟨steady.realtime, iff_of_false unhooked ?_, steady.connected⟩
    intro all
    exact absurd (off.symm.trans all.1) (by decide)

/-- The timeout of a single loop is its only one. -/
theorem Hook.Tidy.fired (tidy : Tidy hook) {handle : Nat}
    (due : hook.timers.any (fun timer => timer.handle = handle) = true) :
    hook.timers.length = 1 ∧ hook.awaiting = 0 ∧
      hook.timers.filter (fun timer => timer.handle ≠ handle) = [] := by
  have single := tidy.single
  rw [loops] at single
  cases timers : hook.timers with
  | nil =>
    rw [timers] at due
    cases due
  | cons timer rest =>
    rw [timers, List.length_cons] at single
    have alone : rest = [] := List.length_eq_zero_iff.mp (by omega)
    rw [timers, alone] at due
    have named : timer.handle = handle := by simpa using due
    rw [alone]
    exact ⟨rfl, by omega, by simp [named]⟩

/-- A timeout that is up keeps a hook steady. -/
theorem fire_steady (steady : Steady page hook) (handle : Nat) :
    Steady page (step page hook (.fire handle)) := by
  rw [step]
  split
  · next due =>
    obtain ⟨one, unasked, others⟩ := steady.toTidy.fired due
    have looped : hook.loops = 1 := by
      rw [loops, one, unasked]
    have dark : hook.socketLive ≠ true := by
      intro live
      exact absurd (looped.symm.trans (steady.live live)) (by decide)
    rw [others, tick]
    split
    · next destroyed =>
      have none : ({ hook with timers := [] } : Hook).loops = 0 :=
        loops_eq_zero_iff.mpr ⟨rfl, unasked⟩
      refine ⟨⟨none.le.trans (Nat.zero_le 1), fun _ => none, ?_⟩, ⟨nofun, ?_⟩,
        ⟨steady.realtime, steady.hooked, steady.connected⟩, fun _ => none⟩
      · intro _ running
        exact absurd (destroyed.symm.trans running) (by decide)
      · intro running
        exact absurd (destroyed.symm.trans running) (by decide)
    · have asked :
          ({ hook with timers := [], awaiting := hook.awaiting + 1 } : Hook).loops = 1 := by
        simp [loops, unasked]
      refine ⟨⟨asked.le, fun live => absurd live dark, fun _ _ _ => asked⟩, ⟨nofun, ?_⟩,
        ⟨steady.realtime, steady.hooked, steady.connected⟩, ?_⟩
      · intro running
        exact iff_of_true ((steady.timed running).mpr looped) asked
      · intro unjoined
        exact absurd (looped.symm.trans (steady.fresh unjoined)) (by decide)
  · exact steady

/-- The answer to a tick keeps a hook steady. -/
theorem answer_steady (steady : Steady page hook) : Steady page (step page hook .answer) := by
  rw [step]
  split
  · next asked =>
    obtain ⟨untimed, one⟩ := steady.toTidy.timers asked
    have looped : hook.loops = 1 := by
      rw [loops, untimed, one]
      rfl
    have again : hook.resume.loops = 1 := by
      simp [loops, resume, schedule, untimed, one]
    refine ⟨⟨again.le, ?_, fun _ _ _ => again⟩, ⟨?_, ?_⟩,
      ⟨steady.realtime, steady.hooked, steady.connected⟩, ?_⟩
    · intro live
      exact absurd (looped.symm.trans (steady.live live)) (by decide)
    · intro timer member
      simp only [resume, schedule, untimed, List.nil_append, List.mem_singleton] at member
      rw [member]
      rfl
    · intro _
      exact iff_of_true rfl again
    · intro unjoined
      exact absurd (looped.symm.trans (steady.fresh unjoined)) (by decide)
  · exact steady

/-- `destroy` leaves of a loop at most the tick that has a request. -/
theorem destroy_eq (kept : Kept hook) : hook.destroy =
    { hook with
      destroyed := true
      timers := []
      pollTimer := none
      pollDelay := pollMinMs
      handlers := if hook.rtHandler then hook.handlers - 1 else hook.handlers
      rtHandler := false } := by
  have doomed : Kept { hook with destroyed := true } := ⟨kept.held, nofun⟩
  rw [destroy, stopPolling_eq, stopPolling_timers doomed]

/-- `destroy` keeps a hook steady. -/
theorem destroy_steady (steady : Steady page hook) : Steady page (step page hook .destroy) := by
  have fewer : hook.destroy.loops ≤ hook.loops := by
    rw [destroy_eq steady.toKept, loops, loops, List.length_nil, Nat.zero_add]
    exact Nat.le_add_left _ _
  rw [destroy_eq steady.toKept] at fewer
  rw [step, destroy_eq steady.toKept]
  refine ⟨⟨fewer.trans steady.single, ?_, nofun⟩, ⟨nofun, nofun⟩,
    ⟨?_, steady.hooked, steady.connected⟩, ?_⟩
  · intro live
    exact Nat.le_zero.mp (fewer.trans (steady.live live).le)
  · intro handled
    apply steady.realtime
    apply handled.imp_left
    intro left
    dsimp only at left
    split at left
    · omega
    · exact left
  · intro unjoined
    exact Nat.le_zero.mp (fewer.trans (steady.fresh unjoined).le)

/-- An event keeps a hook steady unless it strikes. -/
theorem step_steady (steady : Steady page hook) (event : Event) (spared : ¬ Strikes hook event) :
    Steady page (step page hook event) := by
  cases event with
  | joined ticket => exact joined_steady steady ticket
  | message => exact message_steady steady spared
  | connect => exact connect_steady steady spared
  | disconnect => exact disconnect_steady steady
  | fire handle => exact fire_steady steady handle
  | answer => exact answer_steady steady
  | destroy => exact destroy_steady steady

/-- A fresh hook is steady. -/
theorem fresh_steady (page : Page) : Steady page {} := by
  refine ⟨⟨Nat.zero_le 1, fun _ => rfl, nofun⟩, ⟨nofun, ?_⟩, ⟨?_, ?_, nofun⟩, fun _ => rfl⟩
  · intro _
    simp [loops]
  · intro up
    simp at up
  · simp

/-- A live socket leaves the ticks that have a request. -/
theorem wake_lit : hook.wake.socketLive = true ∧ hook.wake.awaiting = hook.awaiting ∧
    hook.wake.destroyed = hook.destroyed := by
  rw [wake, stopPolling_eq]
  exact ⟨rfl, rfl, rfl⟩

/-- A hook with such a tick is not tidy once a handler has run. -/
theorem wake_untidy {count : Nat} (handled : 0 < count) (asked : 0 < hook.awaiting) :
    ¬ Tidy (Hook.wake^[count] hook) := by
  intro tidy
  obtain ⟨last, rfl⟩ := Nat.exists_eq_succ_of_ne_zero handled.ne'
  have still : (Hook.wake^[last] hook).awaiting = hook.awaiting :=
    Function.Iterate.rec (fun woken : Hook => woken.awaiting = hook.awaiting) rfl
      (fun woken same => wake_lit.2.1.trans same) last
  rw [Nat.succ_eq_add_one, Function.iterate_succ_apply'] at tidy
  have none := (loops_eq_zero_iff.mp (tidy.live wake_lit.1)).2
  rw [wake_lit.2.1, still] at none
  omega

/-- An event that strikes leaves a loop beside a live socket. -/
theorem struck_untidy {event : Event} (struck : Strikes hook event) :
    ¬ Tidy (step page hook event) := by
  cases event with
  | message => exact wake_untidy struck.1 struck.2
  | connect => exact wake_untidy struck.1 struck.2
  | joined _ | disconnect | fire _ | answer | destroy => exact struck.elim

/-- A run whose states are tidy is not struck. -/
theorem unstruck_of_tidy : ∀ {events : List Event} {hook : Hook},
    EveryState (step page) Tidy hook events →
      EveryCall (step page) (fun hook event => ¬ Strikes hook event) hook events
  | [], _, _ => trivial
  | _ :: _, _, throughout =>
    ⟨fun struck => struck_untidy struck throughout.2.first, unstruck_of_tidy throughout.2⟩

/-- A hook polls in one loop while its socket is down, and not at all while it is up, in every state
of a run exactly where no realtime event and no connect of the socket comes between the request of
a tick and its answer. -/
theorem polls_tidily_iff (page : Page) (events : List Event) :
    EveryState (step page) Tidy {} events ↔
      EveryCall (step page) (fun hook event => ¬ Strikes hook event) {} events := by
  constructor
  · exact unstruck_of_tidy
  · apply everyState_of_everyCall (Steady page) _ _ (fresh_steady page)
    · intro hook event steady spared
      exact step_steady steady event spared
    · intro hook steady
      exact steady.toTidy

/-- A tick that is struck goes on under no handle: the next disconnect starts a second loop. -/
example : (runAll (step ⟨true, true⟩) {}
    [.joined none, .fire 1, .connect, .disconnect, .answer]).loops = 2 := by decide

/-- The loop of a hook waits for the answer to its request. -/
structure Stalled (hook : Hook) : Prop where
  /-- A tick has a request. -/
  asked : hook.awaiting = 1
  /-- No timeout is left. -/
  untimed : hook.timers = []
  /-- The hook is in use. -/
  running : hook.destroyed = false

/-- The event neither brings the socket up nor answers a tick nor destroys the hook. -/
def Silent (hook : Hook) (event : Event) : Prop :=
  ¬ Strikes hook event ∧ event ≠ .answer ∧ event ≠ .destroy

instance Silent.decidable (hook : Hook) (event : Event) : Decidable (Silent hook event) :=
  inferInstanceAs (Decidable (_ ∧ _ ∧ _))

/-- A stalled hook has a `pollTimer`. -/
theorem Hook.Steady.timer (steady : Steady page hook) (stalled : Stalled hook) :
    hook.pollTimer.isSome = true := by
  apply (steady.timed stalled.running).mpr
  rw [loops, stalled.untimed, stalled.asked]
  rfl

/-- `startPolling` does nothing. -/
def Hook.Busy (hook : Hook) : Prop := (hook.pollTimer.isSome || hook.destroyed) = true

/-- Two hooks have the same loops. -/
structure SameLoops (hook other : Hook) : Prop where
  /-- The same timeouts. -/
  timers : other.timers = hook.timers
  /-- The same ticks. -/
  awaiting : other.awaiting = hook.awaiting
  /-- Both are in use, or neither. -/
  destroyed : other.destroyed = hook.destroyed

/-- A busy hook starts no loop. -/
theorem startPolling_busy (busy : Busy hook) : hook.startPolling = hook := by
  rw [Busy] at busy
  rw [startPolling, if_pos busy]

/-- A busy hook with the same loops keeps them. -/
theorem startPolling_same {other : Hook} (busy : Busy other) (same : SameLoops hook other) :
    SameLoops hook other.startPolling := by
  rw [startPolling_busy busy]
  exact same

/-- A join of a busy hook starts no loop. -/
theorem joined_busy (busy : Busy hook) (ticket : Option EngagementApi.TicketPayload) :
    SameLoops hook (step page hook (.joined ticket)) := by
  rw [step, applyJoin, subscribeRealtime]
  split
  · dsimp only
    split
    · split
      · exact ⟨rfl, rfl, rfl⟩
      · exact startPolling_same busy ⟨rfl, rfl, rfl⟩
    · exact startPolling_same busy ⟨rfl, rfl, rfl⟩
  · exact startPolling_same busy ⟨rfl, rfl, rfl⟩

/-- A disconnect of a busy hook starts no loop. -/
theorem disconnect_busy (busy : Busy hook) : SameLoops hook (step page hook .disconnect) := by
  have again (falling : Hook) (still : Busy falling ∧ SameLoops hook falling) :
      Busy falling.drop ∧ SameLoops hook falling.drop := by
    have same : falling.drop = { falling with socketLive := false }.setConnection .offline :=
      startPolling_busy still.1
    rw [same]
    exact ⟨still.1, still.2.timers, still.2.awaiting, still.2.destroyed⟩
  have first : Busy { hook with connected := false } ∧
      SameLoops hook { hook with connected := false } := ⟨busy, rfl, rfl, rfl⟩
  exact (Function.Iterate.rec (fun other : Hook => Busy other ∧ SameLoops hook other)
    first again hook.hooked).2

/-- Hooks with the same loops are stalled together. -/
theorem SameLoops.stalled {other : Hook} (same : SameLoops hook other) (stalled : Stalled hook) :
    Stalled other :=
  ⟨same.awaiting.trans stalled.asked, same.timers.trans stalled.untimed,
    same.destroyed.trans stalled.running⟩

/-- A handler that would strike does not run. -/
theorem wake_spared {count : Nat} (stalled : Stalled hook)
    (spared : ¬ (0 < count ∧ 0 < hook.awaiting)) : count = 0 := by
  rw [stalled.asked] at spared
  omega

/-- A silent event leaves a stalled hook stalled. -/
theorem step_stalled (steady : Steady page hook) (stalled : Stalled hook) {event : Event}
    (silent : Silent hook event) : Stalled (step page hook event) := by
  have busy : Busy hook := by
    rw [Busy, steady.timer stalled, Bool.true_or]
  obtain ⟨spared, unanswered, undestroyed⟩ := silent
  cases event with
  | joined ticket => exact (joined_busy busy ticket).stalled stalled
  | disconnect => exact (disconnect_busy busy).stalled stalled
  | message =>
    rw [step, wake_spared stalled spared]
    exact stalled
  | connect =>
    have unhooked : hook.hooked = 0 := wake_spared stalled spared
    have nobody (other : Hook) : Hook.wake^[hook.hooked] other = other := by
      rw [unhooked]
      rfl
    rw [step, nobody]
    exact ⟨stalled.asked, stalled.untimed, stalled.running⟩
  | fire handle =>
    rw [step, stalled.untimed, List.any_nil, if_neg Bool.false_ne_true]
    exact stalled
  | answer => exact absurd rfl unanswered
  | destroy => exact absurd rfl undestroyed

/-- A hook whose poll is not answered polls no more, however often its socket fails or it joins,
until the socket comes up. -/
theorem unanswered_stalls (page : Page) (before after : List Event)
    (spared : EveryCall (step page) (fun hook event => ¬ Strikes hook event) {} before)
    (stalled : Stalled (runAll (step page) {} before))
    (silent : EveryCall (step page) Silent (runAll (step page) {} before) after) :
    EveryState (step page) Stalled (runAll (step page) {} before) after := by
  have steady : Steady page (runAll (step page) {} before) := by
    apply runAll_guarded (Steady page) _ before {} (fresh_steady page) spared
    intro hook event steady spared
    exact step_steady steady event spared
  apply everyState_of_everyCall (fun hook => Steady page hook ∧ Stalled hook) _ _
    ⟨steady, stalled⟩ silent
  · intro hook event still silent
    exact ⟨step_steady still.1 event silent.1, step_stalled still.1 still.2 silent⟩
  · intro hook still
    exact still.2

/-- A phone that loses its first poll does not poll again, though its socket fails and it joins
anew. -/
theorem lost_poll_stalls : EveryState (step ⟨true, true⟩) Stalled
    (runAll (step ⟨true, true⟩) {} [.joined none, .fire 1]) [.disconnect, .joined none, .fire 1] :=
  unanswered_stalls ⟨true, true⟩ [.joined none, .fire 1] [.disconnect, .joined none, .fire 1]
    (by decide) ⟨rfl, rfl, rfl⟩ (by decide)

/-- A hook that is destroyed has at most so many ticks with a request. -/
structure Ended (most : Nat) (hook : Hook) : Prop where
  /-- The hook is destroyed. -/
  destroyed : hook.destroyed = true
  /-- Its ticks that have a request. -/
  asked : hook.awaiting ≤ most

/-- A handler has no destroyed hook poll. -/
theorem wake_ended {most : Nat} (ended : Ended most hook) : Ended most hook.wake :=
  ⟨wake_lit.2.2.trans ended.destroyed, wake_lit.2.1.le.trans ended.asked⟩

/-- No event has a destroyed hook poll. -/
theorem step_ended {most : Nat} (ended : Ended most hook) (event : Event) :
    Ended most (step page hook event) := by
  have busy : Busy hook := by
    rw [Busy, ended.destroyed, Bool.or_true]
  cases event with
  | joined ticket =>
    have same : SameLoops hook (step page hook (.joined ticket)) := joined_busy busy ticket
    exact ⟨same.destroyed.trans ended.destroyed, same.awaiting.le.trans ended.asked⟩
  | disconnect =>
    have same : SameLoops hook (step page hook .disconnect) := disconnect_busy busy
    exact ⟨same.destroyed.trans ended.destroyed, same.awaiting.le.trans ended.asked⟩
  | message =>
    exact Function.Iterate.rec (Ended most) ended (fun _ => wake_ended) hook.handlers
  | connect =>
    have up : Ended most { hook with connected := true } := ⟨ended.destroyed, ended.asked⟩
    exact Function.Iterate.rec (Ended most) up (fun _ => wake_ended) hook.hooked
  | fire handle =>
    rw [step]
    split
    · rw [tick, if_pos ended.destroyed]
      exact ⟨ended.destroyed, ended.asked⟩
    · exact ended
  | answer =>
    rw [step]
    split
    · exact ⟨ended.destroyed, (Nat.sub_le _ _).trans ended.asked⟩
    · exact ended
  | destroy =>
    rw [step, destroy, stopPolling_eq]
    exact ⟨rfl, ended.asked⟩

/-- However the run goes on, a destroyed hook has no tick ask again. -/
theorem destroyed_quiet (page : Page) (most : Nat) (hook : Hook) (events : List Event)
    (ended : Ended most hook) : Ended most (runAll (step page) hook events) :=
  runAll_invariant (Ended most) (fun _ event ended => step_ended ended event) events hook ended

/-- The waits of a loop between its polls, without an interruption. -/
def waits : List Nat := [1500, 2550, 4335, 7370, 12529, 15000]

/-- Every wait of a hook is one of them. -/
structure Paced (hook : Hook) : Prop where
  /-- The next wait. -/
  next : hook.pollDelay ∈ waits
  /-- The waits that run. -/
  running : ∀ timer ∈ hook.timers, timer.delay ∈ waits

/-- A wait is followed by a wait. -/
theorem backoff_mem_waits : ∀ delay ∈ waits, backoff delay ∈ waits := by decide

/-- A timeout is made with the next wait. -/
theorem schedule_paced (paced : Paced hook) : Paced hook.schedule := by
  refine ⟨paced.next, ?_⟩
  intro timer member
  cases List.mem_append.mp member with
  | inl earlier => exact paced.running timer earlier
  | inr new =>
    rw [List.mem_singleton.mp new]
    exact paced.next

/-- `startPolling` waits as long as it may. -/
theorem startPolling_paced (paced : Paced hook) : Paced hook.startPolling := by
  rw [startPolling]
  split
  · exact paced
  · exact schedule_paced ⟨paced.next, paced.running⟩

/-- `stopPolling` begins the waits again. -/
theorem stopPolling_paced (paced : Paced hook) : Paced hook.stopPolling := by
  rw [stopPolling]
  split
  · refine ⟨List.mem_cons_self, ?_⟩
    intro timer member
    exact paced.running timer (List.mem_filter.mp member).1
  · exact ⟨List.mem_cons_self, paced.running⟩

/-- A handler keeps the pace. -/
theorem wake_paced (paced : Paced hook) : Paced hook.wake := by
  have stopped : Paced { hook with socketLive := true }.stopPolling :=
    stopPolling_paced ⟨paced.next, paced.running⟩
  exact ⟨stopped.next, stopped.running⟩

/-- An event keeps the pace. -/
theorem step_paced (paced : Paced hook) (event : Event) : Paced (step page hook event) := by
  cases event with
  | joined ticket =>
    rw [step, applyJoin, subscribeRealtime]
    split
    · dsimp only
      split
      · split
        · exact ⟨paced.next, paced.running⟩
        · exact startPolling_paced ⟨paced.next, paced.running⟩
      · exact startPolling_paced ⟨paced.next, paced.running⟩
    · exact startPolling_paced ⟨paced.next, paced.running⟩
  | message => exact Function.Iterate.rec Paced paced (fun _ => wake_paced) hook.handlers
  | connect =>
    have up : Paced { hook with connected := true } := ⟨paced.next, paced.running⟩
    exact Function.Iterate.rec Paced up (fun _ => wake_paced) hook.hooked
  | disconnect =>
    have again (falling : Hook) (paced : Paced falling) : Paced falling.drop :=
      startPolling_paced ⟨paced.next, paced.running⟩
    have cut : Paced { hook with connected := false } := ⟨paced.next, paced.running⟩
    exact Function.Iterate.rec Paced cut again hook.hooked
  | fire handle =>
    have fired : Paced { hook with
        timers := hook.timers.filter fun timer => timer.handle ≠ handle } := by
      refine ⟨paced.next, ?_⟩
      intro timer member
      exact paced.running timer (List.mem_filter.mp member).1
    rw [step]
    split
    · rw [tick]
      split
      · exact fired
      · exact ⟨fired.next, fired.running⟩
    · exact paced
  | answer =>
    rw [step]
    split
    · exact schedule_paced ⟨backoff_mem_waits _ paced.next, paced.running⟩
    · exact paced
  | destroy =>
    have stopped : Paced { hook with destroyed := true }.stopPolling :=
      stopPolling_paced ⟨paced.next, paced.running⟩
    exact ⟨stopped.next, stopped.running⟩

/-- However a run goes, a hook waits between two polls for one of the waits. -/
theorem waits_paced (page : Page) (events : List Event) : Paced (runAll (step page) {} events) :=
  runAll_invariant Paced (fun _ event paced => step_paced paced event) events {}
    ⟨List.mem_cons_self, nofun⟩

end FlockOs.EngagementHook
