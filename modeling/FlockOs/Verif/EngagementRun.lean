import FlockOs.Verif.SessionCalls
import FlockOs.Verif.TicketSession

/-!
# Runs of one engagement session

In any order of calls the session goes through its states once, each lifecycle event is
published at most once, and the one batch that a closed session has handed to the bulk service
is what the accepted participations call for.
-/

namespace FlockOs.Engagement

open Lib Reporting

/-- The states entered on the way to a status. -/
def reached : SessionStatus → List SessionStatus
  | .draft | .scheduled => []
  | .open => [.open]
  | .closing => [.open, .closing]
  | .closed | .archived => [.open, .closing, .closed]

/-- What entering a status publishes: the name of the event and its count. -/
def news (count : Nat) : SessionStatus → List (String × Option Value)
  | .open => [(Events.engagementSessionOpened, none)]
  | .closed => [(Events.engagementSessionClosed, some (.int count))]
  | _ => []

/-- The published events, by name and count. -/
def Runtime.announced (runtime : Runtime) : List (String × Option Value) :=
  runtime.publishedEvents.map fun event => (event.name, event.payload.lookup "count")

/-- An opened session is announced without a count. -/
theorem news_opened (session : EngagementSession) (count : Nat) :
    [((openedEvent session).name, (openedEvent session).payload.lookup "count")] =
      news count .open := by
  rw [openedEvent, EngagementSession.groupEntry]
  cases truthy session.group <;> rfl

/-- A closed session is announced with its count. -/
theorem news_closed (session : EngagementSession) (count : Nat) :
    [((closedEvent session count).name, (closedEvent session count).payload.lookup "count")] =
      news count .closed := rfl

/-- The history of a run is that of a session in a status. -/
structure Standing (session : EngagementSession) (status : SessionStatus) (run : PlayRun) :
    Prop where
  /-- The store knows the session in that status. -/
  only : OnlySession session status run.runtime.store
  /-- The session is not archived. -/
  unarchived : status ≠ .archived
  /-- The log holds what was accepted. -/
  logged : loggedCredits run.runtime.store session.sessionId = answeredCredits session run.answered
  /-- The states on the way to the status were entered. -/
  entered : run.entered = reached status
  /-- Each of them was announced. -/
  announced : run.runtime.announced =
    (reached status).flatMap (news (credits session run.answered).length)
  /-- A closed session has handed its batch over. -/
  submitted : run.runtime.submitted =
    if status = .closed then [credits session run.answered] else []
  /-- The finalizes that returned found the session closed and counted the batch. -/
  finalized : ∀ outcome ∈ run.finalized,
    status = .closed ∧ outcome.attendeeCount = (credits session run.answered).length

section Steps

variable {session : EngagementSession} {status : SessionStatus} {run : PlayRun} {next : Runtime}

/-- The status of the session that a store knows. -/
theorem OnlySession.statusOf (only : OnlySession session status next.store) :
    next.statusOf session.sessionId = some status := by
  obtain ⟨openAt, closeAt, stored⟩ := only.stored
  rw [Runtime.statusOf, stored]
  rfl

/-- Answers of a closed session change nothing about what is called for. -/
theorem credits_append_dead {before new : List (ParticipateRequest × ParticipationReceipt)}
    (dead : ∀ answer ∈ new, answer.2.accepted = false) :
    credits session (before ++ new) = credits session before := by
  have none : new.filter countsFor = [] := by
    rw [List.filter_eq_nil_iff]
    intro answer member
    simp [countsFor, dead answer member]
  rw [credits, credits, List.filter_append, none, List.append_nil]

/-- Serving participations keeps the standing. -/
theorem Standing.serve {answered : List (ParticipateRequest × ParticipationReceipt)}
    (standing : Standing session status run)
    (served : Served session status.isLive run.runtime next answered) :
    Standing session status ((run.moved session.sessionId next).answering answered) := by
  have only : OnlySession session status next.store := standing.only.served served
  have stays : enteredBy session.sessionId run.runtime next = [] := by
    rw [enteredBy, only.statusOf, standing.only.statusOf, if_pos rfl]
  have events : next.announced = run.runtime.announced := by
    rw [served.store]
    rfl
  have batches : next.submitted = run.runtime.submitted := by
    rw [served.store]
    rfl
  have logged : loggedCredits next.store session.sessionId =
      answeredCredits session (run.answered ++ answered) := by
    rw [served.logged, standing.logged, answeredCredits, answeredCredits, answeredCredits,
      List.filter_append, List.map_append]
  have entered : run.entered ++ enteredBy session.sessionId run.runtime next = reached status := by
    rw [stays, List.append_nil]
    exact standing.entered
  by_cases finished : status = .closed
  · have same : credits session (run.answered ++ answered) = credits session run.answered :=
      credits_append_dead (served.dead (by rw [finished]; rfl))
    refine ⟨only, standing.unarchived, logged, entered, ?_, ?_, ?_⟩
    · show next.announced = _ 
      rw [events, standing.announced]
      show _ = (reached status).flatMap (news (credits session (run.answered ++ answered)).length)
      rw [same]
    · show next.submitted = if status = .closed then [credits session (run.answered ++ answered)]
        else []
      rw [batches, same]
      exact standing.submitted
    · show ∀ outcome ∈ run.finalized, status = .closed ∧
        outcome.attendeeCount = (credits session (run.answered ++ answered)).length
      rw [same]
      exact standing.finalized
  · have uncounted (before after : Nat) :
        (reached status).flatMap (news before) = (reached status).flatMap (news after) := by
      have unarchived := standing.unarchived
      cases status <;> first | rfl | contradiction
    refine ⟨only, standing.unarchived, logged, entered, ?_, ?_, ?_⟩
    · exact events.trans (standing.announced.trans (uncounted _ _))
    · show next.submitted = if status = .closed then [credits session (run.answered ++ answered)]
        else []
      rw [batches, standing.submitted, if_neg finished, if_neg finished]
    · intro outcome member
      exact absurd (standing.finalized outcome member).1 finished

/-- A call that leaves the runtime alone keeps the standing. -/
theorem Standing.stay (standing : Standing session status run) :
    Standing session status (run.moved session.sessionId run.runtime) := by
  have stays : run.moved session.sessionId run.runtime = run := by
    rw [PlayRun.moved, enteredBy, if_pos rfl, List.append_nil]
  rw [stays]
  exact standing

/-- A legal transition to a state of the run takes the standing there. -/
theorem Standing.shift {target : SessionStatus} (standing : Standing session status run)
    (next : Runtime) (outcomes : List CloseOutcome) (legal : target ∈ validTransitions status)
    (onward : target = .open ∨ target = .closing ∨ target = .closed)
    (only : OnlySession session target next.store)
    (log : next.store.participations = run.runtime.store.participations)
    (announced : next.announced =
      run.runtime.announced ++ news (credits session run.answered).length target)
    (submitted : next.submitted = run.runtime.submitted ++
      if target = .closed then [credits session run.answered] else [])
    (counted : ∀ outcome ∈ outcomes, target = .closed ∧
      outcome.attendeeCount = (credits session run.answered).length) :
    Standing session target ((run.moved session.sessionId next).finalizing outcomes) := by
  have earlier : status ≠ .closed ∧ target ≠ .archived ∧ target ≠ status ∧
      reached target = reached status ++ [target] := by
    rcases onward with rfl | rfl | rfl <;> revert legal <;> cases status <;> decide
  obtain ⟨unfinished, unarchived, moved, path⟩ := earlier
  have enters : enteredBy session.sessionId run.runtime next = [target] := by
    rw [enteredBy, only.statusOf, standing.only.statusOf,
      if_neg fun same => moved (Option.some.inj same)]
    rfl
  refine ⟨only, unarchived, ?_, ?_, ?_, ?_, ?_⟩
  · show loggedCredits next.store session.sessionId = _
    rw [loggedCredits, log]
    exact standing.logged
  · show run.entered ++ enteredBy session.sessionId run.runtime next = _
    rw [enters, standing.entered, path]
  · show next.announced = _
    rw [announced, standing.announced, path, List.flatMap_append, List.flatMap_singleton]
    rfl
  · show next.submitted = _
    rw [submitted, standing.submitted, if_neg unfinished, List.nil_append]
    rfl
  · intro outcome member
    rcases List.mem_append.mp member with old | new
    · exact absurd (standing.finalized outcome old).1 unfinished
    · exact counted outcome new

/-- A transition that validates is a legal one. -/
theorem validateStateTransition_ok {source target : SessionStatus}
    (valid : validateStateTransition source target = .ok ()) : target ∈ validTransitions source := by
  rw [validateStateTransition] at valid
  split at valid
  · assumption
  · cases valid

/-- A store whose session was stamped still knows that session only. -/
theorem OnlySession.shifted {runtime : Runtime} (only : OnlySession session status runtime.store)
    (openAt closeAt : Option Rat) (target : SessionStatus) (ts : Rat) :
    OnlySession session target (runtime.shifted session.sessionId
      (session.staged status openAt closeAt) target ts).store := by
  constructor
  · exact ⟨_, _, InMemory.withSession_sessions_self ..⟩
  · intro other different
    rw [← only.alone other different]
    exact InMemory.withSession_sessions_of_ne _ _ different

variable (settings : Settings) (answer : BulkAnswer)

/-- A run without more outcomes. -/
theorem PlayRun.finalizing_nil (run : PlayRun) : run.finalizing [] = run := by
  rw [PlayRun.finalizing, List.append_nil]

/-- An open keeps a standing. -/
theorem Standing.openSession (standing : Standing session status run) (time : Rat) (id : String)
    (now : Option Rat) : ∃ later, Standing session later
      (run.perform settings answer session.sessionId (.openSession time id now)) := by
  rw [PlayRun.perform, Exec.after]
  by_cases here : id = session.sessionId
  · obtain ⟨openAt, closeAt, stored⟩ := standing.only.stored
    rw [here, openSession_run stored]
    cases valid : validateStateTransition (session.staged status openAt closeAt).status .open with
    | error raised => exact ⟨status, standing.stay⟩
    | ok _ =>
      have shifted := standing.shift ((run.runtime.shifted session.sessionId
          (session.staged status openAt closeAt) .open (now.getD time)).publish (openedEvent
            (InMemory.stamped (session.staged status openAt closeAt) .open (now.getD time)))) []
        (validateStateTransition_ok valid) (.inl rfl)
        (standing.only.shifted openAt closeAt .open (now.getD time)) rfl (by
          rw [← news_opened (InMemory.stamped (session.staged status openAt closeAt) .open
            (now.getD time))]
          exact List.map_append) (List.append_nil _).symm (by rintro _ ⟨⟩)
      rw [PlayRun.finalizing_nil] at shifted
      exact ⟨.open, shifted⟩
  · have raises : (steadyService settings answer time).openSession id now run.runtime = _ :=
      unknown_run (standing.only.alone id here) _
    rw [raises]
    exact ⟨status, standing.stay⟩

/-- A close keeps a standing. -/
theorem Standing.closeSession (standing : Standing session status run) (time : Rat) (id : String)
    (now : Option Rat) : ∃ later, Standing session later
      (run.perform settings answer session.sessionId (.closeSession time id now)) := by
  rw [PlayRun.perform, Exec.after]
  by_cases here : id = session.sessionId
  · obtain ⟨openAt, closeAt, stored⟩ := standing.only.stored
    rw [here, closeSession_run stored]
    cases valid : validateStateTransition (session.staged status openAt closeAt).status
        .closing with
    | error raised => exact ⟨status, standing.stay⟩
    | ok _ =>
      have only := standing.only.shifted openAt closeAt .closing (now.getD time)
      have shifted := standing.shift ((run.runtime.shifted session.sessionId
          (session.staged status openAt closeAt) .closing (now.getD time)).scheduled
            session.sessionId settings.graceSeconds) []
        (validateStateTransition_ok valid) (.inr (.inl rfl)) ⟨only.stored, only.alone⟩ rfl
        (List.append_nil _).symm (List.append_nil _).symm (by rintro _ ⟨⟩)
      rw [PlayRun.finalizing_nil] at shifted
      exact ⟨.closing, shifted⟩
  · have raises : (steadyService settings answer time).closeSession id now run.runtime = _ :=
      unknown_run (standing.only.alone id here) _
    rw [raises]
    exact ⟨status, standing.stay⟩

/-- A finalize keeps a standing. -/
theorem Standing.finalizeClose (standing : Standing session status run) (time : Rat)
    (id : String) : ∃ later, Standing session later
      (run.perform settings answer session.sessionId (.finalizeClose time id)) := by
  have projected := projection_eq_credits standing.logged
  rw [PlayRun.perform, Exec.after]
  by_cases here : id = session.sessionId
  · obtain ⟨openAt, closeAt, stored⟩ := standing.only.stored
    rw [here, finalizeClose_run stored]
    by_cases finished : (session.staged status openAt closeAt).status = .closed
    · rw [if_pos finished]
      refine ⟨status, ?_⟩
      have stays := standing.stay
      refine ⟨stays.only, stays.unarchived, stays.logged, stays.entered, stays.announced,
        stays.submitted, fun outcome member => ?_⟩
      rcases List.mem_append.mp member with old | new
      · exact standing.finalized outcome old
      · rw [List.mem_singleton.mp new]
        refine ⟨finished, ?_⟩
        show (inWindowAttendees (run.runtime.store.participations session.sessionId)).length =
          (credits session run.answered).length
        rw [← projected, projection, List.length_map]
    · rw [if_neg finished]
      cases valid : validateStateTransition (session.staged status openAt closeAt).status
          .closed with
      | error raised =>
        refine ⟨status, ?_⟩
        show Standing session status ((run.moved session.sessionId run.runtime).finalizing [])
        rw [PlayRun.finalizing_nil]
        exact standing.stay
      | ok _ =>
        refine ⟨.closed, standing.shift _ _ (validateStateTransition_ok valid)
          (.inr (.inr rfl)) (standing.only.shifted openAt closeAt .closed time) rfl ?_ ?_ ?_⟩
        · rw [← projected, ← news_closed (InMemory.stamped (session.staged status openAt closeAt)
            .closed time)]
          exact List.map_append
        · rw [if_pos rfl, ← projected]
          rfl
        · intro outcome member
          rw [List.mem_singleton.mp member, ← projected]
          exact ⟨rfl, rfl⟩
  · have raises : (steadyService settings answer time).finalizeClose id run.runtime = _ :=
      unknown_run (standing.only.alone id here) _
    rw [raises]
    refine ⟨status, ?_⟩
    show Standing session status ((run.moved session.sessionId run.runtime).finalizing [])
    rw [PlayRun.finalizing_nil]
    exact standing.stay

/-- A join keeps a standing. -/
theorem Standing.join (standing : Standing session status run) (time : Rat) (id : String)
    (memberId : Option String) (deviceFingerprint : String) :
    Standing session status (run.perform settings answer session.sessionId
      (.join time id memberId deviceFingerprint)) := by
  have joined : (steadyService settings answer time).join time id memberId deviceFingerprint
      run.runtime = _ := join_run settings time id memberId deviceFingerprint run.runtime
  rw [PlayRun.perform, Exec.after, joined]
  cases ticketFor settings time id memberId deviceFingerprint run.runtime.store with
  | error raised => exact standing.stay
  | ok ticket => exact standing.stay

/-- Every call keeps a standing. -/
theorem Standing.perform (standing : Standing session status run) (call : Play) :
    ∃ later, Standing session later (run.perform settings answer session.sessionId call) := by
  cases call with
  | openSession time id now => exact standing.openSession settings answer time id now
  | join time id memberId deviceFingerprint =>
    exact ⟨status, standing.join settings answer time id memberId deviceFingerprint⟩
  | participate time request =>
    exact ⟨status, standing.serve (participate_served settings answer time request standing.only)⟩
  | bulkParticipate time requests =>
    exact ⟨status, standing.serve
      (bulkParticipate_served settings answer time requests standing.only)⟩
  | closeSession time id now => exact standing.closeSession settings answer time id now
  | finalizeClose time id => exact standing.finalizeClose settings answer time id

end Steps

/-- A runtime whose one session has not been opened yet. -/
structure Unopened (session : EngagementSession) (runtime : Runtime) : Prop where
  /-- The session is a draft or scheduled. -/
  waiting : session.status = .draft ∨ session.status = .scheduled
  /-- It is stored. -/
  stored : runtime.store.sessions session.sessionId = some session
  /-- No other is. -/
  alone : ∀ other, other ≠ session.sessionId → runtime.store.sessions other = none
  /-- It has no participations. -/
  unlogged : runtime.store.participations session.sessionId = []
  /-- No batch was handed over. -/
  unsubmitted : runtime.submitted = []
  /-- No event was published. -/
  unpublished : runtime.publishedEvents = []

/-- What a run has made of its session. -/
structure RunSound (session : EngagementSession) (run : PlayRun) : Prop where
  /-- The states are entered once each and in order. -/
  ordered : run.entered <+: [.open, .closing, .closed]
  /-- That the session is open is published at most once. -/
  openedOnce : (run.runtime.publishedEvents.map (·.name)).count Events.engagementSessionOpened ≤ 1
  /-- That it is closed is published at most once. -/
  closedOnce : (run.runtime.publishedEvents.map (·.name)).count Events.engagementSessionClosed ≤ 1
  /-- A session that was closed has handed over one batch, any other none. -/
  submitted : run.runtime.submitted =
    if .closed ∈ run.entered then [credits session run.answered] else []
  /-- The published count is that of the batch. -/
  counted : ∀ event ∈ run.runtime.publishedEvents, event.name = Events.engagementSessionClosed →
    event.payload.lookup "count" = some (.int (credits session run.answered).length)
  /-- So is the returned one. -/
  returned : ∀ outcome ∈ run.finalized,
    outcome.attendeeCount = (credits session run.answered).length

/-- The accepted requests of a run. -/
def PlayRun.accepted (run : PlayRun) : List (ParticipateRequest × ParticipationReceipt) :=
  run.answered.filter (·.2.accepted)

section Runs

variable {session : EngagementSession} {status : SessionStatus} {run : PlayRun}

/-- A run in standing is sound. -/
theorem Standing.sound (standing : Standing session status run) : RunSound session run := by
  have unarchived := standing.unarchived
  have names : run.runtime.publishedEvents.map (·.name) =
      ((reached status).flatMap (news (credits session run.answered).length)).map Prod.fst := by
    rw [← standing.announced, Runtime.announced, List.map_map]
    rfl
  refine ⟨?_, ?_, ?_, ?_, ?_, fun outcome member => (standing.finalized outcome member).2⟩
  · rw [standing.entered]
    revert unarchived
    cases status <;> decide
  · rw [names]
    revert unarchived
    cases status <;> simp [reached, news, Events.engagementSessionOpened,
      Events.engagementSessionClosed]
  · rw [names]
    revert unarchived
    cases status <;> simp [reached, news, Events.engagementSessionOpened,
      Events.engagementSessionClosed]
  · have closed : .closed ∈ run.entered ↔ status = .closed := by
      rw [standing.entered]
      revert unarchived
      cases status <;> decide
    simp only [closed]
    exact standing.submitted
  · intro event member named
    have announced : (event.name, event.payload.lookup "count") ∈ run.runtime.announced :=
      List.mem_map_of_mem member
    rw [standing.announced, named] at announced
    revert announced
    cases status <;> simp [reached, news, Events.engagementSessionOpened,
      Events.engagementSessionClosed]

/-- A closed session in standing accepts nothing more. -/
theorem Standing.refuses (standing : Standing session status run) (settings : Settings)
    (answer : BulkAnswer) (call : Play) (closed : .closed ∈ run.entered) :
    (run.perform settings answer session.sessionId call).accepted = run.accepted := by
  have stopped : status.isLive = false := by
    rw [standing.entered] at closed
    revert closed
    cases status <;> decide
  have grown {answered : List (ParticipateRequest × ParticipationReceipt)} {next : Runtime}
      (served : Served session status.isLive run.runtime next answered) :
      (run.answered ++ answered).filter (·.2.accepted) = run.accepted := by
    have none : answered.filter (·.2.accepted) = [] := by
      rw [List.filter_eq_nil_iff]
      intro pair member
      rw [served.dead stopped pair member]
      exact Bool.false_ne_true
    rw [List.filter_append, none, List.append_nil]
    rfl
  cases call with
  | participate time request =>
    exact grown (participate_served settings answer time request standing.only)
  | bulkParticipate time requests =>
    exact grown (bulkParticipate_served settings answer time requests standing.only)
  | openSession | join | closeSession | finalizeClose => rfl

/-- A session that has not been opened yet stands at the start of its run. -/
theorem Unopened.standing {runtime : Runtime} (unopened : Unopened session runtime) :
    Standing session session.status { runtime := runtime } := by
  have bare : reached session.status = [] := by
    rcases unopened.waiting with same | same <;> rw [same] <;> rfl
  refine ⟨⟨⟨session.openAt, session.closeAt, unopened.stored⟩, unopened.alone⟩, ?_, ?_, ?_, ?_, ?_,
    nofun⟩
  · rcases unopened.waiting with same | same <;> rw [same] <;> decide
  · rw [loggedCredits, unopened.unlogged]
    rfl
  · exact bare.symm
  · rw [bare, Runtime.announced, unopened.unpublished]
    rfl
  · rcases unopened.waiting with same | same <;> rw [unopened.unsubmitted, same] <;> rfl

/-- Every run of calls on a session that has not been opened yet is sound, and accepts nothing
once the session was closed. -/
theorem engagement_run_invariant (settings : Settings) (answer : BulkAnswer)
    (session : EngagementSession) (runtime : Runtime) (calls : List Play)
    (unopened : Unopened session runtime) :
    RunSound session (runAll (PlayRun.perform settings answer session.sessionId)
      { runtime := runtime } calls) ∧
    EveryCall (PlayRun.perform settings answer session.sessionId) (fun run call =>
      .closed ∈ run.entered →
        (run.perform settings answer session.sessionId call).accepted = run.accepted)
      { runtime := runtime } calls := by
  have kept (run : PlayRun) (call : Play) (held : ∃ status, Standing session status run) :
      ∃ status, Standing session status (run.perform settings answer session.sessionId call) := by
    have ⟨_, standing⟩ := held
    exact standing.perform settings answer call
  have initial : ∃ status, Standing session status { runtime := runtime } :=
    ⟨session.status, unopened.standing⟩
  constructor
  · have ⟨_, standing⟩ := runAll_invariant _ kept calls _ initial
    exact standing.sound
  · have free : EveryCall (PlayRun.perform settings answer session.sessionId)
        (fun _ _ => True) { runtime := runtime } calls :=
      everyCall_of_forall _ fun _ _ => trivial
    refine free.conclude (fun run => ∃ status, Standing session status run)
      (fun run call held _ => kept run call held) ?_ initial
    intro run call held _ closed
    have ⟨_, standing⟩ := held
    exact standing.refuses settings answer call closed

end Runs

/-- The game night of the camp, as a draft. -/
def draftNight : EngagementSession :=
  (campSession "ENG-1").staged .draft none none

/-- A runtime with the game night only. -/
def draftRuntime : Runtime where
  store :=
    { sessions := fun sessionId => if sessionId = "ENG-1" then some draftNight else none }

/-- A bulk service that inserts every item. -/
def insertsAll : BulkAnswer := fun _ _ items scope batchId =>
  ⟨batchId, scope, true, items.length, 0, [], []⟩

/-- Ann takes part, replays her nonce in the grace, and comes back after the night is closed. -/
def nightCalls : List Play :=
  [.openSession 90 "ENG-1" none, .join 100 "ENG-1" (some "ann") "phone",
    .participate 101 (annRequest "ENG-1"), .closeSession 200 "ENG-1" none,
    .bulkParticipate 210 [annRequest "ENG-1"], .finalizeClose 230 "ENG-1",
    .participate 240 (annRequest "ENG-1"), .finalizeClose 250 "ENG-1"]

/-- Ann is credited once. -/
example : (runAll (PlayRun.perform sampleSettings insertsAll "ENG-1") { runtime := draftRuntime }
    nightCalls).runtime.submitted = [[creditOf draftNight (annRequest "ENG-1")]] := by
  decide +kernel

/-- The game night is sound. -/
theorem nightCalls_sound :
    RunSound draftNight (runAll (PlayRun.perform sampleSettings insertsAll "ENG-1")
      { runtime := draftRuntime } nightCalls) ∧
    EveryCall (PlayRun.perform sampleSettings insertsAll "ENG-1") (fun run call =>
      .closed ∈ run.entered →
        (run.perform sampleSettings insertsAll "ENG-1" call).accepted = run.accepted)
      { runtime := draftRuntime } nightCalls :=
  engagement_run_invariant sampleSettings insertsAll draftNight draftRuntime nightCalls
    ⟨.inl rfl, rfl, fun _ different => if_neg different, rfl, rfl, rfl⟩

end FlockOs.Engagement
