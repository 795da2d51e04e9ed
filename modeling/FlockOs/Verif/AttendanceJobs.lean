import FlockOs.AttendanceJobs

/-!
# How a failing batch ends

A `submit` that raises leaves the site as `seed_aggregate` left it, and a later one starts with
the same seed; so however often it was tried, the `submit` that returns is the one that would
have returned without faults. The attempts count down to the dead letter: a batch in the queue
has been executed as often as its mark says.
-/

namespace FlockOs.AttendanceJobs

open Lib Reporting EngagementFrappe

/-- A site with its tables, of which nothing is uncommitted. -/
def opened (tables : Tables) : Site where
  committed := tables
  working := tables

/-- The events of a batch. -/
def eventsOf (batch : BatchPayload) : List String :=
  ((batch.items.map (·.toItem)).map (·.event)).eraseDups

/-- The site after `seed_aggregate`. -/
def seeded (batch : BatchPayload) (site : Site) : Site :=
  if (eventsOf batch).isEmpty then site
  else (site.withWorking (site.working.seed batch.scopeBranch (eventsOf batch))).commit

/-- Nothing is uncommitted. -/
def Settled (site : Site) : Prop := site.working = site.committed

/-- A rollback would lead to the given site. -/
def Pending (start site : Site) : Prop := site.rollback = start

/-- Nothing is uncommitted of an opened site. -/
theorem opened_settled (tables : Tables) : Settled (opened tables) := rfl

/-- A settled site is where a rollback leads, and a commit changes nothing of it. -/
theorem Settled.pending {site : Site} (settled : Settled site) :
    Pending site site ∧ site.commit = site := by
  cases site with
  | mk committed working log nonceSeen publishedEvents =>
    have same : working = committed := settled
    rw [same]
    exact ⟨rfl, rfl⟩

/-- Seeding leaves a settled site settled. -/
theorem Settled.seeded {site : Site} (settled : Settled site) (batch : BatchPayload) :
    Settled (seeded batch site) := by
  unfold AttendanceJobs.seeded
  split
  · exact settled
  · rfl

/-- Summary rows that are there are not seeded again. -/
theorem seed_seed (tables : Tables) (branch : String) (events : List String) :
    (tables.seed branch events).seed branch events = tables.seed branch events := by
  have same : ((tables.seed branch events).seed branch events).summaries =
      (tables.seed branch events).summaries := by
    funext key
    simp only [Tables.seed]
    split
    · cases tables.summaries key <;> rfl
    · rfl
  exact congrArg (fun summaries => ({ tables with summaries := summaries } : Tables)) same

/-- Seeding twice is seeding once. -/
theorem seeded_seeded (batch : BatchPayload) (site : Site) :
    seeded batch (seeded batch site) = seeded batch site := by
  unfold seeded
  split
  · rfl
  · show ((_ : Site).withWorking (Tables.seed (Tables.seed _ _ _) _ _)).commit = _
    rw [seed_seed]
    rfl

/-- Seeding changes no row and no count. -/
theorem seeded_same (batch : BatchPayload) (tables : Tables) :
    (seeded batch (opened tables)).committed.attendance = tables.attendance ∧
      ∀ branch event, aggregate (seeded batch (opened tables)).committed branch event =
        aggregate tables branch event := by
  unfold seeded
  split
  · exact ⟨rfl, fun _ _ => rfl⟩
  · refine ⟨rfl, fun branch event => ?_⟩
    show (if _ then (tables.summaries (branch, event)).or (some 0) else _ : Option Nat).getD 0 = _
    unfold aggregate
    split
    · cases tables.summaries (branch, event) <;> rfl
    · rfl

/-- `seed_aggregate` leaves the seeded site. -/
theorem seedAggregate_run (batch : BatchPayload) (start : Planned Site) :
    seedAggregate ⟨batch.scopeBranch⟩ (eventsOf batch) start =
      .ok ⟨⟩ ⟨start.faults, seeded batch start.state⟩ := by
  unfold seedAggregate seeded
  split <;> rfl

section Writes

variable {fault : Error} {start : Site}

/-- A statement that writes working tables at most can be rolled back. -/
theorem statement_pending {α : Type} {act : Exec Error Site α} {returned : α → Prop}
    (writes : ∀ site, match act site with
      | .ok value next => next.rollback = site.rollback ∧ returned value
      | .error _ next => next.rollback = site.rollback) :
    Exec.Triple (Pending start) (statement fault act) (Pending start)
      fun value site => Pending start site ∧ returned value := by
  unfold statement
  apply Exec.Triple.attempt
  · intro site pending
    have wrote := writes site
    cases outcome : act site with
    | ok value next =>
      rw [outcome] at wrote
      exact ⟨wrote.1.trans pending, wrote.2⟩
    | error raised next =>
      rw [outcome] at wrote
      exact wrote.trans pending
  · exact fun _ pending => pending

/-- The insert statement writes working tables at most. -/
theorem insertStatement_pending (rows : List AttendanceItem) :
    Exec.Triple (Pending start) (statement fault (insertStatement rows)) (Pending start)
      fun _ site => Pending start site ∧ True := by
  apply statement_pending
  intro site
  have ran : insertStatement rows site =
      ((Exec.ofExcept (insertRows site.working.attendance rows) : Exec Error Site _) >>=
        fun attendance =>
          set (site.withWorking { site.working with attendance := attendance })) site := rfl
  rw [ran]
  cases insertRows site.working.attendance rows with
  | error raised => exact rfl
  | ok attendance => exact ⟨rfl, trivial⟩

/-- The block of `submit` under `transaction()` can be rolled back wherever it is, and emits
only recorded batches. -/
theorem writeNew_pending (fault : Error) (items : List AttendanceItem) (scope : AttendanceScope)
    (batchId : String) :
    Exec.Triple (Pending start) (writeNew (bulkGateway fault) items scope batchId)
      (Pending start) fun value site => Pending start site ∧
        ∀ event ∈ value.2.2, event.name = Events.attendanceBulkRecorded ∧ event.scope = [] := by
  have filters : Exec.Triple (Pending start)
      (filterUnseen fault (items.map (·.idempotencyKey))) (Pending start)
      fun _ => Pending start := by
    unfold filterUnseen
    split
    · exact .pure _ fun _ pending => pending
    · have reads : Exec.Triple (Pending start) (statement fault get) (Pending start)
          fun _ site => Pending start site ∧ True :=
        statement_pending fun site => ⟨rfl, trivial⟩
      exact reads.bind fun _ => .pure _ fun _ held => held.1
  have inserts (rows : List AttendanceItem) : Exec.Triple (Pending start)
      (bulkInsert fault rows) (Pending start) fun _ => Pending start := by
    unfold bulkInsert
    split
    · exact .pure _ fun _ pending => pending
    · exact (insertStatement_pending _).bind fun _ => .pure _ fun _ held => held.1
  have increments (entry : String × Nat) : Exec.Triple (Pending start)
      (incrementAggregate fault scope entry.1 entry.2) (Pending start) fun _ => Pending start := by
    have writes : Exec.Triple (Pending start) (incrementAggregate fault scope entry.1 entry.2)
        (Pending start) fun _ site => Pending start site ∧ True :=
      statement_pending fun site => ⟨rfl, trivial⟩
    exact writes.imp (fun _ held => held) (fun _ held => held) fun _ _ held => held.1
  unfold writeNew
  apply filters.bind
  intro unseenKeys
  dsimp only
  split
  · exact .pure _ fun _ pending => ⟨pending, fun event member => nomatch member⟩
  · apply (inserts _).bind
    intro inserted
    apply (Exec.Triple.forM increments _).bind
    intro _
    apply Exec.Triple.pure
    intro site pending
    refine ⟨pending, fun event member => ?_⟩
    obtain ⟨entry, _, same⟩ := List.mem_map.mp member
    rw [← same]
    exact ⟨rfl, rfl⟩

/-- `transaction()` leaves a settled site where its block raised, and a committed one where it
returned. -/
theorem transaction_triple {α : Type} {body : Request α} {emitted : α → Prop}
    (settled : Settled start)
    (writes : Exec.Triple (Pending start) body (Pending start)
      fun value site => Pending start site ∧ emitted value) :
    Exec.Triple (· = start) (transaction body) (· = start) fun value site =>
      Settled site ∧ site.publishedEvents = start.publishedEvents ∧ emitted value := by
  have undoes (raised : Error) : Exec.Triple (Pending start)
      (do change Site.rollback; throw raised : Request α) (· = start)
      fun value site => Pending start site ∧ emitted value := by
    have rolls : Exec.Triple (Pending start) (change Site.rollback) (· = start)
        fun _ => (· = start) :=
      .surely fun _ pending => pending
    exact rolls.bind fun _ => .throw raised fun _ held => held
  have opens : Exec.Triple (· = start) (change Site.commit) (· = start)
      fun _ => Pending start := by
    apply Exec.Triple.surely
    rintro _ rfl
    show Pending _ (Site.commit _)
    rw [settled.pending.2]
    exact settled.pending.1
  unfold transaction
  apply opens.bind
  intro _
  unfold underRollback
  apply Exec.Triple.tryFinally (writes.tryCatch undoes)
  · intro value
    apply Exec.Triple.surely
    intro site held
    have same : site.rollback.publishedEvents = start.publishedEvents :=
      congrArg Site.publishedEvents held.1
    exact ⟨rfl, same, held.2⟩
  · apply Exec.Triple.surely
    rintro _ rfl
    exact settled.pending.2

end Writes

/-- A call of `submit` that returned with an outcome. -/
structure Submitted (start : Site) (outcome : BulkBatchOutcome) (site : Site) : Prop where
  /-- Nothing is uncommitted. -/
  settled : Settled site
  /-- The events of the outcome are published. -/
  published : site.publishedEvents = start.publishedEvents ++ outcome.events
  /-- None of them tells of a failed import. -/
  named : ∀ event ∈ outcome.events, event.name ≠ Events.attendanceImportFailed

/-- Some item of the batch is out of its scope. -/
def outOfScope (batch : BatchPayload) : Bool :=
  (batch.items.map (·.toItem)).any fun item => item.branch ≠ batch.scopeBranch

/-- The outcome of a batch out of scope. -/
def rejection (batch : BatchPayload) : BulkBatchOutcome :=
  let event := batchRejected (batch.items.map (·.toItem)) ⟨batch.scopeBranch⟩ batch.batchId
  ⟨batch.batchId, ⟨batch.scopeBranch⟩, false, 0, 0,
    (batch.items.map (·.toItem)).mapIdx fun index item =>
      ⟨index, item.attendeeRef, "batch_scope_violation"⟩, [event]⟩

/-- What `submit` does after `transaction()`: it announces what was written. -/
def announce (fault : Error) (batch : BatchPayload) :
    Nat × Nat × List DomainEvent → Request BulkBatchOutcome
  | (inserted, deduplicated, events) => do
    events.forM (bulkGateway fault).emit
    pure ⟨batch.batchId, ⟨batch.scopeBranch⟩, true, inserted, deduplicated, [], events⟩

/-- A batch out of scope is rejected whatever the plan. -/
theorem submitBatch_outOfScope {batch : BatchPayload} (outside : outOfScope batch = true)
    (plan : SubmitPlan) (site : Site) :
    submitBatch batch plan site = .ok (rejection batch) ⟨plan.faults, site.publish
      (batchRejected (batch.items.map (·.toItem)) ⟨batch.scopeBranch⟩ batch.batchId)⟩ := by
  have rejects : submit (bulkGateway plan.fault) (batch.items.map (·.toItem))
      ⟨batch.scopeBranch⟩ batch.batchId = _ := if_pos outside
  unfold submitBatch
  rw [rejects]
  rfl

/-- A batch in scope is seeded, written and announced. -/
theorem submitBatch_inScope {batch : BatchPayload} (inside : outOfScope batch = false)
    (plan : SubmitPlan) (site : Site) :
    submitBatch batch plan site =
      (transaction (writeNew (bulkGateway plan.fault) (batch.items.map (·.toItem))
        ⟨batch.scopeBranch⟩ batch.batchId) >>= announce plan.fault batch)
      ⟨plan.faults, seeded batch site⟩ := by
  have works : submit (bulkGateway plan.fault) (batch.items.map (·.toItem))
      ⟨batch.scopeBranch⟩ batch.batchId = _ :=
    if_neg (by rw [← Bool.not_eq_true] at inside; exact inside)
  unfold submitBatch
  rw [works]
  exact Exec.bind_run_ok (seedAggregate_run batch ⟨plan.faults, site⟩) _

/-- The gateway publishes events one after the other. -/
theorem emitAll_run (fault : Error) (events : List DomainEvent)
    (plain : ∀ event ∈ events, event.scope = []) (start : Planned Site) :
    events.forM (bulkGateway fault).emit start = .ok ⟨⟩ ⟨start.faults,
      { start.state with publishedEvents := start.state.publishedEvents ++ events }⟩ := by
  induction events generalizing start with
  | nil =>
    rw [List.append_nil]
    rfl
  | cons event rest ih =>
    have same : (⟨event.name, event.payload, []⟩ : DomainEvent) = event := by
      rw [← plain event List.mem_cons_self]
    have emitted : (bulkGateway fault).emit event start =
        .ok ⟨⟩ ⟨start.faults, start.state.publish event⟩ := by
      rw [← same]
      rfl
    have others := ih (fun other member => plain other (List.mem_cons_of_mem _ member))
      ⟨start.faults, start.state.publish event⟩
    show ((bulkGateway fault).emit event >>= fun _ =>
      rest.forM (bulkGateway fault).emit : Request PUnit) start = _
    rw [Exec.bind_run_ok emitted, others]
    simp [Site.publish]

/-- A call of `submit` on a settled site returns, or leaves the seeded site of a batch that is in
scope. -/
theorem submitBatch_ends (batch : BatchPayload) (plan : SubmitPlan) {site : Site}
    (settled : Settled site) :
    Exec.EndsWith (fun last => last = seeded batch site ∧ outOfScope batch = false)
      (Submitted site) (submitBatch batch plan site) := by
  by_cases outside : outOfScope batch = true
  · rw [submitBatch_outOfScope outside]
    refine ⟨settled, rfl, fun event member => ?_⟩
    rw [List.mem_singleton.mp member]
    show Events.attendanceBatchRejected ≠ Events.attendanceImportFailed
    decide
  · have inside := (Bool.not_eq_true _).mp outside
    rw [submitBatch_inScope inside]
    have published : (seeded batch site).publishedEvents = site.publishedEvents := by
      unfold seeded
      split <;> rfl
    have announces (value : Nat × Nat × List DomainEvent) : Exec.Triple
        (fun last => Settled last ∧
          last.publishedEvents = (seeded batch site).publishedEvents ∧
          ∀ event ∈ value.2.2, event.name = Events.attendanceBulkRecorded ∧ event.scope = [])
        (announce plan.fault batch value)
        (fun last => last = seeded batch site ∧ outOfScope batch = false) (Submitted site) := by
      intro start ⟨committed, quiet, named⟩
      have emitted := emitAll_run plan.fault value.2.2
        (fun event member => (named event member).2) start
      show Exec.EndsWith _ _ ((value.2.2.forM (bulkGateway plan.fault).emit >>= fun _ =>
        pure _ : Request BulkBatchOutcome) start)
      rw [Exec.bind_run_ok emitted]
      refine ⟨committed, ?_, fun event member => ?_⟩
      · show start.state.publishedEvents ++ value.2.2 = site.publishedEvents ++ value.2.2
        rw [quiet, published]
      · rw [(named event member).1]
        decide
    have writes := transaction_triple (settled.seeded batch)
      (writeNew_pending plan.fault (batch.items.map (·.toItem)) ⟨batch.scopeBranch⟩ batch.batchId)
    have fails : ∀ last, last = seeded batch site →
        last = seeded batch site ∧ outOfScope batch = false :=
      fun _ same => ⟨same, inside⟩
    have written := writes.imp (fun _ held => held) fails fun _ _ held => held
    exact (written.bind announces) ⟨plan.faults, seeded batch site⟩ rfl

/-- A batch in scope starts from the seeded site as it did before. -/
theorem submitBatch_seeded {batch : BatchPayload} (inside : outOfScope batch = false)
    (plan : SubmitPlan) (site : Site) :
    submitBatch batch plan (seeded batch site) = submitBatch batch plan site := by
  rw [submitBatch_inScope inside, submitBatch_inScope inside, seeded_seeded]

/-- The block under `transaction()` that returns does so without faults. -/
theorem writeNew_calmed (fault other : Error) (items : List AttendanceItem)
    (scope : AttendanceScope) (batchId : String) :
    Exec.CalmedBy (writeNew (bulkGateway fault) items scope batchId)
      (writeNew (bulkGateway other) items scope batchId) := by
  have filters (keys : List IdempotencyKey) :
      Exec.CalmedBy (filterUnseen fault keys) (filterUnseen other keys) := by
    unfold filterUnseen
    split
    · exact .pure _
    · exact .bind (.attempt other _) fun _ => .pure _
  have inserts (rows : List AttendanceItem) :
      Exec.CalmedBy (bulkInsert fault rows) (bulkInsert other rows) := by
    unfold bulkInsert
    split
    · exact .pure _
    · exact .bind (.attempt other _) fun _ => .pure _
  have increments (entry : String × Nat) :
      Exec.CalmedBy (incrementAggregate fault scope entry.1 entry.2)
        (incrementAggregate other scope entry.1 entry.2) := by
    unfold incrementAggregate statement
    exact .attempt other _
  unfold writeNew
  apply (filters _).bind
  intro unseenKeys
  dsimp only
  split
  · exact .pure _
  · apply (inserts _).bind
    intro inserted
    exact (Exec.CalmedBy.forM increments _).bind fun _ => .pure _

/-- A call of `submit` that returns does the same without faults. -/
theorem submitBatch_calmed {batch : BatchPayload} {plan : SubmitPlan} {site : Site}
    {outcome : BulkBatchOutcome} {last : Planned Site}
    (returned : submitBatch batch plan site = .ok outcome last) :
    submitBatch batch {} site = .ok outcome ⟨[], last.state⟩ := by
  by_cases outside : outOfScope batch = true
  · rw [submitBatch_outOfScope outside] at returned ⊢
    cases returned
    rfl
  · have inside := (Bool.not_eq_true _).mp outside
    rw [submitBatch_inScope inside] at returned ⊢
    have writes := writeNew_calmed plan.fault .infrastructure (batch.items.map (·.toItem))
      ⟨batch.scopeBranch⟩ batch.batchId
    have guards : Exec.CalmedBy
        (transaction (writeNew (bulkGateway plan.fault) (batch.items.map (·.toItem))
          ⟨batch.scopeBranch⟩ batch.batchId))
        (transaction (writeNew (bulkGateway .infrastructure) (batch.items.map (·.toItem))
          ⟨batch.scopeBranch⟩ batch.batchId)) := by
      apply Exec.CalmedBy.bind (.surely _)
      intro _
      apply Exec.CalmedBy.tryFinally _ (.surely _)
      apply writes.tryCatch
      intro raised start value last returned
      cases returned
    have announces (value : Nat × Nat × List DomainEvent) :
        Exec.CalmedBy (announce plan.fault batch value)
          (announce .infrastructure batch value) := by
      have emits (event : DomainEvent) : Exec.CalmedBy ((bulkGateway plan.fault).emit event)
          ((bulkGateway .infrastructure).emit event) :=
        .surely (modify fun site : Site => site.publish ⟨event.name, event.payload, []⟩)
      obtain ⟨inserted, deduplicated, events⟩ := value
      exact (Exec.CalmedBy.forM emits events).bind fun _ => .pure _
    exact (guards.bind announces) _ _ _ returned

/-- The tables have not been written: the site is as it was found, or as a `submit` that raised
left it. -/
def Untried (batch : BatchPayload) (tables : Tables) (site : Site) : Prop :=
  site = opened tables ∨ site = seeded batch (opened tables) ∧ outOfScope batch = false

namespace Untried

variable {batch : BatchPayload} {tables : Tables} {site : Site}

/-- Nothing is uncommitted. -/
theorem settled (untried : Untried batch tables site) : Settled site := by
  rcases untried with rfl | ⟨rfl, _⟩
  · rfl
  · exact (opened_settled tables).seeded batch

/-- Rows and counts are those of the tables. -/
theorem same (untried : Untried batch tables site) :
    site.committed.attendance = tables.attendance ∧
      ∀ branch event, aggregate site.committed branch event = aggregate tables branch event := by
  rcases untried with rfl | ⟨rfl, _⟩
  · exact ⟨rfl, fun _ _ => rfl⟩
  · exact seeded_same batch tables

/-- No event was published. -/
theorem quiet (untried : Untried batch tables site) : site.publishedEvents = [] := by
  rcases untried with rfl | ⟨rfl, _⟩
  · rfl
  · unfold seeded
    split <;> rfl

/-- A call of `submit` is the one that would be made at first. -/
theorem submitBatch_eq (untried : Untried batch tables site) (plan : SubmitPlan) :
    submitBatch batch plan site = submitBatch batch plan (opened tables) := by
  rcases untried with rfl | ⟨rfl, inside⟩
  · rfl
  · exact submitBatch_seeded inside plan _

/-- A call of `submit` that raises leaves the tables unwritten. -/
theorem raised (untried : Untried batch tables site) {plan : SubmitPlan} {raised : Error}
    {last : Planned Site} (failed : submitBatch batch plan site = .error raised last) :
    Untried batch tables last.state := by
  rw [untried.submitBatch_eq] at failed
  have ended := submitBatch_ends batch plan (opened_settled tables)
  rw [failed] at ended
  exact Or.inr ended

/-- A call of `submit` that returns is the one without faults. -/
theorem returned (untried : Untried batch tables site) {plan : SubmitPlan}
    {outcome : BulkBatchOutcome} {last : Planned Site}
    (done : submitBatch batch plan site = .ok outcome last) :
    submitBatch batch {} (opened tables) = .ok outcome ⟨[], last.state⟩ := by
  rw [untried.submitBatch_eq] at done
  exact submitBatch_calmed done

end Untried

/-- The attempts of a job end with one that returns, or with the batch retried or dead-lettered
and the tables unwritten. -/
theorem submitInPlace_ends (plan : JobPlan) (payload : Payload) {tables : Tables} :
    ∀ (attempts : List Nat) (lastExc : Option Error) (backend : Backend),
      Untried payload.toBatchPayload tables backend.site →
      ∃ failures : List Error,
        (∃ outcome last, failures.length < attempts.length ∧
          submitBatch payload.toBatchPayload {} (opened tables) = .ok outcome last ∧
          submitInPlace plan payload attempts lastExc backend =
            (some outcome, { backend with
              site := last.state
              submits := backend.submits ++ (failures.map some ++ [none]) })) ∨
        (∃ site errorLog, failures.length ≤ attempts.length ∧
          Untried payload.toBatchPayload tables site ∧
          submitInPlace plan payload attempts lastExc backend =
            (none, deadletterOrRetry plan.now payload { backend with
              site := site
              errorLog := errorLog
              submits := backend.submits ++ failures.map some }))
  | [], lastExc, backend, untried => by
    refine ⟨[], Or.inr ⟨backend.site,
      backend.errorLog ++ [⟨persistenceExhausted payload.batchId, lastExc⟩], Nat.le_refl 0,
      untried, ?_⟩⟩
    rw [List.map_nil, List.append_nil]
    rfl
  | attempt :: rest, lastExc, backend, untried => by
    cases outcome : submitBatch payload.toBatchPayload (plan.attempts attempt) backend.site with
    | ok result last =>
      refine ⟨[], Or.inl ⟨result, ⟨[], last.state⟩, Nat.succ_pos _, untried.returned outcome, ?_⟩⟩
      unfold submitInPlace
      rw [outcome]
      rfl
    | error raised last =>
      have unwritten := untried.raised outcome
      by_cases transient : isRetryable raised = true
      · have again : submitInPlace plan payload (attempt :: rest) lastExc backend =
            submitInPlace plan payload rest (some raised)
              (backend.submitted (some raised) last.state) := by
          rw [submitInPlace, outcome]
          exact if_pos transient
        obtain ⟨failures, ends⟩ := submitInPlace_ends plan payload rest (some raised)
          (backend.submitted (some raised) last.state) unwritten
        refine ⟨raised :: failures, ?_⟩
        rw [again, List.length_cons, List.length_cons]
        rcases ends with ⟨result, next, fewer, clean, same⟩ | ⟨site, errorLog, fewer, kept, same⟩
        · exact Or.inl ⟨result, next, by omega, clean, same.trans (by simp [Backend.submitted])⟩
        · exact Or.inr ⟨site, errorLog, by omega, kept, same.trans (by simp [Backend.submitted])⟩
      · refine ⟨[raised], Or.inr ⟨last.state,
          backend.errorLog ++ [⟨persistenceFailed payload.batchId, some raised⟩], by simp,
          unwritten, ?_⟩⟩
        rw [submitInPlace, outcome]
        exact if_neg transient

/-- The tables with one batch in the queue. -/
def queued (tables : Tables) (batch : BatchPayload) (attempt : Option Nat) : Backend where
  site := opened tables
  queue := [⟨⟨batch, attempt, false⟩, none⟩]

/-- The number of imports reported as failed. -/
def importFailures (site : Site) : Nat :=
  site.publishedEvents.countP fun event => event.name = Events.attendanceImportFailed

/-- Some call of `submit` returned. -/
def Backend.succeeded (backend : Backend) : Bool :=
  backend.executions.any fun submits => submits.contains none

/-- Each of the executions called `submit` as often as it may, in vain. -/
def InVain (executions : List (List (Option Error))) : Prop :=
  ∀ submits ∈ executions, submits.length ≤ bulkAttendanceInPlaceAttempts ∧ none ∉ submits

/-- The batch was executed a number of times and waits for the next. -/
structure Waiting (tables : Tables) (batch : BatchPayload) (before count : Nat)
    (backend : Backend) : Prop where
  /-- It is the only job, marked with the number of its attempts. -/
  queue : ∃ mark startAt, backend.queue = [⟨⟨batch, mark, false⟩, startAt⟩] ∧
    mark.getD 0 = before + count
  /-- The retries are not used up. -/
  early : count = 0 ∨ before + count ≤ bulkAttendanceMaxRetry
  /-- The tables are not written. -/
  untried : Untried batch tables backend.site
  /-- It was executed so often. -/
  executions : backend.executions.length = count
  /-- Always in vain. -/
  inVain : InVain backend.executions
  /-- No job runs. -/
  idle : backend.submits = []

/-- The batch was stored by its last execution, as `submit` without faults stores it. -/
structure StoredOnce (tables : Tables) (batch : BatchPayload) (backend : Backend) : Prop where
  /-- No job waits. -/
  queue : backend.queue = []
  /-- The last call of the last execution returned, and no other one. -/
  executions : ∃ earlier, ∃ failures : List Error,
    backend.executions = earlier ++ [failures.map some ++ [none]] ∧
    earlier.length ≤ bulkAttendanceMaxRetry ∧
    failures.length < bulkAttendanceInPlaceAttempts ∧ InVain earlier
  /-- The tables are those of one call. -/
  stored : ∃ outcome last, submitBatch batch {} (opened tables) = .ok outcome last ∧
    backend.site.committed = last.state.committed
  /-- No failure is reported. -/
  quiet : importFailures backend.site = 0

/-- The batch was given up after its last execution. -/
structure DeadLettered (tables : Tables) (backend : Backend) : Prop where
  /-- No job waits. -/
  queue : backend.queue = []
  /-- Every execution was in vain. -/
  executions : backend.executions.length ≤ bulkAttendanceMaxRetry + 1
  /-- Always in vain. -/
  inVain : InVain backend.executions
  /-- The rows are those that were there. -/
  rows : backend.site.committed.attendance = tables.attendance
  /-- The counts are those that were there. -/
  counts : ∀ branch event, aggregate backend.site.committed branch event =
    aggregate tables branch event
  /-- The failure is reported. -/
  reported : importFailures backend.site = 1

/-- The name of a receipt is not that of a failure. -/
theorem receipt_ne (batchId : String) (outcome : BulkBatchOutcome) :
    (batchReceipt batchId outcome).name ≠ Events.attendanceImportFailed := by
  intro same
  have letters : (("flock_os:attendance:batch:" ++ batchId).toList).take 6 =
      Events.attendanceImportFailed.toList.take 6 :=
    congrArg (fun name => (String.toList name).take 6) same
  rw [String.toList_append, List.take_append_of_le_length (by decide)] at letters
  exact absurd letters (by decide)

/-- A job whose attempts returned acknowledges its batch. -/
theorem processBulkBatch_some {plan : JobPlan} {payload : Payload} {backend next : Backend}
    {outcome : BulkBatchOutcome} (live : payload.deadlettered = false)
    (done : submitWithInPlaceRetry plan payload backend = (some outcome, next))
    (startAt : Option Nat) :
    processBulkBatch plan ⟨payload, startAt⟩ backend =
      next.emit (batchReceipt payload.batchId outcome) := by
  unfold processBulkBatch
  dsimp only
  rw [if_neg (by rw [live]; decide), done]

/-- A job whose attempts did not return is done. -/
theorem processBulkBatch_none {plan : JobPlan} {payload : Payload} {backend next : Backend}
    (live : payload.deadlettered = false)
    (failed : submitWithInPlaceRetry plan payload backend = (none, next))
    (startAt : Option Nat) : processBulkBatch plan ⟨payload, startAt⟩ backend = next := by
  unfold processBulkBatch
  dsimp only
  rw [if_neg (by rw [live]; decide), failed]

namespace Waiting

variable {tables : Tables} {batch : BatchPayload} {before count : Nat} {backend : Backend}
  {failures : List Error}

/-- A job in vain is one more of them. -/
theorem oneMore (waiting : Waiting tables batch before count backend)
    (bounded : failures.length ≤ bulkAttendanceInPlaceAttempts) :
    InVain (backend.executions ++ [backend.submits ++ failures.map some]) ∧
      (backend.executions ++ [backend.submits ++ failures.map some]).length = count + 1 := by
  rw [waiting.idle, List.nil_append]
  constructor
  · intro submits member
    rcases List.mem_append.mp member with earlier | now
    · exact waiting.inVain submits earlier
    · rw [List.mem_singleton.mp now, List.length_map]
      exact ⟨bounded, by simp⟩
  · rw [List.length_append, waiting.executions]
    rfl

/-- A job with an attempt that returned stores the batch. -/
theorem returned (waiting : Waiting tables batch before count backend)
    (fewer : failures.length < bulkAttendanceInPlaceAttempts) {outcome : BulkBatchOutcome}
    {last : Planned Site} (clean : submitBatch batch {} (opened tables) = .ok outcome last) :
    StoredOnce tables batch (Backend.finishJob (Backend.emit
      { backend with
        queue := []
        site := last.state
        submits := backend.submits ++ (failures.map some ++ [none]) }
      (batchReceipt batch.batchId outcome))) := by
  have submitted := submitBatch_ends batch {} (opened_settled tables)
  rw [clean] at submitted
  refine ⟨rfl, ⟨backend.executions, failures, ?_, ?_, fewer, waiting.inVain⟩,
    ⟨outcome, last, clean, submitted.settled⟩, ?_⟩
  · show backend.executions ++ [backend.submits ++ _] = _
    rw [waiting.idle]
    rfl
  · have early := waiting.early
    rw [waiting.executions]
    omega
  · have published : last.state.publishedEvents = outcome.events := submitted.published
    show ((last.state.publishedEvents ++ [batchReceipt batch.batchId outcome]).countP _) = 0
    apply List.countP_eq_zero.mpr
    intro event member
    rw [published, List.mem_append, List.mem_singleton] at member
    rcases member with announced | rfl
    · simpa using submitted.named event announced
    · simpa using receipt_ne batch.batchId outcome

/-- A job whose attempts all failed puts the batch back, or gives it up when its retries are used
up. -/
theorem failed (waiting : Waiting tables batch before count backend) {mark : Option Nat}
    (marked : mark.getD 0 = before + count)
    (bounded : failures.length ≤ bulkAttendanceInPlaceAttempts) {site : Site}
    (untried : Untried batch tables site) (errorLog : List LoggedError) (now : Nat) :
    let last := (deadletterOrRetry now ⟨batch, mark, false⟩
      { backend with
        queue := []
        site := site
        errorLog := errorLog
        submits := backend.submits ++ failures.map some }).finishJob
    Waiting tables batch before (count + 1) last ∨ DeadLettered tables last := by
  obtain ⟨inVain, executed⟩ := waiting.oneMore bounded
  have early := waiting.early
  have committed : site.commit = site := untried.settled.pending.2
  unfold deadletterOrRetry
  dsimp only
  rw [marked]
  by_cases used : bulkAttendanceMaxRetry < before + count + 1
  · rw [if_pos used]
    apply Or.inr
    refine ⟨rfl, ?_, inVain, ?_, ?_, ?_⟩
    · show (backend.executions ++ [backend.submits ++ failures.map some]).length ≤ _
      omega
    · show site.working.attendance = _
      rw [untried.settled]
      exact untried.same.1
    · intro branch event
      show aggregate site.working branch event = _
      rw [untried.settled]
      exact untried.same.2 branch event
    · show (site.publishedEvents ++ [importFailed _ _]).countP _ = 1
      rw [untried.quiet]
      rfl
  · rw [if_neg used]
    apply Or.inl
    refine ⟨⟨some (before + count + 1), _, rfl, rfl⟩, Or.inr (by omega), ?_, executed, inVain, rfl⟩
    show Untried batch tables site.commit
    rw [committed]
    exact untried

/-- The turn of a waiting batch stores it, gives it up or lets it wait again. -/
theorem turn (waiting : Waiting tables batch before count backend) (plan : JobPlan) :
    Waiting tables batch before (count + 1) (backend.work plan) ∨
      StoredOnce tables batch (backend.work plan) ∨ DeadLettered tables (backend.work plan) := by
  obtain ⟨mark, startAt, queue, marked⟩ := waiting.queue
  have executes : backend.work plan = (processBulkBatch plan ⟨⟨batch, mark, false⟩, startAt⟩
      { backend with queue := [] }).finishJob := by
    unfold Backend.work
    rw [queue]
  obtain ⟨failures, ends⟩ := submitInPlace_ends plan ⟨batch, mark, false⟩
    (List.range bulkAttendanceInPlaceAttempts) none { backend with queue := [] } waiting.untried
  rw [List.length_range] at ends
  rw [executes]
  rcases ends with ⟨outcome, last, fewer, clean, same⟩ | ⟨site, errorLog, bounded, untried, same⟩
  · rw [processBulkBatch_some rfl same startAt]
    exact Or.inr (Or.inl (waiting.returned fewer clean))
  · rw [processBulkBatch_none rfl same startAt]
    rcases waiting.failed marked bounded untried errorLog plan.now with again | given
    · exact Or.inl again
    · exact Or.inr (Or.inr given)

end Waiting

/-- A worker with no job waits. -/
theorem work_idle {backend : Backend} (idle : backend.queue = []) (plan : JobPlan) :
    backend.work plan = backend := by
  unfold Backend.work
  rw [idle]

/-- After any number of turns the batch waits for the next, is stored or given up. -/
theorem turns_end (tables : Tables) (batch : BatchPayload) (attempt : Option Nat)
    (plans : List JobPlan) :
    Waiting tables batch (attempt.getD 0) plans.length
        (runAll Backend.work (queued tables batch attempt) plans) ∨
      StoredOnce tables batch (runAll Backend.work (queued tables batch attempt) plans) ∨
      DeadLettered tables (runAll Backend.work (queued tables batch attempt) plans) := by
  apply runAll_recorded (fun past backend => Waiting tables batch (attempt.getD 0) past.length
    backend ∨ StoredOnce tables batch backend ∨ DeadLettered tables backend)
  · apply Or.inl
    exact ⟨⟨attempt, none, rfl, rfl⟩, Or.inl rfl, Or.inl rfl, rfl,
      fun _ member => (nomatch member), rfl⟩
  · intro past plan reached
    rw [List.length_append, List.length_singleton]
    rcases reached with waiting | stored | given
    · exact waiting.turn plan
    · rw [work_idle stored.queue]
      exact Or.inr (Or.inl stored)
    · rw [work_idle given.queue]
      exact Or.inr (Or.inr given)

/-- Executions in vain contain no call that returned. -/
theorem InVain.not_succeeded {backend : Backend} (inVain : InVain backend.executions) :
    backend.succeeded = false := by
  apply List.any_eq_false.mpr
  intro submits member returned
  exact (inVain submits member).2 (List.contains_iff_mem.mp returned)

/-- How a batch has ended, after some turns of the worker. -/
structure EndsOnce (tables : Tables) (batch : BatchPayload) (turns : Nat) (last : Backend) :
    Prop where
  /-- It is executed and retried so often at most. -/
  executions : last.executions.length ≤ bulkAttendanceMaxRetry + 1
  /-- Each execution calls `submit` so often at most. -/
  submits : ∀ submits ∈ last.executions, submits.length ≤ bulkAttendanceInPlaceAttempts
  /-- After so many turns nothing is left to do. -/
  ends : bulkAttendanceMaxRetry + 1 ≤ turns → last.queue = []
  /-- A call that returns is the only one and the last thing done: the tables are those of one
  `submit` without faults, and no failure is reported. -/
  stored : last.succeeded = true → last.queue = [] ∧ last.executions.flatten.count none = 1 ∧
    importFailures last.site = 0 ∧
    ∃ outcome clean, submitBatch batch {} (opened tables) = .ok outcome clean ∧
      last.site.committed = clean.state.committed
  /-- A batch that no call stored is given up once, with rows and counts as they were. -/
  deadLettered : last.succeeded = false → last.queue = [] → importFailures last.site = 1 ∧
    last.site.committed.attendance = tables.attendance ∧
    ∀ branch event, aggregate last.site.committed branch event = aggregate tables branch event

/-- A waiting batch has not ended. -/
theorem Waiting.endsOnce {tables : Tables} {batch : BatchPayload} {before turns : Nat}
    {last : Backend} (waiting : Waiting tables batch before turns last) :
    EndsOnce tables batch turns last := by
  obtain ⟨mark, startAt, queue, _⟩ := waiting.queue
  have early := waiting.early
  refine ⟨?_, fun submits member => (waiting.inVain submits member).1, ?_, ?_, ?_⟩
  · rw [waiting.executions]
    omega
  · intro enough
    omega
  · intro succeeded
    rw [waiting.inVain.not_succeeded] at succeeded
    cases succeeded
  · intro _ idle
    rw [queue] at idle
    cases idle

/-- A stored batch has ended. -/
theorem StoredOnce.endsOnce {tables : Tables} {batch : BatchPayload} {last : Backend}
    (stored : StoredOnce tables batch last) (turns : Nat) : EndsOnce tables batch turns last := by
  obtain ⟨earlier, failures, executions, bound, fewer, inVain⟩ := stored.executions
  have vain : earlier.flatten.count none = 0 := by
    apply List.count_eq_zero.mpr
    intro member
    obtain ⟨submits, there, inside⟩ := List.mem_flatten.mp member
    exact (inVain submits there).2 inside
  have once : (failures.map some ++ [none]).count none = 1 := by
    rw [List.count_append, List.count_eq_zero.mpr (by simp)]
    rfl
  refine ⟨?_, ?_, fun _ => stored.queue, ?_, ?_⟩
  · rw [executions, List.length_append, List.length_singleton]
    omega
  · intro submits member
    rw [executions] at member
    rcases List.mem_append.mp member with before | now
    · exact (inVain submits before).1
    · rw [List.mem_singleton.mp now, List.length_append, List.length_map]
      exact fewer
  · intro _
    refine ⟨stored.queue, ?_, stored.quiet, stored.stored⟩
    rw [executions, List.flatten_append, List.count_append, vain]
    simpa using once
  · intro failed
    have returned : last.succeeded = true := by
      apply List.any_eq_true.mpr
      rw [executions]
      exact ⟨_, List.mem_append_right _ (List.mem_singleton_self _), by simp⟩
    rw [returned] at failed
    cases failed

/-- A batch that was given up has ended. -/
theorem DeadLettered.endsOnce {tables : Tables} {last : Backend}
    (given : DeadLettered tables last) (batch : BatchPayload) (turns : Nat) :
    EndsOnce tables batch turns last := by
  refine ⟨given.executions, fun submits member => (given.inVain submits member).1,
    fun _ => given.queue, ?_, fun _ _ => ⟨given.reported, given.rows, given.counts⟩⟩
  intro succeeded
  rw [given.inVain.not_succeeded] at succeeded
  cases succeeded

/-- A batch ends once in one of two ways: stored by exactly one `submit`, or reported as failed
with rows and counts unchanged. -/
theorem batch_endsOnce (tables : Tables) (batch : BatchPayload) (attempt : Option Nat)
    (plans : List JobPlan) :
    EndsOnce tables batch plans.length
      (runAll Backend.work (queued tables batch attempt) plans) := by
  rcases turns_end tables batch attempt plans with waiting | stored | given
  · exact waiting.endsOnce
  · exact stored.endsOnce plans.length
  · exact given.endsOnce batch plans.length

end FlockOs.AttendanceJobs
