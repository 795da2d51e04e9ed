import FlockOs.EngagementFrappe
import FlockOs.Lib.Runs

/-!
# A finalize that fails and is run again

`finalize_close` moves the session to closed before it does the work, and its first commit
makes that durable. A job that raises before it leaves the site as it was. A job that raises
after it leaves a closed session, which every later job takes for finished.
-/

namespace FlockOs.EngagementFrappe

open Lib Reporting Engagement

/-- Every item has a row with its key. -/
def Recorded (items : List AttendanceItem) (tables : Tables) : Prop :=
  ∀ item ∈ items, ∃ row ∈ tables.attendance, row.idempotencyKey = item.idempotencyKey

/-- The attendance of a log: an item for each attendee key with an in-window row. -/
def attendanceOf (rows : List Participation) : List AttendanceItem :=
  (inWindowAttendees rows).map participationToAttendanceItem

/-- Every attendee key with an in-window row has a durable attendance row, and the closing of
the session was announced with their number. -/
def Finished (session : EngagementSession) (site : Site) : Prop :=
  Recorded (attendanceOf (site.log session.sessionId)) site.committed ∧
    closedEvent session (attendanceOf (site.log session.sessionId)).length ∈ site.publishedEvents

instance (session : EngagementSession) (site : Site) : Decidable (Finished session site) :=
  inferInstanceAs (Decidable ((∀ _ ∈ _, ∃ _ ∈ _, _) ∧ _))

/-- A session that waits for its deferred finalize, between two jobs. -/
structure Ready (session : EngagementSession) (site : Site) : Prop where
  /-- The session is stored under its name. -/
  stored : site.committed.sessions session.sessionId = some session
  /-- It is closing. -/
  closing : session.status = .closing
  /-- Nothing is uncommitted. -/
  settled : site.working = site.committed
  /-- The rows of its log carry its branch, as `participate` writes them. -/
  branches : ∀ row ∈ site.log session.sessionId, row.branch = session.branch
  /-- Its closing was not announced. -/
  silent : ∀ count, closedEvent session count ∉ site.publishedEvents

/-- The calls of `finalize_close` up to its first commit: the session, its status, the session
again and the log; then the commit of `transaction()`, or where there are attendees the summary
rows and the commit of `seed_aggregate`. -/
def callsToCommit (rows : List Participation) : Nat :=
  if (attendanceOf rows).isEmpty then 5 else 6

/-- One of the calls of the job up to the first commit is planned to fail. -/
def FailsEarly (sessionId : String) (site : Site) (attempt : Attempt) : Prop :=
  failsWithin (callsToCommit ((site.receive sessionId attempt).log sessionId)) attempt.faults

instance (sessionId : String) (site : Site) (attempt : Attempt) :
    Decidable (FailsEarly sessionId site attempt) :=
  inferInstanceAs (Decidable (_ = true))

variable {before failed early : Site → Prop}

/-- A read is one call. -/
theorem read_calls {α : Type} {site : Site} (view : Site → α) (stays : early site) :
    Exec.Calls 1 .infrastructure (fun state => state = site) (read view) early
      fun value state => value = view site ∧ state = site := by
  unfold read call
  apply Exec.Calls.attempt
  · rintro _ rfl
    exact ⟨_, _, rfl, rfl, rfl⟩
  · rintro _ rfl
    exact stays

/-- A write is one call. -/
theorem write_calls {site : Site} (change : Site → Site) (stays : early site) :
    Exec.Calls 1 .infrastructure (fun state => state = site) (write change) early
      fun _ state => state = change site := by
  unfold write call
  apply Exec.Calls.attempt
  · rintro _ rfl
    exact ⟨_, _, rfl, rfl⟩
  · rintro _ rfl
    exact stays

/-- A read returns what it sees, or fails where it starts. -/
theorem read_triple {α : Type} {returned : α → Site → Prop} (view : Site → α)
    (sees : ∀ site, before site → returned (view site) site)
    (stays : ∀ site, before site → failed site) :
    Exec.Triple before (read view) failed returned := by
  unfold read call
  exact .attempt sees stays

/-- A write leaves the changed site, or fails where it starts. -/
theorem write_triple {returned : Site → Prop} (change : Site → Site)
    (changes : ∀ site, before site → returned (change site))
    (stays : ∀ site, before site → failed site) :
    Exec.Triple before (write change) failed fun _ => returned := by
  unfold write call
  exact .attempt changes stays

/-- The row of a session after `finalize_close` moved it. -/
def closed (session : EngagementSession) : EngagementSession := withStatus .closed none session

/-- The session is durably closed, and nothing but the last step of `finalize_close` announces
that. -/
structure Sealed (session : EngagementSession) (rows : List Participation) (site : Site) : Prop where
  /-- It is closed whatever is rolled back. -/
  durable : site.committed.sessions session.sessionId = some (closed session)
  /-- It is closed for the request. -/
  working : site.working.sessions session.sessionId = some (closed session)
  /-- Its log. -/
  log : site.log session.sessionId = rows
  /-- Its closing was not announced. -/
  silent : ∀ count, closedEvent session count ∉ site.publishedEvents

namespace Sealed

variable {session : EngagementSession} {rows : List Participation} {site : Site}

/-- A commit keeps the session closed. -/
theorem commit (held : Sealed session rows site) : Sealed session rows site.commit :=
  ⟨held.working, held.working, held.log, held.silent⟩

/-- A rollback keeps the session closed. -/
theorem rollback (held : Sealed session rows site) : Sealed session rows site.rollback :=
  ⟨held.durable, held.durable, held.log, held.silent⟩

/-- Work on the other tables keeps the session closed. -/
theorem withWorking {tables : Tables} (held : Sealed session rows site)
    (same : tables.sessions = site.working.sessions) :
    Sealed session rows (site.withWorking tables) :=
  ⟨held.durable, (congrFun same _).trans held.working, held.log, held.silent⟩

/-- An event of the bulk service, which has no scope, does not announce the closing. -/
theorem publish (held : Sealed session rows site) (name : String)
    (payload : List (String × Value)) : Sealed session rows (site.publish ⟨name, payload, []⟩) := by
  refine ⟨held.durable, held.working, held.log, fun count announced => ?_⟩
  have cases := List.mem_append.mp announced
  rcases cases with before | now
  · exact held.silent count before
  · have scopes := congrArg DomainEvent.scope (List.mem_singleton.mp now)
    cases scopes

end Sealed

section Bulk

variable {session : EngagementSession} {rows : List Participation}

/-- The session is closed, and the request has written a row for every item. -/
structure Written (session : EngagementSession) (rows : List Participation)
    (items : List AttendanceItem) (site : Site) : Prop where
  /-- The session is closed. -/
  closed : Sealed session rows site
  /-- The rows are there for the request. -/
  recorded : Recorded items site.working

/-- The session is closed, and there is a durable row for every item. -/
structure Credited (session : EngagementSession) (rows : List Participation)
    (items : List AttendanceItem) (site : Site) : Prop where
  /-- The session is closed. -/
  closed : Sealed session rows site
  /-- The rows are durable. -/
  recorded : Recorded items site.committed
  /-- Nothing is uncommitted. -/
  settled : site.working = site.committed

/-- What the insert statement appends is what it was given. -/
theorem insertRows_ok : ∀ {table added result : List AttendanceItem},
    insertRows table added = .ok result → result = table ++ added
  | table, [], result, inserted => by
    rw [List.append_nil]
    exact (Except.ok.inj inserted).symm
  | table, row :: rest, result, inserted => by
    rw [insertRows] at inserted
    split at inserted
    · cases inserted
    · rw [insertRows_ok inserted, List.append_assoc]
      rfl

/-- A stored row has the key of its item. -/
theorem stored_key (item : AttendanceItem) : (stored item).idempotencyKey = item.idempotencyKey := by
  simp only [AttendanceItem.idempotencyKey, stored, truthy_getD_again]

/-- The insert statement adds all the rows or changes nothing. -/
theorem insertStatement_run (site : Site) (added : List AttendanceItem) :
    insertStatement added site = .ok ⟨⟩ (site.withWorking
        { site.working with attendance := site.working.attendance ++ added }) ∨
      ∃ raised, insertStatement added site = .error raised site := by
  cases inserted : insertRows site.working.attendance added with
  | ok result =>
    left
    rw [insertStatement, Exec.bind_run_ok (Exec.get_run site), inserted, insertRows_ok inserted]
    rfl
  | error raised =>
    right
    refine ⟨raised, ?_⟩
    rw [insertStatement, Exec.bind_run_ok (Exec.get_run site), inserted]
    rfl

/-- `filter_unseen` returns no key that has a row, and only such keys are left out. -/
theorem filterUnseen_triple (keys : List IdempotencyKey) :
    Exec.Triple (Sealed session rows) (filterUnseen keys) (Sealed session rows)
      fun unseen site => Sealed session rows site ∧ ∀ key ∈ keys, key ∉ unseen →
        ∃ row ∈ site.working.attendance, row.idempotencyKey = key := by
  unfold filterUnseen
  split
  next empty =>
    refine .pure _ fun site held => ⟨held, fun key member => ?_⟩
    rw [List.isEmpty_iff.mp empty] at member
    cases member
  next =>
    have reads : Exec.Triple (Sealed session rows) (read fun site => site.working.attendance)
        (Sealed session rows) fun table site =>
          Sealed session rows site ∧ table = site.working.attendance :=
      read_triple _ (fun site held => ⟨held, rfl⟩) fun site held => held
    refine reads.bind fun table => .pure _ fun site held => ⟨held.1, ?_⟩
    intro key member left
    have seen : key ∈ table.map (·.idempotencyKey) := by
      by_contra absent
      apply left
      simp only [List.mem_filter, List.contains_eq_mem, decide_eq_false absent]
      exact ⟨member, rfl⟩
    obtain ⟨row, stored, same⟩ := List.mem_map.mp seen
    rw [held.2] at stored
    exact ⟨row, stored, same⟩

/-- `bulk_insert` keeps the rows that are there and adds one for each item. -/
theorem bulkInsert_triple (present added : List AttendanceItem) :
    Exec.Triple (Written session rows present) (bulkInsert added) (Sealed session rows)
      fun _ => Written session rows (present ++ added) := by
  unfold bulkInsert
  split
  next empty =>
    refine .pure _ fun site held => ?_
    rw [List.isEmpty_iff.mp empty, List.append_nil]
    exact held
  next =>
    refine Exec.Triple.bind ?_ fun _ => .pure _ fun site held => held
    unfold call
    refine .attempt (fun site held => ?_) fun site held => held.closed
    rcases insertStatement_run site (added.map stored) with inserted | ⟨raised, refused⟩
    · rw [inserted]
      refine ⟨held.closed.withWorking rfl, fun item member => ?_⟩
      rcases List.mem_append.mp member with old | new
      · obtain ⟨row, there, same⟩ := held.recorded item old
        exact ⟨row, List.mem_append_left _ there, same⟩
      · have there := List.mem_map_of_mem (f := stored) new
        exact ⟨stored item, List.mem_append_right _ there, stored_key item⟩
    · rw [refused]
      exact held.closed

/-- The increments keep the rows. -/
theorem increments_triple (items : List AttendanceItem) (scope : AttendanceScope)
    (totals : List (String × Nat)) :
    Exec.Triple (Written session rows items)
      (totals.forM fun entry => frappeBulkGateway.incrementAggregate scope entry.1 entry.2)
      (Sealed session rows) fun _ => Written session rows items := by
  have turn (entry : String × Nat) : Exec.Triple (Written session rows items)
      (frappeBulkGateway.incrementAggregate scope entry.1 entry.2) (Written session rows items)
      fun _ => Written session rows items :=
    write_triple (fun site => site.withWorking (site.working.increment scope.branch entry.1 entry.2))
      (fun site held => ⟨held.closed.withWorking rfl, held.recorded⟩) fun _ held => held
  exact (Exec.Triple.forM turn totals).imp (fun _ held => held) (fun _ held => held.closed)
    fun _ _ held => held

variable (session rows) in
/-- The block of `submit` leaves a row for every item, or fails with the session closed. -/
theorem writeNew_triple (items : List AttendanceItem) (scope : AttendanceScope)
    (batchId : String) :
    Exec.Triple (Sealed session rows) (writeNew frappeBulkGateway items scope batchId)
      (Sealed session rows) fun _ => Written session rows items := by
  unfold writeNew
  refine (filterUnseen_triple _).bind fun unseen => ?_
  let isNew (item : AttendanceItem) : Bool := unseen.contains item.idempotencyKey
  let new := items.filter isNew
  let old := items.filter fun item => !isNew item
  have oldRecorded (site : Site) (held : Sealed session rows site ∧
      ∀ key ∈ items.map (·.idempotencyKey), key ∉ unseen →
        ∃ row ∈ site.working.attendance, row.idempotencyKey = key) :
      Written session rows old site := by
    refine ⟨held.1, fun item member => ?_⟩
    obtain ⟨given, notNew⟩ := List.mem_filter.mp member
    apply held.2 item.idempotencyKey (List.mem_map_of_mem given)
    intro unseenKey
    simp only [isNew, List.contains_eq_mem, unseenKey, decide_true, Bool.not_true] at notNew
    cases notNew
  have together (site : Site) (held : Written session rows (old ++ new) site) :
      Written session rows items site := by
    refine ⟨held.closed, fun item member => held.recorded item ?_⟩
    rw [List.mem_append, List.mem_filter, List.mem_filter]
    cases isNew item with
    | false => exact Or.inl ⟨member, rfl⟩
    | true => exact Or.inr ⟨member, rfl⟩
  show Exec.Triple _ (if new.isEmpty then _ else _) _ _
  split
  next nothing =>
    refine .pure _ fun site held => together site ?_
    rw [List.isEmpty_iff.mp nothing, List.append_nil]
    exact oldRecorded site held
  next =>
    have inserts := (bulkInsert_triple old new).imp oldRecorded (fun _ held => held)
      fun _ => together
    refine inserts.bind fun inserted => ?_
    exact (increments_triple items scope _).bind fun _ => .pure _ fun _ held => held

/-- The block under `transaction()` makes what it wrote durable, or fails with the session
closed. -/
theorem guarded_triple {α : Type} {items : List AttendanceItem} {body : Request α}
    (runs : Exec.Triple (Sealed session rows) body (Sealed session rows)
      fun _ => Written session rows items) :
    Exec.Triple (Sealed session rows) (guarded body) (Sealed session rows)
      fun _ => Credited session rows items := by
  have isolates {held : Site → Prop} (closes : ∀ site, held site → Sealed session rows site) :
      Exec.Triple held setIsolation (Sealed session rows) fun _ => held :=
    write_triple _ (fun _ holds => holds) closes
  have commits : Exec.Triple (Written session rows items) (write Site.commit)
      (Sealed session rows) fun _ => Credited session rows items :=
    write_triple _ (fun _ held => ⟨held.closed.commit, held.recorded, rfl⟩) fun _ held => held.closed
  have commitsRaised : Exec.Triple (Sealed session rows) (write Site.commit)
      (Sealed session rows) fun _ => Sealed session rows :=
    write_triple _ (fun _ held => held.commit) fun _ held => held
  have rollsBack : Exec.Triple (Sealed session rows) (write Site.rollback)
      (Sealed session rows) fun _ => Sealed session rows :=
    write_triple _ (fun _ held => held.rollback) fun _ held => held
  have handles (raised : Error) : Exec.Triple (Sealed session rows)
      (write Site.rollback >>= fun _ => throw raised : Request α) (Sealed session rows)
      fun _ => Written session rows items :=
    rollsBack.bind fun _ => .throw raised fun _ held => held
  unfold guarded
  refine Exec.Triple.tryFinally (runs.tryCatch handles) (fun value => ?_) ?_
  · exact commits.bind fun _ => isolates fun _ held => held.closed
  · exact commitsRaised.bind fun _ => isolates fun _ held => held

/-- `transaction()` past its first commit. -/
theorem isolated_triple {α : Type} {items : List AttendanceItem} {body : Request α}
    (runs : Exec.Triple (Sealed session rows) body (Sealed session rows)
      fun _ => Written session rows items) :
    Exec.Triple (Sealed session rows) (setIsolation >>= fun _ => guarded body)
      (Sealed session rows) fun _ => Credited session rows items := by
  have isolates : Exec.Triple (Sealed session rows) setIsolation (Sealed session rows)
      fun _ => Sealed session rows :=
    write_triple _ (fun _ held => held) fun _ held => held
  exact isolates.bind fun _ => guarded_triple runs

/-- `transaction()` after an earlier commit keeps the session closed. -/
theorem transaction_triple {α : Type} {items : List AttendanceItem} {body : Request α}
    (runs : Exec.Triple (Sealed session rows) body (Sealed session rows)
      fun _ => Written session rows items) :
    Exec.Triple (Sealed session rows) (transaction body) (Sealed session rows)
      fun _ => Credited session rows items := by
  have commits : Exec.Triple (Sealed session rows) (write Site.commit) (Sealed session rows)
      fun _ => Sealed session rows :=
    write_triple _ (fun _ held => held.commit) fun _ held => held
  exact commits.bind fun _ => isolated_triple runs

/-- The emissions of the bulk service keep what was credited. -/
theorem emissions_triple (items : List AttendanceItem) (events : List DomainEvent) :
    Exec.Triple (Credited session rows items) (events.forM frappeBulkGateway.emit)
      (Sealed session rows) fun _ => Credited session rows items := by
  have turn (event : DomainEvent) : Exec.Triple (Credited session rows items)
      (frappeBulkGateway.emit event) (Credited session rows items)
      fun _ => Credited session rows items :=
    write_triple (fun site => site.publish ⟨event.name, event.payload, []⟩)
      (fun site held => ⟨held.closed.publish _ _, held.recorded, held.settled⟩) fun _ held => held
  exact (Exec.Triple.forM turn events).imp (fun _ held => held) (fun _ held => held.closed)
    fun _ _ held => held

end Bulk

section FirstCommit

/-- Nothing but the working tables differs from the start. -/
def Untouched (start site : Site) : Prop := site = start.withWorking site.working

/-- The request has closed the session and committed nothing. -/
structure Marked (session : EngagementSession) (start : Site) (tables : Tables) : Prop where
  /-- It is closed for the request. -/
  working : tables.sessions session.sessionId = some (closed session)
  /-- Its closing was not announced. -/
  silent : ∀ count, closedEvent session count ∉ start.publishedEvents

variable {session : EngagementSession} {start : Site} {tables : Tables}

/-- A commit after the mark makes the closing durable. -/
theorem Marked.commit (marked : Marked session start tables) :
    Sealed session (start.log session.sessionId) (start.withWorking tables).commit :=
  ⟨marked.working, marked.working, rfl, marked.silent⟩

/-- The first commit is one call. -/
theorem firstCommit_calls (marked : Marked session start tables) :
    Exec.Calls 1 .infrastructure (fun state => state = start.withWorking tables)
      (write Site.commit) (Untouched start)
      fun _ => Sealed session (start.log session.sessionId) := by
  unfold write call
  apply Exec.Calls.attempt
  · rintro _ rfl
    exact ⟨_, _, rfl, marked.commit⟩
  · rintro _ rfl
    exact rfl

/-- `transaction()` makes the closing durable with its first call. -/
theorem transaction_commits {α : Type} {items : List AttendanceItem} {body : Request α}
    (marked : Marked session start tables)
    (runs : Exec.Triple (Sealed session (start.log session.sessionId)) body
      (Sealed session (start.log session.sessionId))
      fun _ => Written session (start.log session.sessionId) items) :
    Exec.Commits 1 .infrastructure (fun state => state = start.withWorking tables)
      (transaction body) (Untouched start) (Sealed session (start.log session.sessionId))
      fun _ => Credited session (start.log session.sessionId) items :=
  (firstCommit_calls marked).commits.bind fun _ => isolated_triple runs

/-- `seed_aggregate` makes the closing durable with its second call. -/
theorem seedAggregate_commits (marked : Marked session start tables) (scope : AttendanceScope)
    {events : List String} (some_event : events.isEmpty = false) :
    Exec.Commits 2 .infrastructure (fun state => state = start.withWorking tables)
      (seedAggregate scope events) (Untouched start)
      (Sealed session (start.log session.sessionId))
      fun _ => Sealed session (start.log session.sessionId) := by
  have seeded : Marked session start (tables.seed scope.branch events) :=
    ⟨marked.working, marked.silent⟩
  have seeds : Exec.Calls 1 .infrastructure (fun state => state = start.withWorking tables)
      (write fun site => site.withWorking (site.working.seed scope.branch events))
      (Untouched start)
      fun _ state => state = start.withWorking (tables.seed scope.branch events) :=
    write_calls _ rfl
  rw [seedAggregate, some_event]
  exact seeds.bind fun _ => (firstCommit_calls seeded).commits

/-- The rest of `submit` after the transaction. -/
theorem deliver_triple {rows : List Participation} (items : List AttendanceItem)
    (scope : AttendanceScope) (batchId : String) (written : Nat × Nat × List DomainEvent) :
    Exec.Triple (Credited session rows items)
      (match written with
        | (inserted, deduplicated, events) => do
          events.forM frappeBulkGateway.emit
          pure (⟨batchId, scope, true, inserted, deduplicated, [], events⟩ : BulkBatchOutcome))
      (Sealed session rows) fun _ => Credited session rows items :=
  (emissions_triple items written.2.2).bind fun _ => .pure _ fun _ held => held

/-- The events of a batch that has an item. -/
theorem events_nonempty {items : List AttendanceItem} (some_item : items.isEmpty = false) :
    (items.map (·.event)).eraseDups.isEmpty = false := by
  cases items with
  | nil => cases some_item
  | cons item rest =>
    rw [List.map_cons, List.eraseDups_cons]
    rfl

/-- Submitting the attendance of a session that the request has closed makes the closing
durable, at its first call without items and at its second with some. -/
theorem submit_commits (marked : Marked session start tables) (items : List AttendanceItem)
    (scope : AttendanceScope) (batchId : String)
    (inScope : ∀ item ∈ items, item.branch = scope.branch) :
    Exec.Commits (if items.isEmpty then 1 else 2) .infrastructure
      (fun state => state = start.withWorking tables)
      (submit frappeBulkGateway items scope batchId) (Untouched start)
      (Sealed session (start.log session.sessionId))
      fun _ => Credited session (start.log session.sessionId) items := by
  have runs := writeNew_triple session (start.log session.sessionId) items scope batchId
  have accepted : (items.any fun item => item.branch ≠ scope.branch) = false := by
    rw [List.any_eq_false]
    intro item member outside
    exact of_decide_eq_true outside (inScope item member)
  rw [submit, accepted]
  cases empty : items.isEmpty with
  | true =>
    have seedsNothing : Exec.Calls 0 .infrastructure
        (fun state => state = start.withWorking tables)
        (seedAggregate scope (items.map (·.event)).eraseDups) (Untouched start)
        fun _ state => state = start.withWorking tables := by
      rw [List.isEmpty_iff.mp empty]
      exact .pure _ fun _ held => held
    have commits := (transaction_commits marked runs).bind (deliver_triple items scope batchId)
    exact seedsNothing.bind fun _ => commits
  | false =>
    refine (seedAggregate_commits marked scope (events_nonempty empty)).bind fun _ => ?_
    exact (transaction_triple runs).bind (deliver_triple items scope batchId)

/-- Reading a session that is stored is one call. -/
theorem requireSession_calls (site : Site) {sessionId : String} {row : EngagementSession}
    (found : site.working.sessions sessionId = some row) {early : Site → Prop}
    (stays : early site) :
    Exec.Calls 1 .infrastructure (fun state => state = site) (requireSession frappeStore sessionId)
      early fun value state => value = row ∧ state = site := by
  have reads : Exec.Calls 1 .infrastructure (fun state => state = site)
      (frappeStore.getSession sessionId) early fun value state => value = some row ∧ state = site := by
    rw [← found]
    exact read_calls (fun site => site.working.sessions sessionId) stays
  have returns : Exec.Calls 0 .infrastructure (fun state => state = site)
      (pure row : Request EngagementSession) early fun value state => value = row ∧ state = site :=
    .pure row fun _ same => ⟨rfl, same⟩
  show Exec.Calls (1 + 0) _ _ (frappeStore.getSession sessionId >>= _) _ _
  refine reads.bind_value ?_
  exact returns

/-- The branch of the items is that of the rows. -/
theorem attendanceOf_branch {rows : List Participation} {branch : String}
    (same : ∀ row ∈ rows, row.branch = branch) :
    ∀ item ∈ attendanceOf rows, item.branch = branch := by
  intro item member
  obtain ⟨row, first, projected⟩ := List.mem_map.mp member
  have listed : row ∈ rows := by
    have inWindow := mem_of_mem_firstPerKey first
    exact (List.mem_filter.mp inWindow).1
  rw [← projected]
  exact same row listed

/-- The projection of a session that the request has closed. -/
theorem project_commits (marked : Marked session start tables)
    (branches : ∀ row ∈ start.log session.sessionId, row.branch = session.branch) :
    Exec.Commits (1 + if (attendanceOf (start.log session.sessionId)).isEmpty then 1 else 2)
      .infrastructure (fun state => state = start.withWorking tables)
      (projectAndRecordAttendance frappeStore defaultBulkService (closed session))
      (Untouched start) (Sealed session (start.log session.sessionId))
      fun outcome site =>
        outcome.attendeeCount = (attendanceOf (start.log session.sessionId)).length ∧
          Credited session (start.log session.sessionId)
            (attendanceOf (start.log session.sessionId)) site := by
  have reads : Exec.Calls 1 .infrastructure (fun state => state = start.withWorking tables)
      (frappeStore.participations session.sessionId) (Untouched start)
      fun rows state => rows = start.log session.sessionId ∧ state = start.withWorking tables :=
    read_calls (fun site => site.log session.sessionId) rfl
  have submits := submit_commits marked (attendanceOf (start.log session.sessionId))
    ⟨session.branch⟩ (batchId (closed session)) (attendanceOf_branch branches)
  refine reads.bind_value ?_
  have returns (outcome : BulkBatchOutcome) :
      Exec.Triple (Credited session (start.log session.sessionId)
          (attendanceOf (start.log session.sessionId)))
        (pure ⟨session.sessionId, session.gathering,
          (attendanceOf (start.log session.sessionId)).length, outcome.inserted,
          outcome.deduplicated, true⟩ : Request CloseOutcome)
        (Sealed session (start.log session.sessionId)) fun (outcome : CloseOutcome) site =>
          outcome.attendeeCount = (attendanceOf (start.log session.sessionId)).length ∧
            Credited session (start.log session.sessionId)
              (attendanceOf (start.log session.sessionId)) site :=
    .pure _ fun site credited => ⟨rfl, credited⟩
  exact submits.bind returns

/-- The announcement with the number credited completes the work. -/
theorem announce_triple {rows : List Participation} (outcome : CloseOutcome) :
    Exec.Triple (fun site => outcome.attendeeCount = (attendanceOf rows).length ∧
        Credited session rows (attendanceOf rows) site)
      (emitEvent (closedEvent (closed session) outcome.attendeeCount) >>= fun _ => pure outcome)
      (Sealed session rows) fun _ site => Finished session site ∧ site.working = site.committed := by
  have announces : Exec.Triple (fun site => outcome.attendeeCount = (attendanceOf rows).length ∧
        Credited session rows (attendanceOf rows) site)
      (emitEvent (closedEvent (closed session) outcome.attendeeCount)) (Sealed session rows)
      fun _ site => Finished session site ∧ site.working = site.committed := by
    refine write_triple _ (fun site held => ⟨⟨?_, ?_⟩, held.2.settled⟩) fun _ held => held.2.closed
    · show Recorded (attendanceOf (site.log session.sessionId)) site.committed
      rw [held.2.closed.log]
      exact held.2.recorded
    · show closedEvent session (attendanceOf (site.log session.sessionId)).length ∈
        site.publishedEvents ++ [closedEvent session outcome.attendeeCount]
      rw [held.2.closed.log, held.1]
      exact List.mem_append_right _ (List.mem_singleton_self _)
  exact announces.bind fun _ => .pure _ fun _ held => held

/-- The mark of `finalize_close`. -/
theorem Ready.marked (ready : Ready session start) :
    Marked session start (start.working.setSessionStatus session.sessionId .closed none) := by
  refine ⟨?_, ready.silent⟩
  have stored : start.working.sessions session.sessionId = some session := by
    rw [ready.settled]
    exact ready.stored
  show Function.update _ _ _ _ = _
  rw [Function.update_self, stored]
  rfl

/-- `finalize_close` of a session that waits for it: a fault up to the first commit leaves the
site as it was but for what is uncommitted, an exception past it leaves the session closed
and not announced, and a return leaves the work done. -/
theorem finalizeClose_commits (ready : Ready session start) :
    Exec.Commits (callsToCommit (start.log session.sessionId)) .infrastructure
      (fun state => state = start) (finalizeClose session.sessionId) (Untouched start)
      (Sealed session (start.log session.sessionId))
      fun _ site => Finished session site ∧ site.working = site.committed := by
  let tables := start.working.setSessionStatus session.sessionId .closed none
  let commitAt := if (attendanceOf (start.log session.sessionId)).isEmpty then 1 else 2
  have stored : start.working.sessions session.sessionId = some session := by
    rw [ready.settled]
    exact ready.stored
  have loads := requireSession_calls start stored (show Untouched start start from rfl)
  have allowed : Exec.Calls 0 .infrastructure (fun state => state = start)
      (Exec.ofExcept (validateStateTransition session.status .closed)) (Untouched start)
      fun _ state => state = start := by
    rw [ready.closing]
    exact .pure _ fun _ same => same
  have marks : Exec.Calls 1 .infrastructure (fun state => state = start)
      (frappeStore.setSessionStatus session.sessionId .closed none) (Untouched start)
      fun _ state => state = start.withWorking tables :=
    write_calls (fun site => site.withWorking
      (site.working.setSessionStatus session.sessionId .closed none))
      (show Untouched start start from rfl)
  have reloads := requireSession_calls (start.withWorking tables) ready.marked.working
    (show Untouched start _ from rfl)
  have works := (project_commits ready.marked ready.branches).bind announce_triple
  have open_branch : session.status ≠ .closed := by
    rw [ready.closing]
    decide
  have counted : callsToCommit (start.log session.sessionId) =
      1 + (0 + (1 + (1 + (1 + commitAt)))) := by
    simp only [callsToCommit, commitAt]
    split <;> rfl
  rw [counted]
  refine loads.bind_value ?_
  rw [if_neg open_branch]
  exact allowed.bind fun _ => marks.bind fun _ => reloads.bind_value works

end FirstCommit

section Jobs

variable {session : EngagementSession} {site : Site}

/-- A row that is recorded writes no table and emits nothing. -/
theorem recordParticipation_frame (site : Site) (row : Participation) :
    (site.recordParticipation row).committed = site.committed ∧
      (site.recordParticipation row).working = site.working ∧
      (site.recordParticipation row).publishedEvents = site.publishedEvents := by
  unfold Site.recordParticipation
  split
  · exact ⟨rfl, rfl, rfl⟩
  · exact ⟨rfl, rfl, rfl⟩

/-- The log after a row is recorded holds at most that row besides what it held. -/
theorem mem_log_recordParticipation {row other : Participation} {sessionId : String}
    (member : other ∈ (site.recordParticipation row).log sessionId) :
    other = row ∨ other ∈ site.log sessionId := by
  unfold Site.recordParticipation at member
  split at member
  · exact Or.inr member
  · by_cases own : sessionId = row.sessionId
    · subst own
      simp only [Site.append, Function.update_self, List.mem_orderedInsert] at member
      exact member
    · simp only [Site.append, Function.update_of_ne own] at member
      exact Or.inr member

/-- A participation that arrives leaves a waiting session waiting. -/
theorem Ready.arrive (ready : Ready session site) (arrival : Arrival) :
    Ready session (site.arrive session.sessionId arrival) := by
  have live : session.status.isLive = true := by
    rw [ready.closing]
    rfl
  unfold Site.arrive
  rw [ready.stored]
  show Ready session (if session.status.isLive then _ else site)
  rw [if_pos live]
  obtain ⟨committed, working, published⟩ := recordParticipation_frame site
    (EngagementService.participationOf session arrival.request arrival.submittedAt arrival.flags)
  refine ⟨?_, ready.closing, ?_, fun row member => ?_, fun count => ?_⟩
  · rw [committed]
    exact ready.stored
  · rw [working, committed]
    exact ready.settled
  · rcases mem_log_recordParticipation member with arrived | before
    · rw [arrived]
      rfl
    · exact ready.branches row before
  · rw [published]
    exact ready.silent count

/-- What arrives before a job leaves a waiting session waiting. -/
theorem Ready.receive (ready : Ready session site) (attempt : Attempt) :
    Ready session (site.receive session.sessionId attempt) := by
  unfold Site.receive
  induction attempt.arrivals generalizing site with
  | nil => exact ready
  | cons arrival later ih => exact ih (ready.arrive arrival)

/-- A job that fails early raises the fault and has committed nothing. -/
theorem Ready.run_early (ready : Ready session site) {attempt : Attempt}
    (early : FailsEarly session.sessionId site attempt) :
    ∃ last, attempt.run session.sessionId site = .error .infrastructure last ∧
      Untouched (site.receive session.sessionId attempt) last.state :=
  (finalizeClose_commits (ready.receive attempt)).run_early
    ⟨attempt.faults, site.receive session.sessionId attempt⟩ rfl early

/-- A job that does not fail early has done the work or closed the session without it. -/
theorem Ready.run_past (ready : Ready session site) {attempt : Attempt}
    (late : ¬FailsEarly session.sessionId site attempt) :
    Exec.EndsWith
      (Sealed session ((site.receive session.sessionId attempt).log session.sessionId))
      (fun _ site => Finished session site ∧ site.working = site.committed)
      (attempt.run session.sessionId site) :=
  (finalizeClose_commits (ready.receive attempt)).run_past
    ⟨attempt.faults, site.receive session.sessionId attempt⟩ rfl late

/-- A job that fails early leaves the site as it found it. -/
theorem Ready.job_early (ready : Ready session site) {attempt : Attempt}
    (early : FailsEarly session.sessionId site attempt) :
    site.finalizeJob session.sessionId attempt = site.receive session.sessionId attempt := by
  obtain ⟨last, raised, untouched⟩ := ready.run_early early
  have settled := (ready.receive attempt).settled
  unfold Site.finalizeJob
  rw [raised]
  show last.state.rollback = _
  rw [untouched]
  show (site.receive session.sessionId attempt).withWorking
    (site.receive session.sessionId attempt).committed = _
  rw [← settled]
  rfl

/-- A session that a job has closed without the work, between two jobs. -/
structure Abandoned (session : EngagementSession) (site : Site) : Prop where
  /-- It is closed and not announced. -/
  closed : Sealed session (site.log session.sessionId) site
  /-- Nothing is uncommitted. -/
  settled : site.working = site.committed

/-- Whichever way a request ends, a closed session stays closed. -/
theorem Sealed.abandoned {rows : List Participation} (held : Sealed session rows site) :
    Abandoned session site.commit ∧ Abandoned session site.rollback := by
  refine ⟨⟨?_, rfl⟩, ⟨?_, rfl⟩⟩
  · show Sealed session (site.log session.sessionId) site.commit
    rw [held.log]
    exact held.commit
  · show Sealed session (site.log session.sessionId) site.rollback
    rw [held.log]
    exact held.rollback

/-- A job that raises with the session closed abandons it. -/
theorem Sealed.job_raised {rows : List Participation} {attempt : Attempt} {raised : Error}
    {last : Planned Site} (held : Sealed session rows last.state)
    (run : attempt.run session.sessionId site = .error raised last) :
    Abandoned session (site.finalizeJob session.sessionId attempt) := by
  unfold Site.finalizeJob
  rw [run]
  cases raised with
  | engagement message => exact held.abandoned.1
  | _ => exact held.abandoned.2

/-- A job that raises past the first commit abandons the session. -/
theorem Ready.job_late (ready : Ready session site) {attempt : Attempt}
    (raises : attempt.raises session.sessionId site = true)
    (late : ¬FailsEarly session.sessionId site attempt) :
    Abandoned session (site.finalizeJob session.sessionId attempt) := by
  have past := ready.run_past late
  unfold Attempt.raises at raises
  cases outcome : attempt.run session.sessionId site with
  | ok value last =>
    rw [outcome] at raises
    cases raises
  | error raised last =>
    rw [outcome] at past
    exact past.job_raised outcome

/-- A job that returns has done the work. -/
theorem Ready.job_returns (ready : Ready session site) {attempt : Attempt}
    (returns : attempt.raises session.sessionId site = false) :
    Finished session (site.finalizeJob session.sessionId attempt) := by
  have late : ¬FailsEarly session.sessionId site attempt := by
    intro early
    obtain ⟨last, raised, _⟩ := ready.run_early early
    unfold Attempt.raises at returns
    rw [raised] at returns
    cases returns
  have past := ready.run_past late
  unfold Attempt.raises at returns
  unfold Site.finalizeJob
  cases outcome : attempt.run session.sessionId site with
  | ok value last =>
    rw [outcome] at past
    obtain ⟨finished, settled⟩ := past
    refine ⟨?_, finished.2⟩
    show Recorded _ last.state.working
    rw [settled]
    exact finished.1
  | error raised last =>
    rw [outcome] at returns
    cases returns

/-- Nothing arrives at a closed session. -/
theorem Abandoned.receive (abandoned : Abandoned session site) (attempt : Attempt) :
    site.receive session.sessionId attempt = site := by
  unfold Site.receive
  induction attempt.arrivals with
  | nil => rfl
  | cons arrival later ih =>
    have refused : site.arrive session.sessionId arrival = site := by
      unfold Site.arrive
      rw [abandoned.closed.durable]
      rfl
    rw [List.foldl_cons, refused]
    exact ih

/-- `finalize_close` of a closed session previews it. -/
theorem finalizeClose_sealed (rows : List Participation) :
    Exec.Triple (Sealed session rows) (finalizeClose session.sessionId) (Sealed session rows)
      fun _ => Sealed session rows := by
  have reads : Exec.Triple (Sealed session rows) (frappeStore.getSession session.sessionId)
      (Sealed session rows) fun value site =>
        value = some (closed session) ∧ Sealed session rows site :=
    read_triple (fun site => site.working.sessions session.sessionId)
      (fun _ held => ⟨held.working, held⟩) fun _ held => held
  have requires : Exec.Triple (Sealed session rows)
      (requireSession frappeStore session.sessionId) (Sealed session rows) fun value site =>
        value = closed session ∧ Sealed session rows site := by
    have returns : Exec.Triple (Sealed session rows) (pure (closed session) : Request _)
        (Sealed session rows) fun value site => value = closed session ∧ Sealed session rows site :=
      .pure _ fun _ held => ⟨rfl, held⟩
    unfold requireSession
    refine reads.bind_value ?_
    exact returns
  have logs : Exec.Triple (Sealed session rows)
      (frappeStore.participations session.sessionId) (Sealed session rows)
      fun _ => Sealed session rows :=
    read_triple (fun site => site.log session.sessionId) (fun _ held => held) fun _ held => held
  unfold finalizeClose Engagement.finalizeClose
  refine requires.bind_value ?_
  rw [if_pos (show (closed session).status = .closed from rfl)]
  exact logs.bind fun _ => .pure _ fun _ held => held

/-- Every later job leaves the session abandoned. -/
theorem Abandoned.job (abandoned : Abandoned session site) (attempt : Attempt) :
    Abandoned session (site.finalizeJob session.sessionId attempt) := by
  have previewed : Exec.EndsWith (Sealed session (site.log session.sessionId))
      (fun _ => Sealed session (site.log session.sessionId))
      (attempt.run session.sessionId site) := by
    unfold Attempt.run
    rw [abandoned.receive]
    exact finalizeClose_sealed _ ⟨attempt.faults, site⟩ abandoned.closed
  cases outcome : attempt.run session.sessionId site with
  | ok value last =>
    rw [outcome] at previewed
    unfold Site.finalizeJob
    rw [outcome]
    exact previewed.abandoned.1
  | error raised last =>
    rw [outcome] at previewed
    exact previewed.job_raised outcome

/-- An abandoned session is not finished. -/
theorem Abandoned.unfinished (abandoned : Abandoned session site) : ¬Finished session site :=
  fun finished => abandoned.closed.silent _ finished.2

/-- In a run of jobs that raise before one that returns, the attendance of the session is durable
and its closing announced exactly if every job that raised did so by a fault up to its first
commit. -/
theorem finalize_survives_iff (session : EngagementSession) (site : Site)
    (attempts : List Attempt) (last : Attempt) (ready : Ready session site)
    (raise : EveryCall (Site.finalizeJob session.sessionId)
      (fun site attempt => attempt.raises session.sessionId site = true) site attempts)
    (returns : last.raises session.sessionId
      (runAll (Site.finalizeJob session.sessionId) site attempts) = false) :
    Finished session (runAll (Site.finalizeJob session.sessionId) site (attempts ++ [last])) ↔
      EveryCall (Site.finalizeJob session.sessionId) (FailsEarly session.sessionId) site
        attempts := by
  rw [runAll_append]
  -- The session waits as long as the jobs fail early, and is abandoned by the first that does not.
  induction attempts generalizing site with
  | nil => exact ⟨fun _ => trivial, fun _ => ready.job_returns returns⟩
  | cons attempt later ih =>
    by_cases early : FailsEarly session.sessionId site attempt
    · have waiting : Ready session (site.finalizeJob session.sessionId attempt) := by
        rw [ready.job_early early]
        exact ready.receive attempt
      rw [runAll_cons]
      exact (ih _ waiting raise.2 returns).trans ⟨fun every => ⟨early, every⟩, fun every => every.2⟩
    · have abandoned := runAll_invariant (Abandoned session) (fun _ attempt held => held.job attempt)
        (later ++ [last]) _ (ready.job_late raise.1 early)
      rw [runAll_append] at abandoned
      constructor
      · intro finished
        exact absurd finished abandoned.unfinished
      · intro every
        exact absurd every.1 early

end Jobs

/-- A closing session. -/
def gameNight : EngagementSession where
  sessionId := "ENG-1"
  gathering := "Game night"
  branch := "North"
  organization := "Flock"
  status := .closing
  openAt := some 0
  closeAt := some 100

/-- A site where it waits for its finalize. -/
def gameSite : Site where
  committed := { sessions := Function.update (fun _ => none) "ENG-1" (some gameNight) }
  working := { sessions := Function.update (fun _ => none) "ENG-1" (some gameNight) }

/-- It waits. -/
theorem gameSite_ready : Ready gameNight gameSite := by
  refine ⟨rfl, rfl, rfl, fun row member => ?_, fun count announced => ?_⟩
  · cases member
  · cases announced

/-- An interaction of a member within the closing grace. -/
def annPlays : Arrival where
  request :=
    { sessionId := "ENG-1"
      ticket := ⟨"ENG-1", "key-ann", some "ann", "phone", 0, 3600, "signature"⟩
      attendeeKey := "key-ann"
      memberId := some "ann"
      attendeeDisplayName := "Ann"
      deviceFingerprint := "phone"
      nonce := "n1" }
  submittedAt := 50
  flags := statusFlagsFor none false false

/-- A job without faults. -/
def calm : Attempt := {}

/-- A job whose insert of the attendance rows fails. -/
def failingInsert : Attempt := ⟨[annPlays], List.replicate 9 false ++ [true]⟩

/-- A job whose write of the status fails. -/
def failingStatus : Attempt := ⟨[annPlays], [false, true]⟩

/-- A status write that fails is made good by the next job. -/
theorem failed_status_survives_ann :
    Finished gameNight (runAll (Site.finalizeJob "ENG-1") gameSite ([failingStatus] ++ [calm])) :=
  (finalize_survives_iff gameNight gameSite [failingStatus] calm gameSite_ready
    (by decide +kernel) (by decide +kernel)).mpr (by decide +kernel)

/-- After an insert that fails the next job returns, with neither row nor announcement. -/
theorem failed_insert_abandons_ann :
    Ready gameNight gameSite ∧ failingInsert.raises "ENG-1" gameSite = true ∧
      calm.raises "ENG-1" (gameSite.finalizeJob "ENG-1" failingInsert) = false ∧
      ¬Finished gameNight
        ((gameSite.finalizeJob "ENG-1" failingInsert).finalizeJob "ENG-1" calm) := by
  refine ⟨gameSite_ready, ?_⟩
  decide +kernel

end FlockOs.EngagementFrappe
