import FlockOs.Verif.BulkAttendance
import FlockOs.Verif.FinalizeRetry

/-!
# The two gateways of bulk attendance

The same batches submitted over the gateway of the site and over the in-memory one. The
in-memory filter drops an item whose attendee is recorded; the filter of the site asks for the
whole key, and the unique indexes refuse what it lets through.
-/

namespace FlockOs.EngagementFrappe

open Lib Reporting

/-- `submit` over the gateway of a site where nothing fails. -/
def Site.submit (site : Site) (batch : Batch) :
    EStateM.Result Error (Planned Site) BulkBatchOutcome :=
  Reporting.submit frappeBulkGateway batch.items batch.scope batch.batchId ⟨[], site⟩

/-- What a call answered: an outcome or an exception. -/
def answerOf {σ α : Type} : EStateM.Result Error σ α → Except Error α
  | .ok outcome _ => .ok outcome
  | .error raised _ => .error raised

/-- The state that a call left. -/
def stateOf {σ α : Type} : EStateM.Result Error σ α → σ
  | .ok _ last => last
  | .error _ last => last

/-- A site and an in-memory gateway, with what they have answered. -/
structure Twin where
  /-- The site. -/
  site : Site := {}
  /-- The in-memory gateway. -/
  memory : InMemory := {}
  /-- The answers of the site. -/
  siteAnswers : List (Except Error BulkBatchOutcome) := []
  /-- The answers of the in-memory gateway. -/
  memoryAnswers : List (Except Error BulkBatchOutcome) := []

/-- Submit a batch over both. -/
def Twin.submit (twin : Twin) (batch : Batch) : Twin where
  site := (stateOf (twin.site.submit batch)).state
  memory := twin.memory.submit batch
  siteAnswers := twin.siteAnswers ++ [answerOf (twin.site.submit batch)]
  memoryAnswers := twin.memoryAnswers ++
    [answerOf (Reporting.submit inMemoryGateway batch.items batch.scope batch.batchId
      twin.memory)]

/-- The summary total of a branch and event, as `aggregate` reads it. -/
def Tables.total (tables : Tables) (key : String × String) : Nat := (tables.summaries key).getD 0

/-- The answers, the rows and the aggregates are the same. -/
structure Refines (twin : Twin) : Prop where
  /-- The answers. -/
  answers : twin.siteAnswers = twin.memoryAnswers
  /-- The rows, as the insert stores them. -/
  rows : twin.site.committed.attendance = twin.memory.insertedItems.map stored
  /-- The aggregates. -/
  totals : ∀ branch event,
    twin.site.committed.total (branch, event) = twin.memory.aggregate branch event

/-- The items of a batch whose whole key has no row. -/
def fresh (table : List AttendanceItem) (batch : Batch) : List AttendanceItem :=
  batch.items.filter fun item =>
    !(table.map (·.idempotencyKey)).contains item.idempotencyKey

/-- No item without a row under its whole key shares an index entry with a row, or with another
such item of the batch. -/
structure Harmless (table : List AttendanceItem) (batch : Batch) : Prop where
  /-- Rows. -/
  apart : ∀ item ∈ fresh table batch, ∀ row ∈ table, clashes (stored item) row = false
  /-- Items. -/
  together : ((fresh table batch).map stored).Pairwise fun row later => clashes later row = false

/-- Rows go in exactly when none breaks an index with a row before it. -/
theorem insertRows_iff : ∀ {table added : List AttendanceItem},
    insertRows table added = .ok (table ++ added) ↔
      (∀ row ∈ added, ∀ other ∈ table, clashes row other = false) ∧
        added.Pairwise fun row later => clashes later row = false
  | table, [] => by
    rw [List.append_nil]
    exact iff_of_true rfl ⟨by simp, .nil⟩
  | table, row :: rest => by
    have later : insertRows (table ++ [row]) rest = .ok (table ++ [row] ++ rest) ↔ _ :=
      insertRows_iff
    rw [insertRows, List.pairwise_cons]
    by_cases broken : table.any (clashes row) = true
    · rw [if_pos broken]
      refine iff_of_false (by rintro ⟨⟩) fun both => ?_
      obtain ⟨other, there, clash⟩ := List.any_eq_true.mp broken
      rw [both.1 row List.mem_cons_self other there] at clash
      cases clash
    · rw [if_neg broken, List.append_cons table row rest, later]
      have clear : ∀ other ∈ table, clashes row other = false := by
        simpa [List.any_eq_true] using broken
      constructor
      · intro both
        refine ⟨fun other member present there => ?_, fun other member => ?_, both.2⟩
        · cases List.mem_cons.mp member with
          | inl first =>
            rw [first]
            exact clear present there
          | inr among => exact both.1 other among present (List.mem_append_left _ there)
        · exact both.1 other member row (List.mem_append_right _ (List.mem_singleton_self _))
      · intro both
        refine ⟨fun other member present there => ?_, both.2.2⟩
        cases List.mem_append.mp there with
        | inl old => exact both.1 other (List.mem_cons_of_mem _ member) present old
        | inr new =>
          rw [List.mem_singleton.mp new]
          exact both.2.1 other member

/-- The rows of a batch go in exactly when it is harmless. -/
theorem harmless_iff {table : List AttendanceItem} {batch : Batch} :
    Harmless table batch ↔
      insertRows table ((fresh table batch).map stored) =
        .ok (table ++ (fresh table batch).map stored) := by
  rw [insertRows_iff]
  constructor
  · intro harmless
    refine ⟨fun row member other there => ?_, harmless.together⟩
    obtain ⟨item, isFresh, same⟩ := List.mem_map.mp member
    rw [← same]
    exact harmless.apart item isFresh other there
  · intro both
    exact ⟨fun item isFresh => both.1 (stored item) (List.mem_map_of_mem isFresh), both.2⟩

section Runs

variable {site : Site} {batch : Batch}

/-- The site of a request with other working tables. -/
def requestWith (site : Site) (tables : Tables) : Planned Site := ⟨[], site.withWorking tables⟩

/-- The tables with more rows. -/
def Tables.addRows (tables : Tables) (rows : List AttendanceItem) : Tables :=
  { tables with attendance := tables.attendance ++ rows }

/-- The tables with a batch counted by event. -/
def Tables.addTotals (tables : Tables) (branch : String) (entries : List (String × Nat)) :
    Tables :=
  entries.foldl (fun tables entry => tables.increment branch entry.1 entry.2) tables

/-- The tables after a batch. -/
def Tables.record (tables : Tables) (batch : Batch) : Tables :=
  (tables.addRows ((fresh tables.attendance batch).map stored)).addTotals batch.scope.branch
    (counter ((fresh tables.attendance batch).map (·.event)))

/-- The events of an accepted batch. -/
def freshEvents (table : List AttendanceItem) (batch : Batch) : List DomainEvent :=
  (counter ((fresh table batch).map (·.event))).map fun entry =>
    bulkRecorded batch.scope batch.batchId entry.1 entry.2

/-- The outcome of an accepted batch. -/
def acceptedOutcome (table : List AttendanceItem) (batch : Batch) : BulkBatchOutcome :=
  ⟨batch.batchId, batch.scope, true, (fresh table batch).length,
    batch.items.length - (fresh table batch).length, [], freshEvents table batch⟩

/-- Seeding no events changes nothing. -/
theorem Tables.seed_nil (tables : Tables) (branch : String) : tables.seed branch [] = tables := by
  simp [Tables.seed]

/-- The filter reads the table. -/
theorem filterUnseen_run (keys : List IdempotencyKey) (site : Site) :
    filterUnseen keys ⟨[], site⟩ =
      .ok (keys.filter fun key =>
        !(site.working.attendance.map (·.idempotencyKey)).contains key) ⟨[], site⟩ := by
  rw [filterUnseen]
  cases keys with
  | nil => rfl
  | cons key rest => rfl

/-- The items that pass the filter. -/
theorem passing_eq_fresh (table : List AttendanceItem) (batch : Batch) :
    (batch.items.filter fun item =>
      ((batch.items.map (·.idempotencyKey)).filter fun key =>
        !(table.map (·.idempotencyKey)).contains key).contains item.idempotencyKey) =
      fresh table batch := by
  apply List.filter_congr
  intro item member
  rw [Bool.eq_iff_iff, List.contains_iff_mem, List.mem_filter, and_iff_right_iff_imp]
  exact fun _ => List.mem_map_of_mem member

/-- The insert statement of rows that go in. -/
theorem bulkInsert_run {items : List AttendanceItem} (some_item : items.isEmpty = false)
    (goes : insertRows site.working.attendance (items.map stored) =
      .ok (site.working.attendance ++ items.map stored)) :
    bulkInsert items ⟨[], site⟩ =
      .ok items.length (requestWith site (site.working.addRows (items.map stored))) := by
  have inserted : insertStatement (items.map stored) site =
      .ok ⟨⟩ (site.withWorking (site.working.addRows (items.map stored))) := by
    rw [insertStatement, Exec.bind_run_ok (Exec.get_run site), goes]
    rfl
  have called : call (insertStatement (items.map stored)) ⟨[], site⟩ =
      .ok ⟨⟩ (requestWith site (site.working.addRows (items.map stored))) :=
    Exec.attempt_run_ok inserted
  rw [bulkInsert, some_item]
  exact Exec.bind_run_ok called _

/-- The insert statement of rows that do not go in. -/
theorem bulkInsert_refused {items : List AttendanceItem} {raised : Error}
    (some_item : items.isEmpty = false)
    (refused : insertRows site.working.attendance (items.map stored) = .error raised) :
    bulkInsert items ⟨[], site⟩ = .error raised ⟨[], site⟩ := by
  have failed : insertStatement (items.map stored) site = .error raised site := by
    rw [insertStatement, Exec.bind_run_ok (Exec.get_run site), refused]
    rfl
  have called : call (insertStatement (items.map stored)) ⟨[], site⟩ =
      .error raised ⟨[], site⟩ := Exec.attempt_run_error failed
  rw [bulkInsert, some_item]
  exact Exec.bind_run_error called _

/-- The increments of a batch. -/
theorem increments_run (scope : AttendanceScope) (entries : List (String × Nat))
    (tables : Tables) (site : Site) :
    (entries.forM fun entry => frappeBulkGateway.incrementAggregate scope entry.1 entry.2)
        (requestWith site tables) =
      .ok ⟨⟩ (requestWith site (tables.addTotals scope.branch entries)) :=
  Exec.forM_run_on (requestWith site) _
    (fun tables entry => tables.increment scope.branch entry.1 entry.2) (fun _ _ => rfl) entries
    tables

/-- The block of `submit` on rows that go in. -/
theorem writeNew_run
    (goes : insertRows site.working.attendance ((fresh site.working.attendance batch).map stored) =
      .ok (site.working.attendance ++ (fresh site.working.attendance batch).map stored)) :
    writeNew frappeBulkGateway batch.items batch.scope batch.batchId ⟨[], site⟩ =
      .ok ((fresh site.working.attendance batch).length,
          batch.items.length - (fresh site.working.attendance batch).length,
          freshEvents site.working.attendance batch)
        (requestWith site (site.working.record batch)) := by
  have filtered : frappeBulkGateway.filterUnseen (batch.items.map (·.idempotencyKey))
      ⟨[], site⟩ = _ := filterUnseen_run _ site
  rw [writeNew, Exec.bind_run_ok filtered]
  dsimp only
  rw [passing_eq_fresh]
  cases empty : (fresh site.working.attendance batch).isEmpty with
  | true =>
    have none := List.isEmpty_iff.mp empty
    have same : site.working.record batch = site.working := by
      rw [Tables.record, none]
      show ({ site.working with attendance := site.working.attendance ++ [] } : Tables) = _
      rw [List.append_nil]
    rw [same, freshEvents, none]
    rfl
  | false =>
    have inserted : frappeBulkGateway.bulkInsert (fresh site.working.attendance batch)
        ⟨[], site⟩ = _ := bulkInsert_run empty goes
    have counted := increments_run batch.scope
      (counter ((fresh site.working.attendance batch).map (·.event)))
      (site.working.addRows ((fresh site.working.attendance batch).map stored)) site
    rw [if_neg Bool.false_ne_true, Exec.bind_run_ok inserted, Exec.bind_run_ok counted]
    rfl

/-- The block of `submit` on rows that do not go in. -/
theorem writeNew_refused {raised : Error}
    (refused : insertRows site.working.attendance
      ((fresh site.working.attendance batch).map stored) = .error raised) :
    writeNew frappeBulkGateway batch.items batch.scope batch.batchId ⟨[], site⟩ =
      .error raised ⟨[], site⟩ := by
  have filtered : frappeBulkGateway.filterUnseen (batch.items.map (·.idempotencyKey))
      ⟨[], site⟩ = _ := filterUnseen_run _ site
  rw [writeNew, Exec.bind_run_ok filtered]
  dsimp only
  rw [passing_eq_fresh]
  cases empty : (fresh site.working.attendance batch).isEmpty with
  | true =>
    rw [List.isEmpty_iff.mp empty] at refused
    cases refused
  | false =>
    have failed : frappeBulkGateway.bulkInsert (fresh site.working.attendance batch)
        ⟨[], site⟩ = _ := bulkInsert_refused empty refused
    rw [if_neg Bool.false_ne_true]
    exact Exec.bind_run_error failed _

/-- A block that returns is committed. -/
theorem transaction_run {α : Type} {body : Request α} {value : α} {next : Site}
    (returned : body ⟨[], site.commit⟩ = .ok value ⟨[], next⟩) :
    transaction body ⟨[], site⟩ = .ok value ⟨[], next.commit⟩ := by
  have guards : guarded body ⟨[], site.commit⟩ = .ok value ⟨[], next.commit⟩ :=
    (Exec.tryFinally_run_ok (Exec.tryCatch_run_ok returned)).trans rfl
  exact guards

/-- A block that raises is rolled back. -/
theorem transaction_refused {α : Type} {body : Request α} {raised : Error} {next : Site}
    (failed : body ⟨[], site.commit⟩ = .error raised ⟨[], next⟩) :
    transaction body ⟨[], site⟩ = .error raised ⟨[], next.rollback.commit⟩ := by
  have handled : (tryCatch body fun raised => do
      write Site.rollback
      throw raised : Request α) ⟨[], site.commit⟩ = .error raised ⟨[], next.rollback⟩ :=
    (Exec.tryCatch_run_error failed).trans rfl
  have guards : guarded body ⟨[], site.commit⟩ = .error raised ⟨[], next.rollback.commit⟩ :=
    (Exec.tryFinally_run_error handled).trans rfl
  exact guards

/-- The site with the summary rows of a batch. -/
def Site.seeded (site : Site) (batch : Batch) : Site :=
  (site.withWorking
    (site.working.seed batch.scope.branch (batch.items.map (·.event)).eraseDups)).commit

/-- Nothing waits to be committed. -/
def Site.Settled (site : Site) : Prop := site.working = site.committed

/-- A settled site is committed already. -/
theorem Site.Settled.commit_eq (settled : site.Settled) : site.commit = site := by
  obtain ⟨committed, working, log, nonceSeen, publishedEvents⟩ := site
  have same : working = committed := settled
  subst same
  rfl

/-- The seeding of a batch. -/
theorem seedAggregate_run (settled : site.Settled) :
    seedAggregate batch.scope (batch.items.map (·.event)).eraseDups ⟨[], site⟩ =
      .ok ⟨⟩ ⟨[], site.seeded batch⟩ := by
  rw [seedAggregate]
  cases events : (batch.items.map (·.event)).eraseDups with
  | nil =>
    have same : site.seeded batch = site := by
      rw [Site.seeded, events, Tables.seed_nil]
      exact settled.commit_eq
    rw [same]
    rfl
  | cons event rest =>
    rw [Site.seeded, events]
    rfl

/-- The emissions of a batch. -/
theorem emissions_run (events : List DomainEvent) (site : Site) :
    events.forM frappeBulkGateway.emit ⟨[], site⟩ =
      .ok ⟨⟩ ⟨[], events.foldl (fun site event => site.publish ⟨event.name, event.payload, []⟩)
        site⟩ :=
  Exec.forM_run_on (Planned.mk []) _
    (fun site event => site.publish ⟨event.name, event.payload, []⟩) (fun _ _ => rfl) events site

/-- Publishing leaves the tables alone. -/
theorem foldl_publish_tables : ∀ (events : List DomainEvent) (site : Site),
    (events.foldl (fun site event => site.publish ⟨event.name, event.payload, []⟩)
        site).working = site.working ∧
      (events.foldl (fun site event => site.publish ⟨event.name, event.payload, []⟩)
        site).committed = site.committed
  | [], _ => ⟨rfl, rfl⟩
  | event :: rest, site => foldl_publish_tables rest (site.publish ⟨event.name, event.payload, []⟩)

/-- The tables that a batch finds once its summary rows are seeded. -/
def Tables.prepared (tables : Tables) (batch : Batch) : Tables :=
  tables.seed batch.scope.branch (batch.items.map (·.event)).eraseDups

/-- A submission over the site: the rejection of a batch out of scope, the outcome of a harmless
one, or an exception with everything but the seeding rolled back. -/
inductive Submitted (site : Site) (batch : Batch) :
    EStateM.Result Error (Planned Site) BulkBatchOutcome → Prop
  /-- The batch is rejected. -/
  | rejected (last : Site) (outside : batch.inScope = false) (settled : last.Settled)
      (same : last.committed = site.committed) :
      Submitted site batch (.ok ⟨batch.batchId, batch.scope, false, 0, 0,
        batch.items.mapIdx fun index item => ⟨index, item.attendeeRef, "batch_scope_violation"⟩,
        [batchRejected batch.items batch.scope batch.batchId]⟩ ⟨[], last⟩)
  /-- The batch is written. -/
  | accepted (last : Site) (inside : batch.inScope = true)
      (harmless : Harmless site.committed.attendance batch) (settled : last.Settled)
      (written : last.committed = (site.committed.prepared batch).record batch) :
      Submitted site batch
        (.ok (acceptedOutcome site.committed.attendance batch) ⟨[], last⟩)
  /-- The batch breaks an index. -/
  | refused (last : Site) (raised : Error) (inside : batch.inScope = true)
      (harmful : ¬Harmless site.committed.attendance batch) (settled : last.Settled)
      (seeded : last.committed = site.committed.prepared batch) :
      Submitted site batch (.error raised ⟨[], last⟩)

/-- What a submission over a settled site does. -/
theorem submit_cases (settled : site.Settled) (batch : Batch) :
    Submitted site batch (site.submit batch) := by
  rw [Site.submit, Reporting.submit]
  cases inside : batch.inScope with
  | false =>
    have outside : (batch.items.any fun item => item.branch ≠ batch.scope.branch) = true := by
      simpa [Batch.inScope] using inside
    rw [if_pos outside]
    exact .rejected (site.publish ⟨_, _, []⟩) inside settled rfl
  | true =>
    have passed : ¬ (batch.items.any fun item => item.branch ≠ batch.scope.branch) = true := by
      simpa [Batch.inScope] using inside
    have seeded : frappeBulkGateway.seedAggregate batch.scope
        (batch.items.map (·.event)).eraseDups ⟨[], site⟩ = _ := seedAggregate_run settled
    rw [if_neg passed, Exec.bind_run_ok seeded]
    have tables : (site.seeded batch).working = site.committed.prepared batch := by
      rw [← settled]
      rfl
    have table : (site.seeded batch).working.attendance = site.committed.attendance := by
      rw [tables]
      rfl
    cases goes : insertRows site.committed.attendance
        ((fresh site.committed.attendance batch).map stored) with
    | ok result =>
      rw [insertRows_ok goes] at goes
      have harmless := harmless_iff.mpr goes
      rw [← table] at goes
      have ran : frappeBulkGateway.transaction (writeNew frappeBulkGateway batch.items batch.scope
          batch.batchId) ⟨[], site.seeded batch⟩ = _ := transaction_run (writeNew_run goes)
      rw [Exec.bind_run_ok ran]
      dsimp only
      rw [Exec.bind_run_ok (emissions_run _ _), Exec.pure_run]
      have published (start : Site) :=
        foldl_publish_tables (freshEvents (site.seeded batch).working.attendance batch) start
      have outcome : acceptedOutcome (site.seeded batch).working.attendance batch =
          acceptedOutcome site.committed.attendance batch := by
        rw [table]
      show Submitted site batch
        (.ok (acceptedOutcome (site.seeded batch).working.attendance batch) _)
      rw [outcome]
      refine .accepted _ inside harmless ?_ ?_
      · have both := published ((site.seeded batch).withWorking
          ((site.seeded batch).working.record batch)).commit
        exact both.1.trans both.2.symm
      · rw [← tables]
        exact (published _).2
    | error raised =>
      have harmful : ¬ Harmless site.committed.attendance batch := by
        rw [harmless_iff, goes]
        rintro ⟨⟩
      rw [← table] at goes
      have ran : frappeBulkGateway.transaction (writeNew frappeBulkGateway batch.items batch.scope
          batch.batchId) ⟨[], site.seeded batch⟩ = _ := transaction_refused (writeNew_refused goes)
      rw [Exec.bind_run_error ran]
      refine .refused _ raised inside harmful rfl ?_
      rw [← tables]
      rfl

end Runs

/-- Seeding leaves the totals alone. -/
theorem Tables.total_prepared (tables : Tables) (batch : Batch) :
    (tables.prepared batch).total = tables.total := by
  funext key
  rw [Tables.total, Tables.total, Tables.prepared, Tables.seed]
  dsimp only
  split
  · cases tables.summaries key <;> rfl
  · rfl

/-- The events of a batch have summary rows once they are seeded. -/
theorem Tables.prepared_isSome (tables : Tables) {batch : Batch} {item : AttendanceItem}
    (member : item ∈ batch.items) :
    ((tables.prepared batch).summaries (batch.scope.branch, item.event)).isSome = true := by
  have seeded : item.event ∈ (batch.items.map (·.event)).eraseDups :=
    List.mem_eraseDups.mpr (List.mem_map_of_mem member)
  rw [Tables.prepared, Tables.seed]
  dsimp only
  rw [if_pos ⟨rfl, seeded⟩]
  cases tables.summaries (batch.scope.branch, item.event) <;> rfl

/-- An increment of a summary row adds to its total. -/
theorem Tables.total_increment {tables : Tables} {branch event : String}
    (there : (tables.summaries (branch, event)).isSome = true) (delta : Nat) :
    (tables.increment branch event delta).total = addAt tables.total (branch, event) delta := by
  funext key
  obtain ⟨total, found⟩ := Option.isSome_iff_exists.mp there
  rw [Tables.total, Tables.increment, addAt, Tables.total]
  dsimp only
  by_cases same : key = (branch, event)
  · rw [same, Function.update_self, Function.update_self, found]
    rfl
  · rw [Function.update_of_ne same, Function.update_of_ne same]
    rfl

/-- An increment takes no summary row away. -/
theorem Tables.isSome_increment (tables : Tables) (branch event : String) (delta : Nat)
    (key : String × String) :
    ((tables.increment branch event delta).summaries key).isSome =
      (tables.summaries key).isSome := by
  rw [Tables.increment]
  dsimp only
  by_cases same : key = (branch, event)
  · rw [same, Function.update_self, Option.isSome_map]
  · rw [Function.update_of_ne same]

/-- Increments of summary rows add to their totals. -/
theorem Tables.total_addTotals {branch : String} : ∀ {entries : List (String × Nat)}
    {tables : Tables}, (∀ entry ∈ entries, (tables.summaries (branch, entry.1)).isSome = true) →
    (tables.addTotals branch entries).total =
      entries.foldl (fun totals entry => addAt totals (branch, entry.1) entry.2) tables.total
  | [], _, _ => rfl
  | entry :: rest, tables, there => by
    have now := Tables.total_increment (there entry List.mem_cons_self) entry.2
    have later : ∀ other ∈ rest, ((tables.increment branch entry.1 entry.2).summaries
        (branch, other.1)).isSome = true := by
      intro other member
      rw [Tables.isSome_increment]
      exact there other (List.mem_cons_of_mem _ member)
    rw [List.foldl_cons, ← now]
    exact Tables.total_addTotals later

/-- Increments leave the rows alone. -/
theorem Tables.attendance_addTotals {branch : String} : ∀ (entries : List (String × Nat))
    (tables : Tables), (tables.addTotals branch entries).attendance = tables.attendance
  | [], _ => rfl
  | entry :: rest, tables =>
    Tables.attendance_addTotals rest (tables.increment branch entry.1 entry.2)

/-- A batch adds its new rows. -/
theorem Tables.attendance_record (tables : Tables) (batch : Batch) :
    ((tables.prepared batch).record batch).attendance =
      tables.attendance ++ (fresh tables.attendance batch).map stored :=
  Tables.attendance_addTotals ..

/-- Every total is the number of rows of its branch and event. -/
def InStep (tables : Tables) : Prop :=
  ∀ branch event, tables.total (branch, event) =
    tables.attendance.countP fun row => row.branch = branch ∧ row.event = event

/-- An accepted batch leaves the totals in step with the rows. -/
theorem InStep.record {tables : Tables} {batch : Batch} (inStep : InStep tables)
    (inside : batch.inScope = true) : InStep ((tables.prepared batch).record batch) := by
  intro branch event
  have seeded : ∀ entry ∈ counter ((fresh tables.attendance batch).map (·.event)),
      (((tables.prepared batch).addRows
        ((fresh tables.attendance batch).map stored)).summaries
          (batch.scope.branch, entry.1)).isSome = true := by
    intro entry member
    obtain ⟨value, kept, same⟩ := List.mem_map.mp member
    obtain ⟨item, isFresh, event⟩ := List.mem_map.mp (List.mem_eraseDups.mp kept)
    rw [← same, ← event]
    exact tables.prepared_isSome (List.mem_of_mem_filter isFresh)
  have counted := Tables.total_addTotals seeded
  have own : ∀ item ∈ fresh tables.attendance batch, item.branch = batch.scope.branch := by
    intro item isFresh
    exact of_decide_eq_true (List.all_eq_true.mp inside item (List.mem_of_mem_filter isFresh))
  have whole : ((tables.prepared batch).record batch).total (branch, event) = _ :=
    congrFun counted (branch, event)
  have before : ((tables.prepared batch).addRows
      ((fresh tables.attendance batch).map stored)).total = tables.total :=
    tables.total_prepared batch
  rw [whole, before, foldl_addAt_rows own, Tables.attendance_record, List.countP_append,
    inStep branch event, List.countP_map]
  rfl

/-- An index refuses a second row of an attendee. -/
theorem clashes_of_uniqueKey {row other : AttendanceItem} (same : row.uniqueKey = other.uniqueKey) :
    clashes row other = true := by
  rw [clashes, same, beq_self_eq_true, Bool.true_or, Bool.true_or]

/-- A row and its item name the same attendee. -/
theorem stored_uniqueKey (item : AttendanceItem) : (stored item).uniqueKey = item.uniqueKey := rfl

/-- Items with the same whole key name the same attendee. -/
theorem uniqueKey_of_idempotencyKey {item other : AttendanceItem}
    (same : item.idempotencyKey = other.idempotencyKey) : item.uniqueKey = other.uniqueKey :=
  congrArg (fun key : IdempotencyKey => (key.1, key.2.1)) same

/-- Where no fresh item breaks an index with a row, both filters pass the same items. -/
theorem newItems_eq_fresh {memory : InMemory} {table : List AttendanceItem} {batch : Batch}
    (ledger : Ledger memory) (rows : table = memory.insertedItems.map stored)
    (apart : ∀ item ∈ fresh table batch, ∀ row ∈ table, clashes (stored item) row = false) :
    memory.newItems batch = fresh table batch := by
  rw [ledger.newItems batch]
  apply List.filter_congr
  intro item member
  rw [Bool.eq_iff_iff, decide_eq_true_iff, Bool.not_eq_true', ← Bool.not_eq_true,
    List.contains_iff_mem, not_iff_not]
  constructor
  · intro recorded
    obtain ⟨earlier, there, same⟩ := List.mem_map.mp recorded
    by_contra absent
    have isFresh : item ∈ fresh table batch :=
      List.mem_filter.mpr ⟨member, by simpa [List.contains_iff_mem] using absent⟩
    have isRow : stored earlier ∈ table := by
      rw [rows]
      exact List.mem_map_of_mem there
    have broken : clashes (stored item) (stored earlier) = true :=
      clashes_of_uniqueKey same.symm
    rw [apart item isFresh (stored earlier) isRow] at broken
    cases broken
  · intro keyed
    obtain ⟨row, there, sameKey⟩ := List.mem_map.mp keyed
    rw [rows] at there
    obtain ⟨earlier, inserted, isStored⟩ := List.mem_map.mp there
    have same := uniqueKey_of_idempotencyKey sameKey
    rw [← isStored, stored_uniqueKey] at same
    rw [← same]
    exact List.mem_map_of_mem inserted

/-- The in-memory gateway rejects a batch out of scope. -/
theorem memory_rejects {batch : Batch} (outside : batch.inScope = false) (memory : InMemory) :
    answerOf (Reporting.submit inMemoryGateway batch.items batch.scope batch.batchId memory) =
      .ok ⟨batch.batchId, batch.scope, false, 0, 0,
        batch.items.mapIdx fun index item => ⟨index, item.attendeeRef, "batch_scope_violation"⟩,
        [batchRejected batch.items batch.scope batch.batchId]⟩ := by
  have found : (batch.items.any fun item => item.branch ≠ batch.scope.branch) = true := by
    simpa [Batch.inScope] using outside
  rw [Reporting.submit, if_pos found]
  rfl

/-- Whatever the in-memory gateway does with a batch, it returns an outcome. -/
theorem memory_returns (memory : InMemory) (batch : Batch) :
    ∃ outcome, answerOf
      (Reporting.submit inMemoryGateway batch.items batch.scope batch.batchId memory) =
        .ok outcome := by
  cases inside : batch.inScope with
  | false => exact ⟨_, memory_rejects inside memory⟩
  | true =>
    rw [submit_inScope inside]
    exact ⟨_, rfl⟩

/-- The in-memory outcome of an accepted batch, where both filters pass the same items. -/
theorem memory_accepts {memory : InMemory} {table : List AttendanceItem} {batch : Batch}
    (inside : batch.inScope = true) (same : memory.newItems batch = fresh table batch) :
    answerOf (Reporting.submit inMemoryGateway batch.items batch.scope batch.batchId memory) =
      .ok (acceptedOutcome table batch) := by
  rw [submit_inScope inside, InMemory.recordedEvents, same]
  rfl

/-- The sets and the counters of the in-memory gateway describe its rows, and so do the summary
rows of the site, where nothing waits to be committed. -/
structure Sound (twin : Twin) : Prop where
  /-- The in-memory gateway. -/
  ledger : Ledger twin.memory
  /-- Nothing waits to be committed. -/
  settled : twin.site.Settled
  /-- The summary rows. -/
  inStep : InStep twin.site.committed

/-- At the start nothing is recorded. -/
theorem Sound.empty : Sound {} where
  ledger := Ledger.empty
  settled := rfl
  inStep _ _ := rfl

/-- A submission leaves the site settled and its totals in step. -/
theorem Submitted.settled_inStep {site : Site} {batch : Batch}
    {result : EStateM.Result Error (Planned Site) BulkBatchOutcome}
    (submitted : Submitted site batch result) (inStep : InStep site.committed) :
    (stateOf result).state.Settled ∧ InStep (stateOf result).state.committed := by
  cases submitted with
  | rejected last outside settled same =>
    refine ⟨settled, ?_⟩
    show InStep last.committed
    rw [same]
    exact inStep
  | accepted last inside harmless settled written =>
    refine ⟨settled, ?_⟩
    show InStep last.committed
    rw [written]
    exact inStep.record inside
  | refused last raised inside harmful settled seeded =>
    refine ⟨settled, fun branch event => ?_⟩
    show last.committed.total (branch, event) = last.committed.attendance.countP _
    rw [seeded, Tables.total_prepared]
    exact inStep branch event

/-- Every batch keeps both sound. -/
theorem Sound.submit {twin : Twin} (sound : Sound twin) (batch : Batch) :
    Sound (twin.submit batch) :=
  have left := (submit_cases sound.settled batch).settled_inStep sound.inStep
  ⟨sound.ledger.submit batch, left.1, left.2⟩

/-- Totals that count the rows agree while the rows do. -/
theorem Sound.totals {twin : Twin} (sound : Sound twin)
    (rows : twin.site.committed.attendance = twin.memory.insertedItems.map stored)
    (branch event : String) :
    twin.site.committed.total (branch, event) = twin.memory.aggregate branch event := by
  rw [sound.inStep branch event, rows, List.countP_map, InMemory.aggregate,
    sound.ledger.counters_eq]
  rfl

/-- Both start in agreement. -/
theorem Refines.empty : Refines {} where
  answers := rfl
  rows := rfl
  totals := Sound.empty.totals rfl

/-- A batch keeps both in agreement exactly when it is out of scope or harmless. -/
theorem Sound.submit_refines_iff {twin : Twin} (sound : Sound twin) (refines : Refines twin)
    (batch : Batch) :
    Refines (twin.submit batch) ↔
      (batch.inScope = true → Harmless twin.site.committed.attendance batch) := by
  have next := sound.submit batch
  have submitted := submit_cases sound.settled batch
  -- The totals follow from the rows, so a step has to match the answer and the rows.
  have agree (answer : answerOf (twin.site.submit batch) = answerOf (Reporting.submit
        inMemoryGateway batch.items batch.scope batch.batchId twin.memory))
      (rows : (twin.submit batch).site.committed.attendance =
        (twin.submit batch).memory.insertedItems.map stored) : Refines (twin.submit batch) := by
    refine ⟨?_, rows, next.totals rows⟩
    show twin.siteAnswers ++ _ = twin.memoryAnswers ++ _
    rw [refines.answers, answer]
  generalize ran : twin.site.submit batch = result at submitted
  cases submitted with
  | rejected last outside settled same =>
    refine iff_of_true (agree ?_ ?_) fun inside => ?_
    · rw [ran, memory_rejects outside]
      rfl
    · show (stateOf (twin.site.submit batch)).state.committed.attendance =
        (twin.memory.submit batch).insertedItems.map stored
      rw [ran, InMemory.submit_outOfScope outside]
      show last.committed.attendance = _
      rw [same]
      exact refines.rows
    · rw [outside] at inside
      cases inside
  | accepted last inside harmless settled written =>
    have passed := newItems_eq_fresh sound.ledger refines.rows harmless.apart
    refine iff_of_true (agree ?_ ?_) fun _ => harmless
    · rw [ran, memory_accepts inside passed]
      rfl
    · show (stateOf (twin.site.submit batch)).state.committed.attendance =
        (twin.memory.submit batch).insertedItems.map stored
      rw [ran, InMemory.submit_record inside]
      show last.committed.attendance = (twin.memory.insertedItems ++ _).map stored
      rw [written, Tables.attendance_record, passed, List.map_append, refines.rows]
  | refused last raised inside harmful settled seeded =>
    refine iff_of_false (fun both => ?_) fun harmless => harmful (harmless inside)
    have answers : twin.siteAnswers ++ _ = twin.memoryAnswers ++ _ := both.answers
    rw [refines.answers] at answers
    have differ := List.append_cancel_left answers
    obtain ⟨outcome, returned⟩ := memory_returns twin.memory batch
    rw [ran, returned] at differ
    cases differ

/-- Over every sequence of batches the site answers, stores and counts what the in-memory
gateway does exactly if no batch in scope has an item that passes the filter of the site and
breaks an index. -/
theorem gateways_agree_iff (batches : List Batch) :
    EveryState Twin.submit Refines {} batches ↔
      EveryCall Twin.submit (fun twin batch =>
        batch.inScope = true → Harmless twin.site.committed.attendance batch) {} batches :=
  everyState_iff_everyCall Sound (fun _ batch sound => sound.submit batch)
    (fun _ batch sound refines => sound.submit_refines_iff refines batch) Sound.empty
    Refines.empty

/-- A roster that credits a member at a gathering. -/
def rosterBatch : Batch where
  items := [⟨"Game night", "ann", "North", "Present", "bulk", some "manual:ann",
    some "Game night", some "ann", none, none⟩]
  scope := ⟨"North"⟩
  batchId := "roster"

/-- The credit of the same member for a session of the gathering. -/
def gameBatch : Batch where
  items := [Engagement.participationToAttendanceItem
    (Engagement.EngagementService.participationOf gameNight annPlays.request
      annPlays.submittedAt annPlays.flags)]
  scope := ⟨gameNight.branch⟩
  batchId := Engagement.batchId gameNight

/-- Each batch names the member once. The in-memory gateway drops the second credit; the site
raises on it. -/
theorem second_credit_raises :
    (∀ batch ∈ [rosterBatch, gameBatch], (batch.items.map (·.uniqueKey)).Nodup) ∧
      ¬ EveryState Twin.submit Refines {} [rosterBatch, gameBatch] := by
  refine ⟨by decide, fun throughout => ?_⟩
  have site : (runAll Twin.submit {} [rosterBatch, gameBatch]).siteAnswers[1]? =
      some (.error .duplicateEntry) := by decide +kernel
  have memory : (runAll Twin.submit {} [rosterBatch, gameBatch]).memoryAnswers[1]? =
      some (.ok ⟨"engagement:ENG-1", ⟨"North"⟩, true, 0, 1, [], []⟩) := by decide +kernel
  rw [throughout.last.answers, memory] at site
  cases site

end FlockOs.EngagementFrappe
