import FlockOs.Verif.BulkAttendance

/-!
# The balance of a batch

The rows that a batch writes, the counters, the receipt and the events that it publishes are
kept in step by one call of `submit`, and a batch that was accepted leaves nothing to write for
its items.
-/

namespace FlockOs.Reporting

open Lib

/-- A call that rejects its batch: one event is published and nothing else changes. -/
structure Refused (batch : Batch) (state next : InMemory) (outcome : BulkBatchOutcome) :
    Prop where
  rejected : outcome.accepted = false ∧ outcome.inserted = 0 ∧
    outcome.events = [batchRejected batch.items batch.scope batch.batchId]
  published : next.publishedEvents = state.publishedEvents ++ outcome.events
  insertedItems : next.insertedItems = state.insertedItems
  counters : next.counters = state.counters
  seen : next.seen = state.seen
  unique : next.unique = state.unique

/-- The events of a call: one for each gathering with a row, with the number of its rows. -/
structure Announces (batch : Batch) (rows : List AttendanceItem) (events : List DomainEvent)
    (entries : List (String × Nat)) : Prop where
  events_eq : events = entries.map fun entry =>
    bulkRecorded batch.scope batch.batchId entry.1 entry.2
  distinct : (entries.map Prod.fst).Nodup
  gatherings : ∀ event, event ∈ entries.map Prod.fst ↔ ∃ item ∈ rows, item.event = event
  counts : ∀ entry ∈ entries, entry.2 = rows.countP fun item => item.event = entry.1
  total : (entries.map Prod.snd).sum = rows.length

/-- A call that accepts its batch and writes the rows. -/
structure Booked (batch : Batch) (state next : InMemory) (outcome : BulkBatchOutcome)
    (rows : List AttendanceItem) : Prop where
  accepted : outcome.accepted = true ∧ outcome.rejected = []
  insertedItems : next.insertedItems = state.insertedItems ++ rows
  taken : rows.Sublist batch.items
  inserted : outcome.inserted = rows.length
  balance : outcome.inserted + outcome.deduplicated = batch.items.length
  grown : ∀ event, next.counters (batch.scope.branch, event) =
    state.counters (batch.scope.branch, event) + rows.countP fun item => item.event = event
  others : ∀ branch event, branch ≠ batch.scope.branch →
    next.counters (branch, event) = state.counters (branch, event)
  published : next.publishedEvents = state.publishedEvents ++ outcome.events
  announced : ∃ entries, Announces batch rows outcome.events entries

/-- The call writes nothing, publishes nothing and leaves the gateway as it is. -/
def NothingNew (items : List AttendanceItem) (scope : AttendanceScope) (batchId : String)
    (state : InMemory) : Prop :=
  ∃ outcome, submit inMemoryGateway items scope batchId state = .ok outcome state ∧
    outcome.inserted = 0 ∧ outcome.events = []

/-- The events of an accepted batch count its new rows. -/
theorem announces_newItems (state : InMemory) (batch : Batch) :
    Announces batch (state.newItems batch) (state.recordedEvents batch)
      (counter ((state.newItems batch).map (·.event))) where
  events_eq := rfl
  distinct := by
    rw [map_fst_counter]
    exact nodup_eraseDups _
  gatherings event := by
    rw [map_fst_counter, List.mem_eraseDups, List.mem_map]
  counts entry member := by
    rw [mem_counter member, List.count_eq_countP, List.countP_map]
    exact List.countP_congr fun _ _ => by simp
  total := by rw [sum_snd_counter, List.length_map]

/-- An accepted batch adds its new rows of a branch and event to their counter. -/
theorem record_counters {batch : Batch} (inside : batch.inScope = true) (state : InMemory)
    (branch event : String) :
    (state.record batch).counters (branch, event) = state.counters (branch, event) +
      (state.newItems batch).countP fun item => item.branch = branch ∧ item.event = event :=
  foldl_addAt_rows (newItems_branch inside) state.counters branch event

/-- A batch out of scope is refused. -/
theorem submit_refused {batch : Batch} (outside : batch.inScope = false) (state : InMemory) :
    ∃ outcome, submit inMemoryGateway batch.items batch.scope batch.batchId state =
      .ok outcome (state.submit batch) ∧ Refused batch state (state.submit batch) outcome := by
  have found : (batch.items.any fun item => item.branch ≠ batch.scope.branch) = true := by
    simpa [Batch.inScope] using outside
  rw [InMemory.submit_outOfScope outside, submit, if_pos found]
  exact ⟨_, rfl, ⟨rfl, rfl, rfl⟩, rfl, rfl, rfl, rfl, rfl⟩

/-- An accepted batch is booked with its new rows. -/
theorem submit_booked {batch : Batch} (inside : batch.inScope = true) (state : InMemory) :
    ∃ outcome, submit inMemoryGateway batch.items batch.scope batch.batchId state =
      .ok outcome (state.submit batch) ∧
        Booked batch state (state.submit batch) outcome (state.newItems batch) := by
  have shorter : (state.newItems batch).length ≤ batch.items.length :=
    List.length_filter_le _ _
  have rows : ∀ item ∈ state.newItems batch, item.branch = batch.scope.branch :=
    newItems_branch inside
  rw [InMemory.submit_record inside, submit_inScope inside]
  refine ⟨_, rfl, ⟨rfl, rfl⟩, rfl, List.filter_sublist, rfl, ?balance, ?grown, ?others, rfl,
    _, announces_newItems state batch⟩
  case balance =>
    show (state.newItems batch).length + (batch.items.length - (state.newItems batch).length) = _
    omega
  case grown =>
    intro event
    have counted : ((state.newItems batch).countP fun item =>
        item.branch = batch.scope.branch ∧ item.event = event) =
          (state.newItems batch).countP fun item => item.event = event :=
      List.countP_congr fun item member => by simp [rows item member]
    rw [record_counters inside, counted]
  case others =>
    intro branch event elsewhere
    have none : ((state.newItems batch).countP fun item =>
        item.branch = branch ∧ item.event = event) = 0 := by
      apply List.countP_eq_zero.mpr
      intro item member
      simp [rows item member, Ne.symm elsewhere]
    rw [record_counters inside, none, Nat.add_zero]

namespace InMemory

/-- The gateway knows every item. -/
def Knows (state : InMemory) (items : List AttendanceItem) : Prop :=
  ∀ item ∈ items, state.isUnseen item.idempotencyKey = false

/-- A key is unknown when neither of the two sets has it. -/
theorem isUnseen_false_iff (state : InMemory) (key : IdempotencyKey) :
    state.isUnseen key = false ↔ key ∈ state.seen ∨ (key.1, key.2.1) ∈ state.unique := by
  rw [isUnseen, Bool.and_eq_false_iff, decide_eq_false_iff_not, decide_eq_false_iff_not, not_not,
    not_not]

/-- What is known stays known. -/
theorem Knows.submit {state : InMemory} {items : List AttendanceItem} (knows : state.Knows items)
    (batch : Batch) : (state.submit batch).Knows items := by
  intro item member
  have known := (isUnseen_false_iff state _).mp (knows item member)
  rw [isUnseen_false_iff]
  cases inside : batch.inScope with
  | false =>
    rw [submit_outOfScope inside]
    exact known
  | true =>
    rw [submit_record inside]
    exact known.imp (Finset.mem_union_left _) (Finset.mem_union_left _)

/-- After an accepted batch its items are known. -/
theorem knows_submit {batch : Batch} (inside : batch.inScope = true) (state : InMemory) :
    (state.submit batch).Knows batch.items := by
  intro item member
  rw [submit_record inside, isUnseen_false_iff]
  by_cases unseen : state.isUnseen item.idempotencyKey = true
  · apply Or.inl
    apply Finset.mem_union_right
    exact List.mem_toFinset.mpr (List.mem_map_of_mem (List.mem_filter.mpr ⟨member, unseen⟩))
  · have known := (isUnseen_false_iff state _).mp (Bool.not_eq_true _ ▸ unseen)
    exact known.imp (Finset.mem_union_left _) (Finset.mem_union_left _)

/-- A batch of known items leaves nothing to write. -/
theorem Knows.nothingNew {state : InMemory} {batch : Batch} (knows : state.Knows batch.items)
    (inside : batch.inScope = true) :
    NothingNew batch.items batch.scope batch.batchId state := by
  have none : state.newItems batch = [] := by
    apply List.filter_eq_nil_iff.mpr
    intro item member
    rw [knows item member]
    exact Bool.false_ne_true
  have unchanged : state.record batch = state := by simp [record, recordedEvents, none, counter]
  have quiet : state.recordedEvents batch = [] := by simp [recordedEvents, none, counter]
  refine ⟨_, (submit_inScope inside state).trans (by rw [unchanged]), ?_, quiet⟩
  show (state.newItems batch).length = 0
  rw [none, List.length_nil]

end InMemory

/-- A batch with an item out of scope is refused; any other batch is booked with the items that are
not known, and whatever is submitted in between, its items leave nothing to write under any batch id. -/
theorem submit_accounts (state : InMemory) (batch : Batch) :
    ∃ outcome, submit inMemoryGateway batch.items batch.scope batch.batchId state =
      .ok outcome (state.submit batch) ∧
    ((∃ item ∈ batch.items, item.branch ≠ batch.scope.branch) →
      Refused batch state (state.submit batch) outcome) ∧
    ((∀ item ∈ batch.items, item.branch = batch.scope.branch) →
      Booked batch state (state.submit batch) outcome (state.newItems batch) ∧
      ∀ (between : List Batch) (batchId : String),
        NothingNew batch.items batch.scope batchId
          (runAll InMemory.submit (state.submit batch) between)) := by
  cases inside : batch.inScope with
  | false =>
    have ⟨outcome, ran, refused⟩ := submit_refused inside state
    refine ⟨outcome, ran, fun _ => refused, fun all => ?_⟩
    have passed : batch.inScope = true :=
      List.all_eq_true.mpr fun item member => decide_eq_true (all item member)
    rw [passed] at inside
    cases inside
  | true =>
    have ⟨outcome, ran, booked⟩ := submit_booked inside state
    refine ⟨outcome, ran, fun ⟨item, member, outside⟩ => ?_, fun _ => ⟨booked, ?_⟩⟩
    · have passed := List.all_eq_true.mp inside item member
      exact absurd (of_decide_eq_true passed) outside
    · intro between batchId
      have known := runAll_invariant (InMemory.Knows · batch.items)
        (fun _ other knows => knows.submit other) between _ (InMemory.knows_submit inside state)
      -- The batch id plays no part in what is known.
      let again : Batch := ⟨batch.items, batch.scope, batchId⟩
      have knows : (runAll InMemory.submit (state.submit batch) between).Knows again.items := known
      have passes : again.inScope = true := inside
      exact knows.nothingNew passes

/-- Ann at a service. -/
def annAttends : AttendanceItem where
  event := "Service"
  attendeeRef := "ann"
  branch := "North"

/-- Ann again, with Bob. -/
def annWithBob : Batch where
  items := [annAttends, { annAttends with attendeeRef := "bob" }]
  scope := ⟨"North"⟩
  batchId := "B2"

/-- After Ann, the batch with Bob writes Bob alone, and nothing the second time. -/
theorem submit_accounts_bob :
    ∃ outcome, submit inMemoryGateway annWithBob.items annWithBob.scope annWithBob.batchId
        (({} : InMemory).submit ⟨[annAttends], ⟨"North"⟩, "B1"⟩) =
      .ok outcome ((({} : InMemory).submit ⟨[annAttends], ⟨"North"⟩, "B1"⟩).submit annWithBob) ∧
    outcome.inserted = 1 ∧ outcome.deduplicated = 1 ∧
    NothingNew annWithBob.items annWithBob.scope "B3"
      ((({} : InMemory).submit ⟨[annAttends], ⟨"North"⟩, "B1"⟩).submit annWithBob) := by
  have ⟨outcome, ran, _, inside⟩ :=
    submit_accounts (({} : InMemory).submit ⟨[annAttends], ⟨"North"⟩, "B1"⟩) annWithBob
  have north : ∀ item ∈ annWithBob.items, item.branch = annWithBob.scope.branch := by decide
  have ⟨booked, replayed⟩ := inside north
  have written : outcome.inserted = 1 := booked.inserted.trans (by decide)
  have balance : outcome.inserted + outcome.deduplicated = 2 := booked.balance
  exact ⟨outcome, ran, written, by omega, replayed [] "B3"⟩

end FlockOs.Reporting
