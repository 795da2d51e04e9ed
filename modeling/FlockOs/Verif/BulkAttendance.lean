import FlockOs.Lib.Runs
import FlockOs.Reporting
import Mathlib.Data.Finset.Card

/-!
# Double counting in bulk attendance

What a batch writes is decided by the keys that were recorded before it, so two items of one
batch with the same attendee both pass. The rows and the counter stay in step with each other;
whether they count people depends on the batches.
-/

namespace FlockOs.Reporting

open Lib

/-- The attendees recorded for a branch and event. -/
def InMemory.recorded (state : InMemory) (branch event : String) : Finset String :=
  ((state.insertedItems.filter fun item => item.branch = branch ∧ item.event = event).map
    (·.attendeeRef)).toFinset

/-- Every counter is the number of attendees recorded, and no attendee has been inserted
twice for one event. -/
structure CountsOnce (state : InMemory) : Prop where
  aggregate_eq : ∀ branch event,
    state.aggregate branch event = (state.recorded branch event).card
  distinct : (state.insertedItems.map (·.uniqueKey)).Nodup

/-- The batch passes the scope check. -/
def Batch.inScope (batch : Batch) : Bool :=
  batch.items.all fun item => item.branch = batch.scope.branch

/-- The items of a batch whose attendee is not recorded yet for their event. -/
def InMemory.unrecorded (state : InMemory) (batch : Batch) : List AttendanceItem :=
  batch.items.filter fun item => item.uniqueKey ∉ state.insertedItems.map (·.uniqueKey)

/-- Unless it is rejected, the batch names each attendee that is not recorded yet once for an
event. -/
def NamesOnce (state : InMemory) (batch : Batch) : Prop :=
  batch.inScope → ((state.unrecorded batch).map (·.uniqueKey)).Nodup

namespace InMemory

/-- The rows of a batch that pass the filter of the gateway. -/
def newItems (state : InMemory) (batch : Batch) : List AttendanceItem :=
  batch.items.filter fun item => state.isUnseen item.idempotencyKey

/-- The events of an accepted batch. -/
def recordedEvents (state : InMemory) (batch : Batch) : List DomainEvent :=
  (counter ((state.newItems batch).map (·.event))).map fun entry =>
    bulkRecorded batch.scope batch.batchId entry.1 entry.2

/-- Inserting rows one after the other. -/
theorem foldl_insertItem (items : List AttendanceItem) (state : InMemory) :
    items.foldl insertItem state =
      { state with
        seen := state.seen ∪ (items.map (·.idempotencyKey)).toFinset
        unique := state.unique ∪ (items.map (·.uniqueKey)).toFinset
        insertedItems := state.insertedItems ++ items } := by
  induction items generalizing state with
  | nil => simp
  | cons item rest inserted =>
    rw [List.foldl_cons, inserted]
    simp [insertItem, Finset.insert_union, Finset.union_insert]

/-- Adding entries of one branch one after the other. -/
theorem foldl_increment (branch : String) (entries : List (String × Nat)) (state : InMemory) :
    entries.foldl (fun state entry => state.increment branch entry.1 entry.2) state =
      { state with
        counters := entries.foldl (fun totals entry => addAt totals (branch, entry.1) entry.2)
          state.counters } := by
  induction entries generalizing state with
  | nil => rfl
  | cons entry rest added =>
    rw [List.foldl_cons, added]
    rfl

/-- Publishing events one after the other. -/
theorem foldl_publish (events : List DomainEvent) (state : InMemory) :
    events.foldl publish state =
      { state with publishedEvents := state.publishedEvents ++ events } := by
  induction events generalizing state with
  | nil => simp
  | cons event rest published =>
    rw [List.foldl_cons, published]
    simp [publish]

/-- The gateway after an accepted batch. -/
def record (state : InMemory) (batch : Batch) : InMemory where
  seen := state.seen ∪ ((state.newItems batch).map (·.idempotencyKey)).toFinset
  unique := state.unique ∪ ((state.newItems batch).map (·.uniqueKey)).toFinset
  counters := (counter ((state.newItems batch).map (·.event))).foldl
    (fun totals entry => addAt totals (batch.scope.branch, entry.1) entry.2) state.counters
  publishedEvents := state.publishedEvents ++ state.recordedEvents batch
  insertedItems := state.insertedItems ++ state.newItems batch

/-- A batch with an item out of scope only publishes its rejection. -/
theorem submit_outOfScope {batch : Batch} (outside : batch.inScope = false) (state : InMemory) :
    state.submit batch =
      state.publish (batchRejected batch.items batch.scope batch.batchId) := by
  have found : (batch.items.any fun item => item.branch ≠ batch.scope.branch) = true := by
    simpa [Batch.inScope] using outside
  show (Reporting.submit inMemoryGateway _ _ _).after state = _
  rw [Reporting.submit, if_pos found]
  rfl

/-- The block of the transaction writes the new rows and counts them. -/
theorem writeNew_run (state : InMemory) (batch : Batch) :
    writeNew inMemoryGateway batch.items batch.scope batch.batchId state =
      .ok ((state.newItems batch).length, batch.items.length - (state.newItems batch).length,
          state.recordedEvents batch)
        { state.record batch with publishedEvents := state.publishedEvents } := by
  have kept : (batch.items.filter fun item =>
      ((batch.items.map (·.idempotencyKey)).filter state.isUnseen).contains item.idempotencyKey) =
        state.newItems batch := by
    apply List.filter_congr
    intro item member
    rw [Bool.eq_iff_iff, List.contains_iff_mem, List.mem_filter, and_iff_right_iff_imp]
    exact fun _ => List.mem_map_of_mem member
  rw [writeNew]
  have filtered : inMemoryGateway.filterUnseen (batch.items.map (·.idempotencyKey)) state =
      .ok ((batch.items.map (·.idempotencyKey)).filter state.isUnseen) state := rfl
  rw [Exec.bind_run_ok filtered]
  dsimp only
  rw [kept]
  by_cases none : state.newItems batch = []
  · rw [if_pos (by rw [none]; rfl)]
    have unchanged : { state.record batch with publishedEvents := state.publishedEvents } =
        state := by
      simp [record, none, counter]
    have quiet : state.recordedEvents batch = [] := by simp [recordedEvents, none, counter]
    rw [unchanged, quiet, none]
    rfl
  · rw [if_neg (by simpa using none)]
    have inserted : inMemoryGateway.bulkInsert (state.newItems batch) state =
        .ok (state.newItems batch).length ((state.newItems batch).foldl insertItem state) := rfl
    have added := Exec.forM_run
      (fun entry : String × Nat => inMemoryGateway.incrementAggregate batch.scope entry.1 entry.2)
      (fun state entry => state.increment batch.scope.branch entry.1 entry.2)
      (fun _ _ => rfl) (counter ((state.newItems batch).map (·.event)))
      ((state.newItems batch).foldl insertItem state)
    rw [Exec.bind_run_ok inserted, Exec.bind_run_ok added, foldl_increment, foldl_insertItem]
    rfl

end InMemory

/-- An accepted batch writes its new rows, counts them by event and publishes the counts. -/
theorem submit_inScope {batch : Batch} (inside : batch.inScope = true) (state : InMemory) :
    submit inMemoryGateway batch.items batch.scope batch.batchId state =
      .ok ⟨batch.batchId, batch.scope, true, (state.newItems batch).length,
        batch.items.length - (state.newItems batch).length, [], state.recordedEvents batch⟩
        (state.record batch) := by
  have passed : ¬ (batch.items.any fun item => item.branch ≠ batch.scope.branch) = true := by
    simpa [Batch.inScope] using inside
  rw [submit, if_neg passed]
  have seeded : inMemoryGateway.seedAggregate batch.scope
      (batch.items.map (·.event)).eraseDups state = .ok ⟨⟩ state := rfl
  rw [Exec.bind_run_ok seeded]
  have written : inMemoryGateway.transaction (writeNew inMemoryGateway batch.items batch.scope
      batch.batchId) state = _ := InMemory.writeNew_run state batch
  rw [Exec.bind_run_ok written]
  have published := Exec.forM_run inMemoryGateway.emit InMemory.publish (fun _ _ => rfl)
    (state.recordedEvents batch)
    { state.record batch with publishedEvents := state.publishedEvents }
  rw [InMemory.foldl_publish] at published
  exact Exec.bind_run_ok published _

/-- The gateway after an accepted batch. -/
theorem InMemory.submit_record {batch : Batch} (inside : batch.inScope = true)
    (state : InMemory) : state.submit batch = state.record batch := by
  rw [InMemory.submit, Exec.after, submit_inScope inside]

/-- The sets and the counters of the gateway describe its rows. -/
structure Ledger (state : InMemory) : Prop where
  /-- The attendee of every key seen is recorded. -/
  seen_unique : ∀ key ∈ state.seen, (key.1, key.2.1) ∈ state.unique
  /-- The attendees recorded are those of the rows. -/
  mem_unique : ∀ pair, pair ∈ state.unique ↔ pair ∈ state.insertedItems.map (·.uniqueKey)
  /-- A counter is the number of rows of its branch and event. -/
  counters_eq : ∀ branch event, state.counters (branch, event) =
    state.insertedItems.countP fun item => item.branch = branch ∧ item.event = event

/-- The empty gateway is in step. -/
theorem Ledger.empty : Ledger {} where
  seen_unique := by simp
  mem_unique := by simp
  counters_eq := by simp

/-- The filter of the gateway passes the items whose attendee is not recorded. -/
theorem Ledger.newItems {state : InMemory} (ledger : Ledger state) (batch : Batch) :
    state.newItems batch = state.unrecorded batch := by
  apply List.filter_congr
  intro item _
  have recorded := ledger.mem_unique item.uniqueKey
  have seen := ledger.seen_unique item.idempotencyKey
  have pair : (item.idempotencyKey.1, item.idempotencyKey.2.1) = item.uniqueKey := rfl
  rw [pair] at seen
  rw [InMemory.isUnseen, pair, Bool.eq_iff_iff, Bool.and_eq_true, decide_eq_true_iff,
    decide_eq_true_iff, decide_eq_true_iff, ← recorded]
  exact ⟨fun both => both.2, fun fresh => ⟨fun old => fresh (seen old), fresh⟩⟩

/-- The new rows of an accepted batch all belong to its branch. -/
theorem newItems_branch {state : InMemory} {batch : Batch} (inside : batch.inScope = true) :
    ∀ item ∈ state.newItems batch, item.branch = batch.scope.branch := by
  intro item member
  have all := List.all_eq_true.mp inside item (List.mem_of_mem_filter member)
  simpa using all

/-- Counting rows of one branch by event adds the number of rows of each branch and event. -/
theorem foldl_addAt_rows {rows : List AttendanceItem} {branch : String}
    (inside : ∀ item ∈ rows, item.branch = branch) (totals : String × String → Nat)
    (other event : String) :
    (counter (rows.map (·.event))).foldl
        (fun totals entry => addAt totals (branch, entry.1) entry.2) totals (other, event) =
      totals (other, event) +
        rows.countP fun item => item.branch = other ∧ item.event = event := by
  by_cases here : branch = other
  · subst here
    have injective : Function.Injective fun event : String => (branch, event) :=
      fun _ _ same => (Prod.mk.inj same).2
    have added := foldl_addAt_counter injective (rows.map (·.event)) totals event
    have counted : (rows.map (·.event)).count event =
        rows.countP fun item => item.branch = branch ∧ item.event = event := by
      rw [List.count_eq_countP, List.countP_map]
      apply List.countP_congr
      intro item member
      simp [inside item member]
    rw [← counted]
    exact added
  · have elsewhere : ∀ event', (branch, event') ≠ (other, event) :=
      fun _ same => here (Prod.mk.inj same).1
    have same := foldl_addAt_counter_of_ne (rows.map (·.event)) totals elsewhere
    have none : (rows.countP fun item => item.branch = other ∧ item.event = event) = 0 := by
      apply List.countP_eq_zero.mpr
      intro item member
      simp [inside item member, here]
    rw [none]
    exact same

/-- An accepted batch leaves the gateway in step. -/
theorem Ledger.record {state : InMemory} (ledger : Ledger state) {batch : Batch}
    (inside : batch.inScope = true) : Ledger (state.record batch) where
  seen_unique := by
    intro key member
    rcases Finset.mem_union.mp member with old | new
    · exact Finset.mem_union_left _ (ledger.seen_unique key old)
    · apply Finset.mem_union_right
      obtain ⟨item, isNew, rfl⟩ := List.mem_map.mp (List.mem_toFinset.mp new)
      exact List.mem_toFinset.mpr (List.mem_map_of_mem isNew)
  mem_unique pair := by
    show pair ∈ state.unique ∪ _ ↔ pair ∈ (state.insertedItems ++ _).map _
    rw [Finset.mem_union, List.mem_toFinset, List.map_append, List.mem_append,
      ledger.mem_unique]
  counters_eq branch event := by
    show _ = (state.insertedItems ++ _).countP _
    rw [List.countP_append, ← ledger.counters_eq]
    exact foldl_addAt_rows (newItems_branch inside) state.counters branch event

/-- Every call leaves the gateway in step. -/
theorem Ledger.submit {state : InMemory} (ledger : Ledger state) (batch : Batch) :
    Ledger (state.submit batch) := by
  cases inside : batch.inScope with
  | true =>
    rw [InMemory.submit_record inside]
    exact ledger.record inside
  | false =>
    rw [InMemory.submit_outOfScope inside]
    exact ⟨ledger.seen_unique, ledger.mem_unique, ledger.counters_eq⟩

/-- While the rows and the counters are in step, they count once exactly when no attendee has
two rows for one event. -/
theorem Ledger.countsOnce_iff {state : InMemory} (ledger : Ledger state) :
    CountsOnce state ↔ (state.insertedItems.map (·.uniqueKey)).Nodup := by
  constructor
  · exact fun counts => counts.distinct
  · intro distinct
    refine ⟨fun branch event => ?_, distinct⟩
    rw [InMemory.aggregate, ledger.counters_eq, InMemory.recorded, List.toFinset_card_of_nodup,
      List.length_map, List.countP_eq_length_filter]
    -- Within one event, two rows with the same reference have the same key.
    refine List.Nodup.map_on ?_ (distinct.of_map.filter _)
    intro left leftMember right rightMember same
    have leftEvent := of_decide_eq_true (List.mem_filter.mp leftMember).2
    have rightEvent := of_decide_eq_true (List.mem_filter.mp rightMember).2
    apply List.inj_on_of_nodup_map distinct (List.mem_of_mem_filter leftMember)
      (List.mem_of_mem_filter rightMember)
    simp only [AttendanceItem.uniqueKey, leftEvent.2, rightEvent.2, same]

/-- A call keeps counting once exactly when its batch names each new attendee once. -/
theorem Ledger.submit_countsOnce_iff {state : InMemory} (ledger : Ledger state)
    (counts : CountsOnce state) (batch : Batch) :
    CountsOnce (state.submit batch) ↔ NamesOnce state batch := by
  rw [(ledger.submit batch).countsOnce_iff]
  cases inside : batch.inScope with
  | false =>
    rw [InMemory.submit_outOfScope inside]
    exact iff_of_true counts.distinct fun accepted => by simp [inside] at accepted
  | true =>
    rw [InMemory.submit_record inside]
    show ((state.insertedItems ++ state.newItems batch).map _).Nodup ↔ _
    rw [List.map_append, List.nodup_append', ledger.newItems batch, NamesOnce]
    have apart : (state.insertedItems.map (·.uniqueKey)).Disjoint
        ((state.unrecorded batch).map (·.uniqueKey)) := by
      intro pair old new
      obtain ⟨item, fresh, rfl⟩ := List.mem_map.mp new
      have absent := List.of_mem_filter fresh
      simp only [decide_eq_true_eq] at absent
      exact absent old
    simp [counts.distinct, apart, inside]

/-- After every call of a sequence the counters count each attendee once exactly if every
accepted batch names each attendee that is not recorded yet once for an event. -/
theorem countsOnce_iff_namesOnce (batches : List Batch) :
    EveryState InMemory.submit CountsOnce {} batches ↔
      EveryCall InMemory.submit NamesOnce {} batches :=
  everyState_iff_everyCall Ledger (fun _ batch ledger => ledger.submit batch)
    (fun _ batch ledger counts => ledger.submit_countsOnce_iff counts batch) Ledger.empty
    (Ledger.empty.countsOnce_iff.mpr List.nodup_nil)

/-- One batch with the same attendee twice. -/
def oneBatch : Batch where
  items := [⟨"camp", "ann", "north", "Present", "bulk", none, none, none, none, none⟩,
    ⟨"camp", "ann", "north", "Present", "bulk", none, none, none, none, none⟩]
  scope := ⟨"north"⟩
  batchId := "batch-1"

/-- The counter of the camp shows two, and one attendee is recorded. -/
theorem oneBatch_counts_ann_twice : ¬ EveryState InMemory.submit CountsOnce {} [oneBatch] := by
  rintro ⟨_, counts⟩
  have agree := counts.aggregate_eq "north" "camp"
  have shown : (InMemory.submit {} oneBatch).aggregate "north" "camp" = 2 := by decide
  have people : ((InMemory.submit {} oneBatch).recorded "north" "camp").card = 1 := by decide
  rw [shown, people] at agree
  cases agree

end FlockOs.Reporting
