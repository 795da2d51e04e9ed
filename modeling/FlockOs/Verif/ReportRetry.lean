import FlockOs.Lib.Faults
import FlockOs.Verif.LeaderReporting

/-!
# Reports that are sent again

A report is recorded chunk by chunk, and each chunk is committed on its own, so a chunk that
raises leaves those before it behind. Sent again until it returns, the report gives everybody
who came one row, and moves and announces its gathering once.
-/

namespace FlockOs.LeaderReporting

open Lib Reporting Gatherings

/-- `record_attendance` raises where the plan says, before or after the chunk is committed. -/
def recordPlanned (items : List AttendanceItem) (scope : AttendanceScope) (batchId : String) :
    Exec Error (Planned InMemoryReports) (Nat × Nat) := do
  Exec.attempt .infrastructure (pure ())
  let counts ← Exec.surely (InMemoryReports.recordAttendance items scope batchId)
  Exec.attempt .infrastructure (pure ())
  pure counts

/-- The in-memory gateway with a plan of the chunks that raise. -/
def plannedReports : LeaderReportingGateway (Planned InMemoryReports) where
  gatheringStatus gathering := Exec.surely (inMemoryReports.gatheringStatus gathering)
  memberStatus member := Exec.surely (inMemoryReports.memberStatus member)
  recordAttendance := recordPlanned
  advanceGathering gathering toStatus reportedBy counters :=
    Exec.surely (inMemoryReports.advanceGathering gathering toStatus reportedBy counters)
  emit event := Exec.surely (inMemoryReports.emit event)

/-- A report is sent until it returns, under one plan after the other. -/
def sendUntilReturned (submission : ReportSubmission) :
    List (List Bool) → InMemoryReports → Option ReportOutcome × InMemoryReports
  | [], reports => (none, reports)
  | faults :: later, reports =>
    match submitReport plannedReports submission ⟨faults, reports⟩ with
    | .ok outcome last => (some outcome, last.state)
    | .error _ last => sendUntilReturned submission later last.state

/-- The member has a status of the vocabulary. -/
def InMemoryReports.Knows (reports : InMemoryReports) (member : String) : Prop :=
  ∃ status ∈ reports.memberStatus member, status ∈ validMemberStatuses

/-- The report passes every check that is made before a row is written. -/
structure Admits (reports : InMemoryReports) (submission : ReportSubmission) : Prop where
  shape : validateSubmissionShape submission = .ok ()
  held : reports.gatheringStatus submission.gathering = some .held
  known : ∀ attendee ∈ submission.attendees, reports.Knows attendee.member

/-- The part of `submit_report` before the first chunk. -/
def check (submission : ReportSubmission) : Exec Error InMemoryReports Tally := do
  Exec.ofExcept (validateSubmissionShape submission)
  validateGathering inMemoryReports submission
  submission.attendees.foldlM (classify inMemoryReports submission) {}

/-- A status passes exactly if it is one of the vocabulary. -/
theorem checkMember_ok_iff (member : String) (found : Option String) :
    (∃ status, checkMember member found = .ok status) ↔
      ∃ status ∈ found, status ∈ validMemberStatuses := by
  cases found with
  | none => simp [checkMember]
  | some status =>
    by_cases valid : status ∈ validMemberStatuses
    · simp [checkMember, valid]
    · simp [checkMember, valid]

/-- The loop over the attendees returns exactly if everybody is known. -/
theorem classify_ok_iff (submission : ReportSubmission) (reports : InMemoryReports) :
    ∀ (attendees : List AttendeeReport) (tally : Tally),
      (∃ after, attendees.foldlM (classify inMemoryReports submission) tally reports =
        .ok after reports) ↔ ∀ attendee ∈ attendees, reports.Knows attendee.member
  | [], tally => by
    simp only [List.not_mem_nil, false_implies, implies_true, iff_true]
    exact ⟨tally, rfl⟩
  | attendee :: rest, tally => by
    have turn : classify inMemoryReports submission tally attendee reports =
        ((Exec.ofExcept (checkMember attendee.member (reports.memberStatus attendee.member)) :
          Exec Error InMemoryReports String) >>=
            fun status => pure (tally.add submission attendee status)) reports := rfl
    have passes := checkMember_ok_iff attendee.member (reports.memberStatus attendee.member)
    rw [List.foldlM_cons, List.forall_mem_cons]
    cases checked : checkMember attendee.member (reports.memberStatus attendee.member) with
    | error raised =>
      rw [checked] at turn passes
      have unknown : ¬reports.Knows attendee.member := fun knows => by
        obtain ⟨_, passed⟩ := passes.mpr knows
        cases passed
      rw [Exec.bind_run_error turn]
      exact iff_of_false (by rintro ⟨_, ran⟩; cases ran) fun both => unknown both.1
    | ok status =>
      rw [checked] at turn passes
      rw [Exec.bind_run_ok turn, classify_ok_iff submission reports rest]
      exact (and_iff_right (passes.mp ⟨status, rfl⟩)).symm

/-- The checks leave the gateway as it is: they return the items and the counters of an admitted
report, and raise for any other. -/
theorem check_run (submission : ReportSubmission) (reports : InMemoryReports) :
    (∃ raised, check submission reports = .error raised reports ∧ ¬Admits reports submission) ∨
      (∃ tally, check submission reports = .ok tally reports ∧ Admits reports submission ∧
        tally.items = submission.items ∧ Counted submission tally.counters) := by
  have status : validateGathering inMemoryReports submission reports =
      (Exec.ofExcept (checkStatus submission.gathering
        (reports.gatheringStatus submission.gathering)) : Exec Error InMemoryReports Unit)
        reports := rfl
  rw [check]
  cases shape : validateSubmissionShape submission with
  | error raised =>
    refine Or.inl ⟨raised, Exec.bind_run_error rfl _, fun admits => ?_⟩
    rw [admits.shape] at shape
    cases shape
  | ok passed =>
    have shaped : (Exec.ofExcept (.ok passed) : Exec Error InMemoryReports Unit) reports =
        .ok passed reports := rfl
    rw [Exec.bind_run_ok shaped]
    cases checked : checkStatus submission.gathering
        (reports.gatheringStatus submission.gathering) with
    | error raised =>
      rw [checked] at status
      refine Or.inl ⟨raised, Exec.bind_run_error status _, fun admits => ?_⟩
      rw [admits.held] at checked
      cases checked
    | ok admitted =>
      rw [checked] at status
      rw [Exec.bind_run_ok status]
      have known := classify_ok_iff submission reports submission.attendees {}
      rcases classify_run submission reports submission.attendees {} with
        ⟨raised, failed⟩ | ⟨tally, ran, tallies⟩
      · refine Or.inl ⟨raised, failed, fun admits => ?_⟩
        obtain ⟨_, ran⟩ := known.mpr admits.known
        rw [failed] at ran
        cases ran
      · have items : tally.items = submission.items := tallies.items.trans (List.nil_append _)
        have present := tallies.present.trans (Nat.zero_add _)
        have firstTime := tallies.firstTime.trans (Nat.zero_add _)
        exact Or.inr ⟨tally, ran, ⟨shape, checkStatus_ok checked, known.mp ⟨tally, ran⟩⟩, items,
          present, firstTime⟩

/-- The gateway after batches that went to the bulk gateway. -/
def InMemoryReports.absorb (reports : InMemoryReports) (batches : List Batch) : InMemoryReports :=
  { reports with bulk := runAll InMemory.submit reports.bulk batches }

/-- Batches go to the bulk gateway in turn. -/
theorem InMemoryReports.absorb_absorb (reports : InMemoryReports) (first second : List Batch) :
    (reports.absorb first).absorb second = reports.absorb (first ++ second) := by
  simp only [absorb, runAll_append]

/-- What an attempt that raised leaves behind: some chunks of the report. -/
def LeftBehind (submission : ReportSubmission) (reports state : InMemoryReports) : Prop :=
  ∃ batches, (∀ batch ∈ batches, batch ∈ submission.batches) ∧ state = reports.absorb batches

/-- The gateway after an attempt that returned. -/
def InMemoryReports.settled (reports : InMemoryReports) (submission : ReportSubmission)
    (counters : Counters) (recorded : Recorded) : InMemoryReports :=
  (reports.advance submission.gathering reportedStatus submission.reportedBy counters).publish
    (reportedEvent submission counters recorded)

/-- A chunk makes two calls and is committed between them. -/
theorem recordChunk_calls {submission : ReportSubmission} {slice : List AttendanceItem × Nat}
    (inside : (submission.batch slice).inScope = true) (recorded : Recorded)
    (reports : InMemoryReports) {early : InMemoryReports → Prop} (before : early reports)
    (after : early (reports.absorb [submission.batch slice])) :
    Exec.Calls 2 .infrastructure (· = reports) (recordChunk plannedReports submission recorded slice)
      early fun _ state => state = reports.absorb [submission.batch slice] := by
  have begins : Exec.Calls 1 .infrastructure (· = reports)
      (Exec.attempt Error.infrastructure (pure ())) early fun (_ : Unit) state =>
        state = reports :=
    Exec.Calls.attempt (fun state same => ⟨(), state, rfl, same⟩) fun state same => same ▸ before
  have stores : Exec.Calls 0 .infrastructure (· = reports)
      (Exec.surely (InMemoryReports.recordAttendance slice.1 ⟨submission.branch⟩
        (chunkId submission slice.2))) early
      fun _ state => state = reports.absorb [submission.batch slice] := by
    apply Exec.Calls.surely
    rintro state rfl
    obtain ⟨counts, ran⟩ := recordAttendance_run inside state
    exact ⟨counts, _, ran, rfl⟩
  have ends : ∀ counts : Nat × Nat, Exec.Calls 1 .infrastructure
      (· = reports.absorb [submission.batch slice])
      (Exec.attempt Error.infrastructure (pure ()) >>= fun _ : Unit => pure counts) early
      fun _ state => state = reports.absorb [submission.batch slice] := by
    intro counts
    have commits : Exec.Calls 1 .infrastructure (· = reports.absorb [submission.batch slice])
        (Exec.attempt Error.infrastructure (pure ())) early fun (_ : Unit) state =>
          state = reports.absorb [submission.batch slice] :=
      Exec.Calls.attempt (fun state same => ⟨(), state, rfl, same⟩) fun state same => same ▸ after
    exact commits.bind fun _ => Exec.Calls.pure counts fun _ same => same
  have records : Exec.Calls 2 .infrastructure (· = reports)
      (recordPlanned slice.1 ⟨submission.branch⟩ (chunkId submission slice.2)) early
      fun _ state => state = reports.absorb [submission.batch slice] :=
    begins.bind fun _ => stores.bind ends
  exact records.bind fun _ => Exec.Calls.pure _ fun _ same => same

/-- The chunks make two calls each; a plan that has one of them raise leaves some of them
behind. -/
theorem recordChunks_calls (submission : ReportSubmission) (reports : InMemoryReports) :
    ∀ (slices : List (List AttendanceItem × Nat)) (done : List Batch) (recorded : Recorded),
      (∀ slice ∈ slices, slice ∈ (chunks submission.items).zipIdx) →
      (∀ batch ∈ done, batch ∈ submission.batches) →
      Exec.Calls (2 * slices.length) .infrastructure (· = reports.absorb done)
        (slices.foldlM (recordChunk plannedReports submission) recorded)
        (LeftBehind submission reports)
        fun _ state => state = reports.absorb (done ++ slices.map submission.batch)
  | [], done, recorded, _, _ => .pure recorded fun state same => by
    rw [same, List.map_nil, List.append_nil]
  | slice :: rest, done, recorded, own, before => by
    have mine := own slice List.mem_cons_self
    have after : ∀ batch ∈ done ++ [submission.batch slice], batch ∈ submission.batches := by
      intro batch member
      rcases List.mem_append.mp member with old | new
      · exact before batch old
      · rw [List.mem_singleton.mp new]
        exact List.mem_map_of_mem mine
    have next := recordChunks_calls submission reports rest (done ++ [submission.batch slice])
    have started : LeftBehind submission reports (reports.absorb done) := ⟨done, before, rfl⟩
    have ended : LeftBehind submission reports
        ((reports.absorb done).absorb [submission.batch slice]) :=
      ⟨_, after, reports.absorb_absorb done _⟩
    have turn := recordChunk_calls (batch_inScope mine) recorded (reports.absorb done) started ended
    rw [reports.absorb_absorb] at turn
    rw [List.foldlM_cons, List.length_cons, Nat.mul_succ, Nat.add_comm, List.map_cons]
    rw [List.append_cons]
    exact turn.bind fun value => next value
      (fun other member => own other (List.mem_cons_of_mem _ member)) after

/-- The checks and the move touch no plan. -/
theorem submitReport_planned (submission : ReportSubmission) :
    submitReport plannedReports submission =
      Exec.surely (check submission) >>= fun tally =>
        recordInChunks plannedReports submission tally.items >>= fun recorded =>
          Exec.surely (advance inMemoryReports submission tally.counters recorded) := by
  have status : validateGathering plannedReports submission =
      Exec.surely (validateGathering inMemoryReports submission) := by
    rw [validateGathering, validateGathering, Exec.surely_bind]
    simp only [Exec.surely_ofExcept]
    rfl
  have turn : classify plannedReports submission =
      fun tally attendee => Exec.surely (classify inMemoryReports submission tally attendee) := by
    funext tally attendee
    rw [classify, classify, Exec.surely_bind]
    simp only [Exec.surely_bind, Exec.surely_ofExcept]
    rfl
  have moves : ∀ counters recorded, advance plannedReports submission counters recorded =
      Exec.surely (advance inMemoryReports submission counters recorded) := by
    intro counters recorded
    rw [advance, advance]
    simp only [Exec.surely_bind, Exec.surely_ofExcept]
    rfl
  rw [submitReport, check, Exec.surely_bind, Exec.surely_bind, Exec.surely_ofExcept,
    Exec.surely_foldlM, status, turn]
  simp only [moves, bind_assoc]

/-- How one attempt ends: refused by the checks, interrupted by the plan, or returned. -/
inductive Attempt (submission : ReportSubmission) (faults : List Bool)
    (reports : InMemoryReports) : EStateM.Result Error (Planned InMemoryReports) ReportOutcome → Prop
  | refused (raised : Error) (refuses : ¬Admits reports submission) :
    Attempt submission faults reports (.error raised ⟨faults, reports⟩)
  | interrupted (raised : Error) (last : Planned InMemoryReports)
    (admits : Admits reports submission) (planned : faults ≠ [])
    (behind : LeftBehind submission reports last.state) :
    Attempt submission faults reports (.error raised last)
  | returned (counters : Counters) (recorded : Recorded) (rest : List Bool)
    (admits : Admits reports submission) (counted : Counted submission counters) :
    Attempt submission faults reports (.ok (acceptedOutcome submission counters recorded)
      ⟨rest, (reports.absorb submission.batches).settled submission counters recorded⟩)

/-- Every attempt ends in one of the three ways. -/
theorem attempt_run (submission : ReportSubmission) (faults : List Bool)
    (reports : InMemoryReports) :
    Attempt submission faults reports (submitReport plannedReports submission ⟨faults, reports⟩) := by
  rw [submitReport_planned]
  rcases check_run submission reports with
    ⟨raised, failed, refuses⟩ | ⟨tally, ran, admits, items, counted⟩
  · rw [Exec.bind_run_error (Exec.surely_run_error failed faults)]
    exact .refused raised refuses
  · rw [Exec.bind_run_ok (Exec.surely_run_ok ran faults), items]
    have records : Exec.Calls (2 * (chunks submission.items).zipIdx.length) .infrastructure
        (· = reports.absorb []) (recordInChunks plannedReports submission submission.items)
        (LeftBehind submission reports) fun _ state => state = reports.absorb submission.batches :=
      recordChunks_calls submission reports (chunks submission.items).zipIdx [] {}
        (fun _ member => member) fun _ none => absurd none List.not_mem_nil
    by_cases planned : failsWithin (2 * (chunks submission.items).zipIdx.length) faults = true
    · obtain ⟨last, failed, behind⟩ := records.run_early ⟨faults, reports⟩ rfl planned
      have some : faults ≠ [] := by
        rintro rfl
        simp [failsWithin] at planned
      rw [Exec.bind_run_error failed]
      exact .interrupted _ last admits some behind
    · obtain ⟨recorded, state, stored, same⟩ := records.run_past ⟨faults, reports⟩ rfl planned
      have held : state.gatheringStatus submission.gathering = some .held := by
        rw [same]
        exact admits.held
      rw [Exec.bind_run_ok stored, Exec.surely_run_ok (advance_run held _ _), same]
      exact .returned tally.counters recorded _ admits counted

/-- What is left behind is admitted like the gateway before. -/
theorem LeftBehind.admits_iff {submission : ReportSubmission} {reports state : InMemoryReports}
    (behind : LeftBehind submission reports state) :
    Admits state submission ↔ Admits reports submission := by
  obtain ⟨batches, _, same⟩ := behind
  rw [same]
  exact ⟨fun admits => ⟨admits.shape, admits.held, admits.known⟩,
    fun admits => ⟨admits.shape, admits.held, admits.known⟩⟩

/-- A report that the checks refuse changes nothing, however often it is sent. -/
theorem sendUntilReturned_refused {submission : ReportSubmission} {reports : InMemoryReports}
    (refuses : ¬Admits reports submission) :
    ∀ plans, sendUntilReturned submission plans reports = (none, reports)
  | [] => rfl
  | faults :: later => by
    have attempt := attempt_run submission faults reports
    rw [sendUntilReturned]
    cases ran : submitReport plannedReports submission ⟨faults, reports⟩ with
    | ok outcome last =>
      rw [ran] at attempt
      cases attempt with
      | returned _ _ _ admits => exact absurd admits refuses
    | error raised last =>
      rw [ran] at attempt
      cases attempt with
      | refused _ _ => exact sendUntilReturned_refused refuses later
      | interrupted _ _ admits => exact absurd admits refuses

/-- An admitted report returns at the latest when no chunk is planned to raise. -/
theorem sendUntilReturned_returns {submission : ReportSubmission} :
    ∀ (plans : List (List Bool)) {reports : InMemoryReports}, Admits reports submission →
      ∃ outcome last, sendUntilReturned submission (plans ++ [[]]) reports = (some outcome, last)
  | [], reports, admits => by
    have attempt := attempt_run submission [] reports
    rw [List.nil_append, sendUntilReturned]
    cases ran : submitReport plannedReports submission ⟨[], reports⟩ with
    | ok outcome last => exact ⟨outcome, last.state, rfl⟩
    | error raised last =>
      rw [ran] at attempt
      cases attempt with
      | refused _ refuses => exact absurd admits refuses
      | interrupted _ _ _ planned => exact absurd rfl planned
  | faults :: later, reports, admits => by
    have attempt := attempt_run submission faults reports
    rw [List.cons_append, sendUntilReturned]
    cases ran : submitReport plannedReports submission ⟨faults, reports⟩ with
    | ok outcome last => exact ⟨outcome, last.state, rfl⟩
    | error raised last =>
      rw [ran] at attempt
      cases attempt with
      | refused _ refuses => exact absurd admits refuses
      | interrupted _ _ _ _ behind =>
        exact sendUntilReturned_returns later (behind.admits_iff.mpr admits)

/-- When a report returns, its chunks went to the bulk gateway, some of them more than once, and
its gathering was moved and announced at the end. -/
theorem sendUntilReturned_settled {submission : ReportSubmission} {outcome : ReportOutcome}
    {last : InMemoryReports} :
    ∀ (plans : List (List Bool)) {reports : InMemoryReports},
      sendUntilReturned submission plans reports = (some outcome, last) →
      Admits reports submission ∧ ∃ batches counters recorded,
        (∀ batch, batch ∈ batches ↔ batch ∈ submission.batches) ∧
        Counted submission counters ∧ outcome = acceptedOutcome submission counters recorded ∧
        last = (reports.absorb batches).settled submission counters recorded
  | [], reports, sent => by cases sent
  | faults :: later, reports, sent => by
    have attempt := attempt_run submission faults reports
    rw [sendUntilReturned] at sent
    cases ran : submitReport plannedReports submission ⟨faults, reports⟩ with
    | ok reported state =>
      rw [ran] at attempt sent
      cases attempt with
      | returned counters recorded rest admits counted =>
        cases sent
        exact ⟨admits, submission.batches, counters, recorded, fun _ => Iff.rfl, counted, rfl, rfl⟩
    | error raised state =>
      rw [ran] at attempt sent
      obtain ⟨again, batches, counters, recorded, all, counted, same, settled⟩ :=
        sendUntilReturned_settled later sent
      cases attempt with
      | refused _ refuses => exact absurd again refuses
      | interrupted _ _ admits _ behind =>
        obtain ⟨before, own, left⟩ := behind
        rw [left, reports.absorb_absorb] at settled
        refine ⟨admits, before ++ batches, counters, recorded, fun batch => ?_, counted, same,
          settled⟩
        rw [List.mem_append, all]
        exact or_iff_right_of_imp (own batch)

/-- The number of rows of an attendee for an event. -/
def InMemoryReports.rowsOf (reports : InMemoryReports) (key : String × String) : Nat :=
  (reports.bulk.insertedItems.map (·.uniqueKey)).count key

/-- A batch that names nobody twice gives everybody that it names a row who has none. -/
theorem rowsOf_batch {reports : InMemoryReports} (ledger : Ledger reports.bulk) {batch : Batch}
    (inside : batch.inScope = true) (distinct : (batch.items.map (·.uniqueKey)).Nodup)
    (key : String × String) :
    (reports.absorb [batch]).rowsOf key =
      if key ∈ batch.items.map (·.uniqueKey) then max 1 (reports.rowsOf key)
      else reports.rowsOf key := by
  have written : (reports.absorb [batch]).bulk.insertedItems =
      reports.bulk.insertedItems ++ reports.bulk.unrecorded batch := by
    rw [← ledger.newItems batch]
    exact congrArg InMemory.insertedItems (InMemory.submit_record inside reports.bulk)
  have fresh : ((reports.bulk.unrecorded batch).map (·.uniqueKey)).Nodup :=
    distinct.sublist (List.filter_sublist.map _)
  have named : key ∈ (reports.bulk.unrecorded batch).map (·.uniqueKey) ↔
      key ∈ batch.items.map (·.uniqueKey) ∧
        key ∉ reports.bulk.insertedItems.map (·.uniqueKey) := by
    simp only [InMemory.unrecorded, List.mem_map, List.mem_filter, decide_eq_true_eq]
    constructor
    · rintro ⟨item, ⟨member, absent⟩, rfl⟩
      exact ⟨⟨item, member, rfl⟩, absent⟩
    · rintro ⟨⟨item, member, rfl⟩, absent⟩
      exact ⟨item, ⟨member, absent⟩, rfl⟩
  rw [InMemoryReports.rowsOf, written, List.map_append, List.count_append, fresh.count,
    InMemoryReports.rowsOf]
  by_cases old : key ∈ reports.bulk.insertedItems.map (·.uniqueKey)
  · have some := List.count_pos_iff.mpr old
    rw [if_neg fun new => (named.mp new).2 old, max_eq_right some, ite_self, Nat.add_zero]
  · rw [List.count_eq_zero.mpr old]
    by_cases mine : key ∈ batch.items.map (·.uniqueKey)
    · rw [if_pos (named.mpr ⟨mine, old⟩), if_pos mine]
      rfl
    · rw [if_neg fun new => mine (named.mp new).1, if_neg mine]

/-- Batches that name nobody twice, one after the other. -/
theorem rowsOf_batches (key : String × String) :
    ∀ (batches : List Batch) {reports : InMemoryReports}, Ledger reports.bulk →
      (∀ batch ∈ batches, batch.inScope = true ∧ (batch.items.map (·.uniqueKey)).Nodup) →
      (reports.absorb batches).rowsOf key =
        if ∃ batch ∈ batches, key ∈ batch.items.map (·.uniqueKey) then
          max 1 (reports.rowsOf key)
        else reports.rowsOf key
  | [], reports, _, _ => by
    rw [if_neg]
    · rfl
    · rintro ⟨_, none, _⟩
      cases none
  | batch :: rest, reports, ledger, regular => by
    obtain ⟨inside, distinct⟩ := regular batch List.mem_cons_self
    have first := rowsOf_batch ledger inside distinct key
    have kept : Ledger (reports.absorb [batch]).bulk := ledger.submit batch
    have later := rowsOf_batches key rest kept
      fun other member => regular other (List.mem_cons_of_mem _ member)
    rw [reports.absorb_absorb, List.singleton_append, first] at later
    rw [later]
    simp only [List.mem_cons, exists_eq_or_imp]
    by_cases here : key ∈ batch.items.map (·.uniqueKey)
    · rw [if_pos here, if_pos (Or.inl here), ← max_assoc, max_self, ite_self]
    · rw [if_neg here]
      simp only [here, false_or]

/-- The key of a present attendee of a report. -/
def ReportSubmission.keys (submission : ReportSubmission) : List (String × String) :=
  submission.present.map fun attendee => (submission.gathering, attendee.member)

/-- The items of a report have the keys of those who came. -/
theorem map_uniqueKey_items (submission : ReportSubmission) :
    submission.items.map (·.uniqueKey) = submission.keys := by
  rw [ReportSubmission.items, List.map_map]
  rfl

/-- The chunks of a report name those who came. -/
theorem mem_batches_keys (submission : ReportSubmission) (key : String × String) :
    (∃ batch ∈ submission.batches, key ∈ batch.items.map (·.uniqueKey)) ↔
      key ∈ submission.keys := by
  rw [← map_uniqueKey_items, ← flatMap_batches, List.map_flatMap, List.mem_flatMap]

/-- A regular batch names no key twice. -/
theorem nodup_uniqueKey {gathering branch : String} {batch : Batch}
    (regular : Regular gathering branch batch) : (batch.items.map (·.uniqueKey)).Nodup := by
  apply List.Nodup.of_map Prod.snd
  rw [List.map_map]
  exact regular.distinct

/-- A report was recorded, moved and announced once: everybody who came has a row, and one only
where there was none before; nobody else has another one. -/
structure ReportedOnce (submission : ReportSubmission) (before after : InMemoryReports) :
    Prop where
  rows : ∀ key, after.rowsOf key =
    if key ∈ submission.keys then max 1 (before.rowsOf key) else before.rowsOf key
  held : before.gatheringStatus submission.gathering = some .held
  reported : after.gatheringStatus =
    Function.update before.gatheringStatus submission.gathering (some .reported)
  once : ∃ counters recorded, Counted submission counters ∧
    after.advanced = before.advanced ++
      [⟨submission.gathering, .reported, submission.reportedBy, counters⟩] ∧
    after.publishedEvents = before.publishedEvents ++ [reportedEvent submission counters recorded]

/-- Whatever chunks raise in whatever attempts: when a report over distinct members returns it was
recorded, moved and announced once; it does return once an attempt is spared, if the checks admit
it; and with an unknown attendee no row is written. -/
theorem report_retried (history : List Batch) (before : InMemoryReports)
    (reached : before.bulk = runAll InMemory.submit {} history) (submission : ReportSubmission)
    (plans : List (List Bool)) :
    ((submission.attendees.map (·.member)).Nodup → ∀ outcome after,
      sendUntilReturned submission plans before = (some outcome, after) →
        ReportedOnce submission before after) ∧
    (Admits before submission → ∃ outcome after,
      sendUntilReturned submission (plans ++ [[]]) before = (some outcome, after)) ∧
    ((∃ attendee ∈ submission.attendees, ¬before.Knows attendee.member) →
      sendUntilReturned submission plans before = (none, before)) := by
  have ledger : Ledger before.bulk := by
    rw [reached]
    exact runAll_invariant Ledger (fun _ batch held => held.submit batch) history {} Ledger.empty
  refine ⟨fun distinct outcome after sent => ?_, sendUntilReturned_returns plans, ?_⟩
  · have ⟨admits, batches, counters, recorded, all, counted, _, settled⟩ :=
      sendUntilReturned_settled plans sent
    have regular : ∀ batch ∈ batches,
        batch.inScope = true ∧ (batch.items.map (·.uniqueKey)).Nodup := by
      intro batch member
      have present : (submission.present.map (·.member)).Nodup :=
        distinct.sublist (List.filter_sublist.map _)
      have regular := batches_regular ⟨rfl, rfl, present⟩ batch ((all batch).mp member)
      exact ⟨regular.inScope, nodup_uniqueKey regular⟩
    have named : ∀ key, (∃ batch ∈ batches, key ∈ batch.items.map (·.uniqueKey)) ↔
        key ∈ submission.keys := by
      intro key
      rw [← mem_batches_keys]
      exact exists_congr fun batch => and_congr_left fun _ => all batch
    rw [settled]
    refine ⟨fun key => ?_, admits.held, rfl, counters, recorded, counted, rfl, rfl⟩
    have rows := rowsOf_batches key batches ledger regular
    rw [← if_congr (named key) rfl rfl]
    exact rows
  · rintro ⟨attendee, member, unknown⟩
    exact sendUntilReturned_refused (fun admits => unknown (admits.known attendee member)) plans

/-- A report of a visitor. -/
def visit : ReportSubmission where
  gathering := "cell"
  branch := "north"
  group := "g1"
  reportedBy := "leader"
  attendees := [⟨"ann", true, true, none⟩]
  clientBatchId := "b1"

/-- The cell was held, and Ann is a visitor. -/
def heldCell : InMemoryReports where
  gatheringStatus gathering := if gathering = "cell" then some .held else none
  memberStatus member := if member = "ann" then some memberStatusVisitor else none

/-- The first attempt raises after its chunk was committed, and the second returns. -/
theorem visit_reportedOnce : ∃ outcome after,
    sendUntilReturned visit [[false, true], []] heldCell = (some outcome, after) ∧
      ReportedOnce visit heldCell after := by
  have admits : Admits heldCell visit :=
    ⟨rfl, rfl, fun attendee member =>
      ⟨memberStatusVisitor, by rw [List.mem_singleton.mp member]; rfl, by decide⟩⟩
  have ⟨outcome, after, sent⟩ := (report_retried [] heldCell rfl visit [[false, true]]).2.1 admits
  exact ⟨outcome, after, sent,
    (report_retried [] heldCell rfl visit [[false, true], []]).1 (by decide) outcome after sent⟩

end FlockOs.LeaderReporting
