import FlockOs.LeaderReporting
import FlockOs.Verif.BulkAttendance

/-!
# What a leader report counts

The counters that a report stamps are those of its own attendees; the rollup is that of the rows
of all reports. While no report names a present attendee twice the rollup counts people, and the
two agree exactly when the report names everybody who was recorded before. The first-timers are
counted whether they came or not.
-/

namespace FlockOs.LeaderReporting

open Lib Reporting Gatherings

/-- The attendees of a report who came. -/
def ReportSubmission.present (submission : ReportSubmission) : List AttendeeReport :=
  submission.attendees.filter (·.present)

/-- The people who came. -/
def ReportSubmission.people (submission : ReportSubmission) : Finset String :=
  (submission.present.map (·.member)).toFinset

/-- The items of those who came. -/
def ReportSubmission.items (submission : ReportSubmission) : List AttendanceItem :=
  submission.present.map (toAttendanceItem submission)

/-- A numbered chunk as a batch. -/
def ReportSubmission.batch (submission : ReportSubmission) (chunk : List AttendanceItem × Nat) :
    Batch where
  items := chunk.1
  scope := ⟨submission.branch⟩
  batchId := chunkId submission chunk.2

/-- The chunks of a report as batches. -/
def ReportSubmission.batches (submission : ReportSubmission) : List Batch :=
  (chunks submission.items).zipIdx.map submission.batch

/-- The tally after some attendees. -/
structure Tallies (submission : ReportSubmission) (attendees : List AttendeeReport)
    (before after : Tally) : Prop where
  /-- Members and visitors are those who came. -/
  present : after.counters.memberCount + after.counters.visitorCount =
    before.counters.memberCount + before.counters.visitorCount +
      (attendees.filter (·.present)).length
  /-- First-timers are those flagged. -/
  firstTime : after.counters.firstTimeCount =
    before.counters.firstTimeCount + attendees.countP (·.firstTime)
  /-- There is an item for each who came. -/
  items : after.items =
    before.items ++ (attendees.filter (·.present)).map (toAttendanceItem submission)

/-- The tally of one attendee. -/
theorem Tally.add_tallies (submission : ReportSubmission) (tally : Tally)
    (attendee : AttendeeReport) (status : String) :
    Tallies submission [attendee] tally (tally.add submission attendee status) := by
  have flagged : (if attendee.firstTime then 1 else 0) = [attendee].countP (·.firstTime) := by
    simp [List.countP_cons]
  unfold Tally.add
  rw [flagged]
  cases came : attendee.present with
  | false => exact ⟨by simp [came], rfl, by simp [came]⟩
  | true =>
    rw [if_pos rfl]
    by_cases visitor : visitorStatuses.contains status = true
    · rw [if_pos visitor]
      exact ⟨by simp [came]; omega, rfl, by simp [came]⟩
    · rw [if_neg visitor]
      exact ⟨by simp [came]; omega, rfl, by simp [came]⟩

/-- The tally of attendees one after the other. -/
theorem Tallies.cons {submission : ReportSubmission} {attendee : AttendeeReport}
    {rest : List AttendeeReport} {before middle after : Tally}
    (first : Tallies submission [attendee] before middle)
    (others : Tallies submission rest middle after) :
    Tallies submission (attendee :: rest) before after := by
  have split : (attendee :: rest).filter (·.present) =
      [attendee].filter (·.present) ++ rest.filter (·.present) :=
    List.filter_append [attendee] rest
  have counted : ([attendee] ++ rest).countP (·.firstTime) =
      [attendee].countP (·.firstTime) + rest.countP (·.firstTime) := List.countP_append
  rw [List.singleton_append] at counted
  refine ⟨?_, ?_, ?_⟩
  · rw [others.present, first.present, split, List.length_append]
    omega
  · rw [others.firstTime, first.firstTime, counted]
    omega
  · rw [others.items, first.items, split, List.map_append, List.append_assoc]

/-- The loop over the attendees writes nothing: it raises, or returns their tally. -/
theorem classify_run (submission : ReportSubmission) (reports : InMemoryReports) :
    ∀ (attendees : List AttendeeReport) (tally : Tally),
      (∃ raised, attendees.foldlM (classify inMemoryReports submission) tally reports =
        .error raised reports) ∨
      (∃ after, attendees.foldlM (classify inMemoryReports submission) tally reports =
        .ok after reports ∧ Tallies submission attendees tally after)
  | [], tally => Or.inr ⟨tally, rfl, ⟨rfl, rfl, (List.append_nil _).symm⟩⟩
  | attendee :: rest, tally => by
    have turn : classify inMemoryReports submission tally attendee reports =
        ((Exec.ofExcept (checkMember attendee.member (reports.memberStatus attendee.member)) :
          Exec Error InMemoryReports String) >>=
            fun status => pure (tally.add submission attendee status)) reports := rfl
    rw [List.foldlM_cons]
    cases checked : checkMember attendee.member (reports.memberStatus attendee.member) with
    | error raised =>
      rw [checked] at turn
      exact Or.inl ⟨raised, Exec.bind_run_error turn _⟩
    | ok status =>
      rw [checked] at turn
      have counted := tally.add_tallies submission attendee status
      rw [Exec.bind_run_ok turn]
      rcases classify_run submission reports rest (tally.add submission attendee status) with
        ⟨raised, failed⟩ | ⟨after, ran, others⟩
      · exact Or.inl ⟨raised, failed⟩
      · exact Or.inr ⟨after, ran, counted.cons others⟩

/-- The chunks of a list are the list. -/
theorem flatten_chunks (items : List AttendanceItem) : (chunks items).flatten = items :=
  (batched_strided (by decide) items).whole

/-- A chunk of one branch goes to the bulk gateway as a batch. -/
theorem recordAttendance_run {batch : Batch} (inside : batch.inScope = true)
    (reports : InMemoryReports) :
    ∃ counts, InMemoryReports.recordAttendance batch.items batch.scope batch.batchId reports =
      .ok counts { reports with bulk := reports.bulk.submit batch } := by
  unfold InMemoryReports.recordAttendance
  rw [submit_inScope inside, InMemory.submit_record inside]
  exact ⟨_, rfl⟩

/-- Recording chunks of one branch never raises, and hands them to the bulk gateway. -/
theorem recordChunks_run (submission : ReportSubmission) :
    ∀ (slices : List (List AttendanceItem × Nat)) (recorded : Recorded)
      (reports : InMemoryReports),
      (∀ slice ∈ slices, (submission.batch slice).inScope = true) →
      ∃ after, slices.foldlM (recordChunk inMemoryReports submission) recorded reports =
        .ok after { reports with
          bulk := (slices.map submission.batch).foldl InMemory.submit reports.bulk }
  | [], recorded, reports, _ => ⟨recorded, rfl⟩
  | slice :: rest, recorded, reports, inside => by
    obtain ⟨counts, stores⟩ := recordAttendance_run (inside slice List.mem_cons_self) reports
    have turn : recordChunk inMemoryReports submission recorded slice reports =
        .ok _ { reports with bulk := reports.bulk.submit (submission.batch slice) } :=
      Exec.bind_run_ok stores _
    obtain ⟨after, others⟩ := recordChunks_run submission rest
      ⟨recorded.inserted + counts.1, recorded.deduplicated + counts.2,
        recorded.batchIds ++ [chunkId submission slice.2]⟩
      { reports with bulk := reports.bulk.submit (submission.batch slice) }
      fun other member => inside other (List.mem_cons_of_mem _ member)
    refine ⟨after, ?_⟩
    rw [List.foldlM_cons, Exec.bind_run_ok turn]
    exact others

/-- The chunks of a report are in its scope. -/
theorem batch_inScope {submission : ReportSubmission} {slice : List AttendanceItem × Nat}
    (member : slice ∈ (chunks submission.items).zipIdx) :
    (submission.batch slice).inScope = true := by
  apply List.all_eq_true.mpr
  intro item inside
  have chunk : slice.1 ∈ chunks submission.items := List.fst_mem_of_mem_zipIdx member
  have own : item ∈ submission.items := by
    rw [← flatten_chunks submission.items]
    exact List.mem_flatten_of_mem chunk inside
  obtain ⟨attendee, _, same⟩ := List.mem_map.mp own
  rw [← same]
  exact decide_eq_true rfl

/-- The counters of a report: those who came, and those flagged as first-timers. -/
structure Counted (submission : ReportSubmission) (counters : Counters) : Prop where
  /-- Members and visitors are those who came. -/
  present : counters.memberCount + counters.visitorCount = submission.present.length
  /-- First-timers are those flagged. -/
  firstTime : counters.firstTimeCount = submission.attendees.countP (·.firstTime)

/-- The gateway after an accepted report. -/
def InMemoryReports.accepted (reports : InMemoryReports) (submission : ReportSubmission)
    (counters : Counters) (recorded : Recorded) : InMemoryReports :=
  (({ reports with bulk := submission.batches.foldl InMemory.submit reports.bulk }).advance
    submission.gathering reportedStatus submission.reportedBy counters).publish
      (reportedEvent submission counters recorded)

/-- Only a held gathering passes the checks. -/
theorem checkStatus_ok {gathering : String} {status : Option GatheringStatus}
    (passes : checkStatus gathering status = .ok ()) : status = some .held := by
  cases status with
  | none => cases passes
  | some current =>
    cases current with
    | held => rfl
    | scheduled => cases passes
    | reported => cases passes
    | confirmed => cases passes
    | cancelled => cases passes

/-- A report on a held gathering is applied and announced. -/
theorem advance_run {submission : ReportSubmission} {reports : InMemoryReports}
    (held : reports.gatheringStatus submission.gathering = some .held) (counters : Counters)
    (recorded : Recorded) :
    advance inMemoryReports submission counters recorded reports =
      .ok (acceptedOutcome submission counters recorded)
        ((reports.advance submission.gathering reportedStatus submission.reportedBy
          counters).publish (reportedEvent submission counters recorded)) := by
  have read : inMemoryReports.gatheringStatus submission.gathering reports =
      .ok (some .held) reports := by
    rw [← held]
    rfl
  unfold advance
  rw [Exec.bind_run_ok read]
  rfl

/-- A report raises and leaves the gateway as it was, or is accepted with its counters. -/
theorem submitReport_run (submission : ReportSubmission) (reports : InMemoryReports) :
    (∃ raised, submitReport inMemoryReports submission reports = .error raised reports) ∨
      ∃ counters recorded, Counted submission counters ∧
        submitReport inMemoryReports submission reports =
          .ok (acceptedOutcome submission counters recorded)
            (reports.accepted submission counters recorded) := by
  have checks : validateGathering inMemoryReports submission reports =
      (Exec.ofExcept (checkStatus submission.gathering
        (reports.gatheringStatus submission.gathering)) : Exec Error InMemoryReports Unit)
        reports := rfl
  unfold submitReport
  cases shape : validateSubmissionShape submission with
  | error raised => exact Or.inl ⟨raised, Exec.bind_run_error rfl _⟩
  | ok passed =>
    have shaped : (Exec.ofExcept (.ok passed) : Exec Error InMemoryReports Unit) reports =
        .ok passed reports := rfl
    rw [Exec.bind_run_ok shaped]
    cases status : checkStatus submission.gathering
        (reports.gatheringStatus submission.gathering) with
    | error raised =>
      rw [status] at checks
      exact Or.inl ⟨raised, Exec.bind_run_error checks _⟩
    | ok admitted =>
      rw [status] at checks
      rw [Exec.bind_run_ok checks]
      have held := checkStatus_ok status
      rcases classify_run submission reports submission.attendees {} with
        ⟨raised, failed⟩ | ⟨tally, ran, tallies⟩
      · exact Or.inl ⟨raised, Exec.bind_run_error failed _⟩
      · rw [Exec.bind_run_ok ran]
        have items : tally.items = submission.items := tallies.items.trans (List.nil_append _)
        obtain ⟨recorded, stores⟩ := recordChunks_run submission (chunks submission.items).zipIdx {}
          reports fun slice member => batch_inScope member
        rw [items]
        have records : recordInChunks inMemoryReports submission submission.items reports = _ :=
          stores
        rw [Exec.bind_run_ok records]
        have present := tallies.present
        have firstTime := tallies.firstTime
        have stillHeld : ({ reports with
            bulk := submission.batches.foldl InMemory.submit reports.bulk } :
              InMemoryReports).gatheringStatus submission.gathering = some .held := held
        refine Or.inr ⟨tally.counters, recorded, ⟨?_, ?_⟩, advance_run stillHeld _ _⟩
        · rw [present]
          exact Nat.zero_add _
        · rw [firstTime]
          exact Nat.zero_add _

/-- The bulk gateway of one gathering: its rows are in step with its counters, and none of its
attendees has two. -/
structure Kept (gathering branch : String) (bulk : InMemory) : Prop where
  /-- The counters describe the rows. -/
  ledger : Ledger bulk
  /-- The counters count people. -/
  once : CountsOnce bulk
  /-- The rows are of the gathering and its branch. -/
  own : ∀ row ∈ bulk.insertedItems, row.event = gathering ∧ row.branch = branch

/-- A batch of the gathering that names nobody twice. -/
structure Regular (gathering branch : String) (batch : Batch) : Prop where
  /-- It is reported against the branch. -/
  scope : batch.scope.branch = branch
  /-- Its items are of the gathering and its branch. -/
  own : ∀ item ∈ batch.items, item.event = gathering ∧ item.branch = branch
  /-- It names nobody twice. -/
  distinct : (batch.items.map (·.attendeeRef)).Nodup

section Gathering

variable {gathering branch : String} {bulk : InMemory}

/-- A regular batch passes the scope check. -/
theorem Regular.inScope {batch : Batch} (regular : Regular gathering branch batch) :
    batch.inScope = true := by
  apply List.all_eq_true.mpr
  intro item member
  apply decide_eq_true
  rw [(regular.own item member).2, regular.scope]

/-- The recorded attendees are those with a row. -/
theorem Kept.mem_recorded (kept : Kept gathering branch bulk) {attendee : String} :
    attendee ∈ bulk.recorded branch gathering ↔
      attendee ∈ bulk.insertedItems.map (·.attendeeRef) := by
  unfold InMemory.recorded
  rw [List.mem_toFinset, List.filter_eq_self.mpr]
  intro row member
  have own := kept.own row member
  exact decide_eq_true ⟨own.2, own.1⟩

/-- A regular batch keeps the gateway in order. -/
theorem Kept.submit (kept : Kept gathering branch bulk) {batch : Batch}
    (regular : Regular gathering branch batch) : Kept gathering branch (bulk.submit batch) := by
  have once : NamesOnce bulk batch := by
    intro _
    apply List.Nodup.of_map Prod.snd
    rw [List.map_map]
    exact regular.distinct.sublist (List.filter_sublist.map _)
  refine ⟨kept.ledger.submit batch, (kept.ledger.submit_countsOnce_iff kept.once batch).mpr once,
    fun row member => ?_⟩
  rw [InMemory.submit_record regular.inScope] at member
  rcases List.mem_append.mp member with old | new
  · exact kept.own row old
  · exact regular.own row (List.mem_of_mem_filter new)

/-- A regular batch records those that it names. -/
theorem Kept.recorded_submit (kept : Kept gathering branch bulk) {batch : Batch}
    (regular : Regular gathering branch batch) :
    (bulk.submit batch).recorded branch gathering =
      bulk.recorded branch gathering ∪ (batch.items.map (·.attendeeRef)).toFinset := by
  ext attendee
  rw [(kept.submit regular).mem_recorded, Finset.mem_union, kept.mem_recorded, List.mem_toFinset,
    InMemory.submit_record regular.inScope]
  show attendee ∈ (bulk.insertedItems ++ bulk.newItems batch).map _ ↔ _
  rw [List.map_append, List.mem_append, kept.ledger.newItems batch]
  constructor
  · rintro (old | new)
    · exact Or.inl old
    · obtain ⟨item, member, same⟩ := List.mem_map.mp new
      exact Or.inr (List.mem_map.mpr ⟨item, List.mem_of_mem_filter member, same⟩)
  · rintro (old | named)
    · exact Or.inl old
    · obtain ⟨item, member, same⟩ := List.mem_map.mp named
      by_cases found : item.uniqueKey ∈ bulk.insertedItems.map (·.uniqueKey)
      · obtain ⟨row, there, key⟩ := List.mem_map.mp found
        have ref : row.attendeeRef = item.attendeeRef := congrArg Prod.snd key
        exact Or.inl (List.mem_map.mpr ⟨row, there, ref.trans same⟩)
      · apply Or.inr
        apply List.mem_map.mpr
        exact ⟨item, List.mem_filter.mpr ⟨member, decide_eq_true found⟩, same⟩

/-- Regular batches one after the other keep the gateway in order and record those that they
name. -/
theorem Kept.submitAll (kept : Kept gathering branch bulk) (batches : List Batch)
    (regular : ∀ batch ∈ batches, Regular gathering branch batch) :
    Kept gathering branch (batches.foldl InMemory.submit bulk) ∧
      (batches.foldl InMemory.submit bulk).recorded branch gathering =
        bulk.recorded branch gathering ∪
          ((batches.flatMap (·.items)).map (·.attendeeRef)).toFinset := by
  induction batches generalizing bulk with
  | nil => exact ⟨kept, by simp⟩
  | cons batch rest ih =>
    have first := regular batch List.mem_cons_self
    obtain ⟨later, recorded⟩ := ih (kept.submit first)
      fun other member => regular other (List.mem_cons_of_mem _ member)
    refine ⟨later, ?_⟩
    rw [List.foldl_cons, recorded, kept.recorded_submit first, Finset.union_assoc,
      List.flatMap_cons, List.map_append, List.toFinset_append]

end Gathering

/-- The counters stamped on a gathering. -/
def InMemoryReports.stamped (reports : InMemoryReports) (gathering : String) : Option Counters :=
  (reports.advanced.reverse.find? fun entry => entry.gathering = gathering).map (·.counters)

/-- The number of attendees recorded present for a gathering of a branch. -/
def InMemoryReports.attended (reports : InMemoryReports) (branch gathering : String) : Nat :=
  (reports.bulk.recorded branch gathering).card

/-- A property of a report, of the gateways before and after it and of the counters that it
stamped. -/
abbrev ReportProperty := ReportSubmission → InMemoryReports → InMemoryReports → Counters → Prop

/-- An accepted report has stamped counters with the property. -/
def Stamps (holds : ReportProperty) (submission : ReportSubmission) (before : InMemoryReports) :
    EStateM.Result Error InMemoryReports ReportOutcome → Prop
  | .error _ _ => True
  | .ok _ after => ∃ counters ∈ after.stamped submission.gathering,
      holds submission before after counters

/-- Where a call is a report that is accepted, it has stamped counters with the property. -/
def AfterReport (holds : ReportProperty) (reports : InMemoryReports) : Call → Prop
  | .reopen _ => True
  | .report submission =>
    Stamps holds submission reports (submitReport inMemoryReports submission reports)

section Decide

variable (holds : ReportProperty)
  [∀ submission before after counters, Decidable (holds submission before after counters)]

instance (submission : ReportSubmission) (before : InMemoryReports)
    (result : EStateM.Result Error InMemoryReports ReportOutcome) :
    Decidable (Stamps holds submission before result) :=
  match result with
  | .error _ _ => .isTrue trivial
  | .ok _ _ => inferInstanceAs (Decidable (∃ _ ∈ _, _))

instance (reports : InMemoryReports) (call : Call) : Decidable (AfterReport holds reports call) :=
  match call with
  | .reopen _ => .isTrue trivial
  | .report _ => inferInstanceAs (Decidable (Stamps _ _ _ _))

end Decide

/-- The counters agree with the rollup, and the rollup counts people. -/
structure MatchesRollup (submission : ReportSubmission) (_before after : InMemoryReports)
    (counters : Counters) : Prop where
  /-- Those who came are those in the rollup. -/
  total : counters.memberCount + counters.visitorCount =
    after.aggregate submission.branch submission.gathering
  /-- The rollup counts people. -/
  aggregate_eq : after.aggregate submission.branch submission.gathering =
    after.attended submission.branch submission.gathering
  /-- No more of them are first-timers. -/
  firstTime : counters.firstTimeCount ≤ after.attended submission.branch submission.gathering

instance (submission : ReportSubmission) (before after : InMemoryReports) (counters : Counters) :
    Decidable (MatchesRollup submission before after counters) :=
  decidable_of_iff (_ ∧ _ ∧ _) ⟨fun ⟨total, aggregate_eq, firstTime⟩ =>
    ⟨total, aggregate_eq, firstTime⟩, fun ⟨total, aggregate_eq, firstTime⟩ =>
      ⟨total, aggregate_eq, firstTime⟩⟩

/-- The rollup counts the people recorded by this report and those before, the counters the
attendees of this report. -/
structure Tallied (submission : ReportSubmission) (before after : InMemoryReports)
    (counters : Counters) : Prop where
  /-- Those who came are recorded with those before. -/
  recorded : after.bulk.recorded submission.branch submission.gathering =
    before.bulk.recorded submission.branch submission.gathering ∪ submission.people
  /-- The rollup counts people. -/
  aggregate_eq : after.aggregate submission.branch submission.gathering =
    after.attended submission.branch submission.gathering
  /-- Members and visitors are those who came. -/
  present : counters.memberCount + counters.visitorCount = submission.people.card
  /-- They are no more than the rollup. -/
  total_le : counters.memberCount + counters.visitorCount ≤
    after.aggregate submission.branch submission.gathering
  /-- They are the rollup when the report names everybody recorded before, and only then. -/
  total_iff : counters.memberCount + counters.visitorCount =
      after.aggregate submission.branch submission.gathering ↔
    before.bulk.recorded submission.branch submission.gathering ⊆ submission.people
  /-- First-timers are those flagged, absent or present. -/
  firstTime : counters.firstTimeCount = submission.attendees.countP (·.firstTime)

/-- A call on one gathering of a branch, where no report names a present attendee twice. -/
def Call.ofGathering (gathering branch : String) : Call → Prop
  | .reopen other => other = gathering
  | .report submission => submission.gathering = gathering ∧ submission.branch = branch ∧
      (submission.present.map (·.member)).Nodup

instance (gathering branch : String) (call : Call) :
    Decidable (call.ofGathering gathering branch) :=
  match call with
  | .reopen _ => inferInstanceAs (Decidable (_ = _))
  | .report _ => inferInstanceAs (Decidable (_ ∧ _ ∧ _))

/-- The chunks of a report on the gathering are regular. -/
theorem batches_regular {submission : ReportSubmission} {gathering branch : String}
    (ofGathering : (Call.report submission).ofGathering gathering branch) :
    ∀ batch ∈ submission.batches, Regular gathering branch batch := by
  obtain ⟨named, own, distinct⟩ := ofGathering
  intro batch member
  obtain ⟨slice, there, same⟩ := List.mem_map.mp member
  have chunk : slice.1 ∈ chunks submission.items := List.fst_mem_of_mem_zipIdx there
  have part : slice.1.Sublist submission.items := by
    rw [← flatten_chunks submission.items]
    exact List.sublist_flatten_of_mem chunk
  rw [← same]
  refine ⟨own, fun item inside => ?_, ?_⟩
  · obtain ⟨attendee, _, made⟩ := List.mem_map.mp (part.subset inside)
    rw [← made]
    exact ⟨named, own⟩
  · have refs : submission.items.map (·.attendeeRef) = submission.present.map (·.member) := by
      unfold ReportSubmission.items
      rw [List.map_map]
      rfl
    have all : (submission.items.map (·.attendeeRef)).Nodup := by
      rw [refs]
      exact distinct
    exact all.sublist (part.map _)

/-- The chunks of a report hold its items. -/
theorem flatMap_batches (submission : ReportSubmission) :
    submission.batches.flatMap (·.items) = submission.items := by
  unfold ReportSubmission.batches
  rw [List.flatMap_map]
  show (chunks submission.items).zipIdx.flatMap (fun slice => slice.1) = _
  rw [List.flatMap_def, List.zipIdx_map_fst, flatten_chunks]

/-- The chunks of a report name those who came. -/
theorem batches_people (submission : ReportSubmission) :
    ((submission.batches.flatMap (·.items)).map (·.attendeeRef)).toFinset = submission.people := by
  rw [flatMap_batches]
  unfold ReportSubmission.items ReportSubmission.people
  rw [List.map_map]
  rfl

/-- What is stamped last is what a gathering shows. -/
theorem stamped_accepted (reports : InMemoryReports) (submission : ReportSubmission)
    (counters : Counters) (recorded : Recorded) :
    (reports.accepted submission counters recorded).stamped submission.gathering =
      some counters := by
  show (((reports.advanced ++ [_]).reverse.find? _).map _) = _
  rw [List.reverse_append]
  simp

/-- A call keeps the rows of the gathering in order. -/
theorem Kept.step {gathering branch : String} {reports : InMemoryReports} {call : Call}
    (kept : Kept gathering branch reports.bulk) (ofGathering : call.ofGathering gathering branch) :
    Kept gathering branch (reports.step call).bulk := by
  cases call with
  | reopen other =>
    show Kept gathering branch (reports.reopen other).bulk
    unfold InMemoryReports.reopen
    split
    · exact kept
    · exact kept
  | report submission =>
    show Kept gathering branch (Exec.after _ reports).bulk
    unfold Exec.after
    rcases submitReport_run submission reports with ⟨raised, failed⟩ | ⟨counters, recorded, _, ran⟩
    · rw [failed]
      exact kept
    · rw [ran]
      exact (kept.submitAll submission.batches (batches_regular ofGathering)).1

/-- An accepted report is tallied. -/
theorem Kept.tallied {gathering branch : String} {reports : InMemoryReports} {call : Call}
    (kept : Kept gathering branch reports.bulk) (ofGathering : call.ofGathering gathering branch) :
    AfterReport Tallied reports call := by
  cases call with
  | reopen other => trivial
  | report submission =>
    show Stamps _ _ _ _
    rcases submitReport_run submission reports with
      ⟨raised, failed⟩ | ⟨counters, recorded, counted, ran⟩
    · rw [failed]
      trivial
    · rw [ran]
      obtain ⟨later, all⟩ := kept.submitAll submission.batches (batches_regular ofGathering)
      rw [batches_people] at all
      obtain ⟨named, own, distinct⟩ := ofGathering
      rw [← named, ← own] at all
      have counts : (reports.accepted submission counters recorded).aggregate submission.branch
          submission.gathering = (reports.accepted submission counters recorded).attended
            submission.branch submission.gathering :=
        later.once.aggregate_eq submission.branch submission.gathering
      have total : (reports.accepted submission counters recorded).aggregate submission.branch
          submission.gathering = (reports.bulk.recorded submission.branch submission.gathering ∪
            submission.people).card :=
        counts.trans (congrArg Finset.card all)
      have came : counters.memberCount + counters.visitorCount = submission.people.card := by
        rw [counted.present]
        unfold ReportSubmission.people
        rw [List.toFinset_card_of_nodup distinct, List.length_map]
      have everybody : submission.people ⊆
          reports.bulk.recorded submission.branch submission.gathering ∪ submission.people :=
        Finset.subset_union_right
      refine ⟨counters, stamped_accepted _ _ _ _, all, counts, came, ?_, ?_, counted.firstTime⟩
      · rw [came, total]
        exact Finset.card_le_card everybody
      · rw [came, total]
        constructor
        · intro same
          have equal := Finset.eq_of_subset_of_card_le everybody same.ge
          rw [equal]
          exact Finset.subset_union_left
        · intro named
          rw [Finset.union_eq_right.mpr named]

/-- The gateway with its gatherings and members, before any report. -/
def registered (gatheringStatus : String → Option GatheringStatus)
    (memberStatus : String → Option String) : InMemoryReports where
  gatheringStatus := gatheringStatus
  memberStatus := memberStatus

/-- In every run of reports and reopenings on one gathering of a branch, where no report names a
present attendee twice, each accepted report is tallied. -/
theorem reports_tallied (gathering branch : String)
    (gatheringStatus : String → Option GatheringStatus) (memberStatus : String → Option String)
    (calls : List Call) (ofGathering : ∀ call ∈ calls, call.ofGathering gathering branch) :
    EveryCall InMemoryReports.step (AfterReport Tallied) (registered gatheringStatus memberStatus)
      calls := by
  have empty : Kept gathering branch (registered gatheringStatus memberStatus).bulk :=
    ⟨Ledger.empty, Ledger.empty.countsOnce_iff.mpr List.nodup_nil, fun _ member => nomatch member⟩
  have every : EveryCall InMemoryReports.step (fun _ call => call.ofGathering gathering branch)
      (registered gatheringStatus memberStatus) calls :=
    everyCall_of_forall _ ofGathering
  exact every.conclude (fun reports => Kept gathering branch reports.bulk)
    (fun _ _ kept own => kept.step own) (fun _ _ kept own => kept.tallied own) empty

/-- A held gathering, with members only. -/
def prayerNight : InMemoryReports :=
  registered (fun name => if name = "Prayer night" then some .held else none) fun _ => some "Member"

/-- Two came. -/
def firstReport : ReportSubmission where
  gathering := "Prayer night"
  branch := "North"
  group := "Young"
  reportedBy := "Lea"
  attendees := [⟨"Ann", true, false, none⟩, ⟨"Ben", true, false, none⟩]
  clientBatchId := "report-1"

/-- One came, and three first-timers were expected in vain. -/
def secondReport : ReportSubmission where
  gathering := "Prayer night"
  branch := "North"
  group := "Young"
  reportedBy := "Lea"
  attendees := [⟨"Ann", true, false, none⟩, ⟨"Cleo", false, true, none⟩,
    ⟨"Dan", false, true, none⟩, ⟨"Eve", false, true, none⟩]
  clientBatchId := "report-2"

/-- The first report is reopened for the second. -/
def correction : List Call :=
  [.report firstReport, .reopen "Prayer night", .report secondReport]

/-- Both reports are tallied. -/
theorem correction_tallied :
    EveryCall InMemoryReports.step (AfterReport Tallied) prayerNight correction :=
  reports_tallied "Prayer night" "North" _ _ correction (by decide)

/-- After the second report the rollup shows two, and the counters one with three first-timers. -/
theorem correction_disagrees :
    ¬EveryCall InMemoryReports.step (AfterReport MatchesRollup) prayerNight correction ∧
      (runAll InMemoryReports.step prayerNight correction).stamped "Prayer night" =
        some ⟨1, 0, 3⟩ ∧
      (runAll InMemoryReports.step prayerNight correction).aggregate "North" "Prayer night" = 2 ∧
      (runAll InMemoryReports.step prayerNight correction).attended "North" "Prayer night" = 2 := by
  decide +kernel

end FlockOs.LeaderReporting
