import FlockOs.PaperclipReader
import FlockOs.Verif.WatchdogActs

/-!
# Open runs

A fire over the reader should act only on a run that is open and old. The reader hands on the latest
base run whether it is open or not, and starts a run at the epoch whose start it does not know; the
classification looks at the age alone. Exactly which verdicts are nevertheless borne out by the run
as the platform reports it.
-/

namespace FlockOs.Liveness

open Lib

/-- A run as the platform reports it: with its start, where that is known. -/
structure ReportedRun where
  /-- The run that the reader makes of it. -/
  run : HeartbeatRun Json
  /-- The start. -/
  start : Option Rat

/-- The run is open, with an active status and no completion; its start is known, and it is old
enough to be stuck. -/
structure ReportedRun.OpenAndOld (reported : ReportedRun) (thresholds : LivenessThresholds)
    (now : Rat) : Prop where
  /-- The status is active. -/
  active : reported.run.status ∈ activeRunStatuses
  /-- There is no completion time. -/
  uncompleted : reported.run.completedAtEpoch = none
  /-- The age is known, and at least `stuck_minutes`. -/
  old : ∃ age, ageMinutes reported.start now = some age ∧ thresholds.stuckMinutes ≤ age

/-- The reader starts the run where the platform does, and at the epoch without a start. -/
def ReportedRun.Dated (reported : ReportedRun) : Prop :=
  reported.run.triggeredAtEpoch = reported.start.getD 0

namespace PaperclipLivenessReader

variable (reader : PaperclipLivenessReader) (fromisoformat : String → Option Rat)
  (get : String → Except Fault Json)

/-- The run of a record, with its start. -/
def reportRun (record : Json) : Except Fault ReportedRun := do
  let run ← readRun fromisoformat record
  let start ← parseIso8601 fromisoformat (record.get "triggeredAt")
  pure ⟨run, start⟩

/-- The run of a review, with its start. -/
def reportReview (review : Json) : Except Fault ReportedRun := do
  let run ← readReview fromisoformat review
  let started ← parseStartedAt (review.get "description")
  let start ← parseIso8601 fromisoformat (started.map .str)
  pure ⟨run, start⟩

/-- The runs of the routine, as the platform reports them. -/
def reportRuns : Except Fault (List ReportedRun) := do
  (← reader.fetchRecords get).mapM (reportRun fromisoformat)

/-- The run of the open review, as the platform reports it. -/
def reportStaleRun : Except Fault (Option ReportedRun) := do
  match ← reader.fetchReview get with
  | none => pure none
  | some review => some <$> reportReview fromisoformat review

/-- The latest base run as the platform reports it. -/
def reportLatest : Except Fault (Option ReportedRun) :=
  if reader.watchedRoutineId.any truth then do
    let reports ← reader.reportRuns fromisoformat get
    pure ((reports.filter fun reported => reported.run.isBase).argmax
      fun reported => reported.run.triggeredAtEpoch)
  else reader.reportStaleRun fromisoformat get

variable {fromisoformat}

/-- The reader makes a run of what is reported of its record. -/
theorem readRun_eq (record : Json) :
    readRun fromisoformat record = ReportedRun.run <$> reportRun fromisoformat record := by
  rw [reportRun, readRun]
  cases parseIso8601 fromisoformat (record.get "triggeredAt") with
  | error raised => rfl
  | ok start =>
    cases parseIso8601 fromisoformat (record.get "completedAt") with
    | error raised => rfl
    | ok completed => rfl

/-- What is reported of a record is dated. -/
theorem reportRun_dated (record : Json) :
    Yields ReportedRun.Dated (reportRun fromisoformat record) := by
  rw [reportRun, readRun]
  cases parseIso8601 fromisoformat (record.get "triggeredAt") with
  | error raised => exact .error raised
  | ok start =>
    cases parseIso8601 fromisoformat (record.get "completedAt") with
    | error raised => exact .error raised
    | ok completed => exact .ok rfl

/-- The reader makes a run of what is reported of a review. -/
theorem readReview_eq (review : Json) :
    readReview fromisoformat review = ReportedRun.run <$> reportReview fromisoformat review := by
  rw [reportReview, readReview]
  cases parseStartedAt (review.get "description") with
  | error raised => rfl
  | ok started =>
    dsimp only [Bind.bind, Except.bind]
    cases parseIso8601 fromisoformat (started.map .str) with
    | error raised => rfl
    | ok start => rfl

/-- What is reported of a review is dated. -/
theorem reportReview_dated (review : Json) :
    Yields ReportedRun.Dated (reportReview fromisoformat review) := by
  rw [reportReview, readReview]
  cases parseStartedAt (review.get "description") with
  | error raised => exact .error raised
  | ok started =>
    dsimp only [Bind.bind, Except.bind]
    cases parseIso8601 fromisoformat (started.map .str) with
    | error raised => exact .error raised
    | ok start => exact .ok rfl

/-- The latest of the runs is the run of the latest report. -/
theorem argmax_run (reports : List ReportedRun) :
    (reports.map ReportedRun.run).argmax HeartbeatRun.triggeredAtEpoch =
      (reports.argmax fun reported => reported.run.triggeredAtEpoch).map ReportedRun.run := by
  induction reports with
  | nil => rfl
  | cons reported reports ih =>
    rw [List.map_cons, List.argmax_cons, List.argmax_cons, ih]
    cases reports.argmax fun reported => reported.run.triggeredAtEpoch with
    | none => rfl
    | some latest =>
      dsimp only [Option.map_some]
      split
      · rfl
      · rfl

/-- The reader makes its runs of what is reported. -/
theorem fetchRuns_eq (reader : PaperclipLivenessReader) (get : String → Except Fault Json) :
    reader.fetchRuns fromisoformat get =
      List.map ReportedRun.run <$> reader.reportRuns fromisoformat get := by
  rw [fetchRuns, reportRuns, funext readRun_eq]
  cases reader.fetchRecords get with
  | error raised => rfl
  | ok records => exact mapM_map_values ReportedRun.run (reportRun fromisoformat) records

/-- The runs that are reported are dated. -/
theorem reportRuns_dated (reader : PaperclipLivenessReader) (get : String → Except Fault Json) :
    Yields (fun reports => ∀ report ∈ reports, report.Dated)
      (reader.reportRuns fromisoformat get) := by
  rw [reportRuns]
  cases reader.fetchRecords get with
  | error raised => exact .error raised
  | ok records => exact Yields.mapM reportRun_dated records

/-- The reader makes the run of the open review of what is reported. -/
theorem fetchStaleRunIssue_eq (reader : PaperclipLivenessReader)
    (get : String → Except Fault Json) :
    reader.fetchStaleRunIssue fromisoformat get =
      Option.map ReportedRun.run <$> reader.reportStaleRun fromisoformat get := by
  rw [fetchStaleRunIssue, reportStaleRun]
  cases reader.fetchReview get with
  | error raised => rfl
  | ok review =>
    cases review with
    | none => rfl
    | some review =>
      dsimp only [Bind.bind, Except.bind]
      rw [readReview_eq]
      cases reportReview fromisoformat review with
      | error raised => rfl
      | ok report => rfl

/-- The run that is reported of the open review is dated. -/
theorem reportStaleRun_dated (reader : PaperclipLivenessReader)
    (get : String → Except Fault Json) :
    Yields (fun reported => ∀ report ∈ reported, report.Dated)
      (reader.reportStaleRun fromisoformat get) := by
  rw [reportStaleRun]
  cases reader.fetchReview get with
  | error raised => exact .error raised
  | ok review =>
    cases review with
    | none => exact .ok fun other member => absurd member (Option.not_mem_none other)
    | some review =>
      dsimp only [Bind.bind, Except.bind]
      cases reading : reportReview fromisoformat review with
      | error raised => exact .error raised
      | ok report =>
        have dated := reportReview_dated review report reading
        exact .ok fun other member => Option.mem_some.mp member ▸ dated

/-- What the reader detects is the run of what is reported. -/
theorem detect_report (reader : PaperclipLivenessReader) {get : String → Except Fault Json}
    {latest : Option (HeartbeatRun Json)} {runs : List (HeartbeatRun Json)}
    (detected : reader.detect fromisoformat get = .ok (latest, runs)) :
    ∃ reported, reader.reportLatest fromisoformat get = .ok reported ∧
      latest = reported.map ReportedRun.run ∧ ∀ report ∈ reported, report.Dated := by
  rw [detect, fetchRuns_eq, fetchStaleRunIssue_eq] at detected
  rw [reportLatest]
  split at detected
  · rename_i routine
    rw [if_pos routine]
    cases reading : reader.reportRuns fromisoformat get with
    | error raised =>
      rw [reading] at detected
      cases detected
    | ok reports =>
      rw [reading] at detected
      cases detected
      refine ⟨_, rfl, ?_, ?_⟩
      · rw [List.filter_map, argmax_run]
        rfl
      · intro report member
        have among := List.mem_of_mem_filter (List.argmax_mem member)
        exact reader.reportRuns_dated get reports reading report among
  · rename_i search
    rw [if_neg search]
    cases reading : reader.reportStaleRun fromisoformat get with
    | error raised =>
      rw [reading] at detected
      cases detected
    | ok reported =>
      rw [reading] at detected
      cases detected
      exact ⟨reported, rfl, rfl, reader.reportStaleRun_dated get reported reading⟩

/-- A probe over the reader shows the run of what is reported. -/
theorem probe_report (reader : PaperclipLivenessReader) {get : String → Except Fault Json}
    {probe : LivenessProbe Json} (probed : reader.probe fromisoformat get = .ok probe) :
    ∃ reported, reader.reportLatest fromisoformat get = .ok reported ∧
      probe.run = reported.map ReportedRun.run ∧ ∀ report ∈ reported, report.Dated := by
  obtain ⟨chain, _, detecting⟩ := bind_eq_ok_iff.mp probed
  obtain ⟨⟨latest, runs⟩, detected, flagging⟩ := bind_eq_ok_iff.mp detecting
  obtain ⟨⟨terminal, missing⟩, _, returned⟩ := bind_eq_ok_iff.mp flagging
  cases returned
  exact reader.detect_report detected

/-- So does a probe of a fire over the reader. -/
theorem over_report (reader : PaperclipLivenessReader) {watched : Json}
    {get : Nat → String → Except Fault Json} {actions : Ports Json} {number : Nat}
    {probe : LivenessProbe Json}
    (probed : (reader.over fromisoformat watched get actions).probe number = .ok probe) :
    ∃ reported, reader.reportLatest fromisoformat (get number) = .ok reported ∧
      probe.run = reported.map ReportedRun.run ∧ ∀ report ∈ reported, report.Dated := by
  obtain ⟨answer, answered, classified⟩ := bind_eq_ok_iff.mp probed
  have same : answer = probe := by
    cases unclassified : unclassifiable watched answer with
    | some raised =>
      rw [unclassified] at classified
      cases classified
    | none =>
      rw [unclassified] at classified
      cases classified
      rfl
  rw [← same]
  exact reader.probe_report answered

end PaperclipLivenessReader

/-- A verdict other than healthy is borne out: the run is open and has a start, the verdict is not
that the run is suspicious, and it was not aborted at an age at which it is not stuck. -/
structure ReportedRun.BearsOut (reported : ReportedRun) (thresholds : LivenessThresholds)
    (verdict : RunVerdict Json) : Prop where
  /-- The status is active. -/
  active : reported.run.status ∈ activeRunStatuses
  /-- There is no completion time. -/
  uncompleted : reported.run.completedAtEpoch = none
  /-- The start is known. -/
  started : reported.start.isSome
  /-- The run is stuck or to be aborted. -/
  unsuspicious : verdict.verdict ≠ .suspicious
  /-- A run that is to be aborted is stuck. -/
  ordered : thresholds.abortMinutes ≤ verdict.ageMinutes →
    thresholds.stuckMinutes ≤ verdict.ageMinutes

/-- A verdict gives the age of the run, and follows the thresholds. -/
theorem classifyProbe_bounds {config : WatchdogConfig Json} {probe : LivenessProbe Json}
    {now : Rat} {verdict : RunVerdict Json} {run : HeartbeatRun Json} (shown : probe.run = some run)
    (judged : classifyProbe config probe now = some verdict) :
    ageMinutes (some run.triggeredAtEpoch) now = some verdict.ageMinutes ∧
      (verdict.verdict = .abort → config.thresholds.abortMinutes ≤ verdict.ageMinutes) ∧
      (verdict.verdict = .stuck → config.thresholds.stuckMinutes ≤ verdict.ageMinutes) ∧
      (verdict.verdict = .suspicious → verdict.ageMinutes < config.thresholds.stuckMinutes) := by
  rw [classifyProbe, shown, Option.map_some] at judged
  cases judged
  rw [classifyRun, ageMinutes, Option.map_some]
  dsimp only
  split
  · exact ⟨rfl, (by rintro ⟨⟩), (by rintro ⟨⟩), (by rintro ⟨⟩)⟩
  split
  · exact ⟨rfl, (by rintro ⟨⟩), (by rintro ⟨⟩), (by rintro ⟨⟩)⟩
  split
  · exact ⟨rfl, (by rintro ⟨⟩), (by rintro ⟨⟩), (by rintro ⟨⟩)⟩
  split
  · rename_i abort
    exact ⟨rfl, fun _ => abort, (by rintro ⟨⟩), (by rintro ⟨⟩)⟩
  split
  · rename_i stuck
    exact ⟨rfl, (by rintro ⟨⟩), fun _ => stuck, (by rintro ⟨⟩)⟩
  rename_i young
  split
  · exact ⟨rfl, (by rintro ⟨⟩), (by rintro ⟨⟩), fun _ => not_le.mp young⟩
  · exact ⟨rfl, (by rintro ⟨⟩), (by rintro ⟨⟩), (by rintro ⟨⟩)⟩

/-- The run under a verdict other than healthy is open and old exactly when it bears it out. -/
theorem ReportedRun.openAndOld_iff {config : WatchdogConfig Json} {probe : LivenessProbe Json}
    {now : Rat} {verdict : RunVerdict Json} {reported : ReportedRun} (dated : reported.Dated)
    (shown : probe.run = some reported.run)
    (judged : classifyProbe config probe now = some verdict)
    (unhealthy : verdict.verdict ≠ .healthy) :
    reported.OpenAndOld config.thresholds now ↔
      reported.BearsOut config.thresholds verdict := by
  obtain ⟨same, aborted, stuck, suspicious⟩ := classifyProbe_bounds shown judged
  rw [dated] at same
  constructor
  · intro ⟨active, uncompleted, age, known, old⟩
    cases start : reported.start with
    | none =>
      rw [start] at known
      cases known
    | some time =>
      rw [start, Option.getD_some] at same
      rw [start, same] at known
      cases known
      refine ⟨active, uncompleted, by rw [start]; rfl, ?_, fun _ => old⟩
      intro young
      exact absurd old (not_le.mpr (suspicious young))
  · intro bears
    obtain ⟨time, start⟩ := Option.isSome_iff_exists.mp bears.started
    rw [start, Option.getD_some] at same
    refine ⟨bears.active, bears.uncompleted, verdict.ageMinutes, by rw [start]; exact same, ?_⟩
    cases kind : verdict.verdict with
    | healthy => exact absurd kind unhealthy
    | suspicious => exact absurd kind bears.unsuspicious
    | stuck => exact stuck kind
    | abort => exact bears.ordered (aborted kind)

section Fires

variable (reader : PaperclipLivenessReader) (fromisoformat : String → Option Rat)
  (get : Nat → String → Except Fault Json) (config : WatchdogConfig Json)

/-- Every action comes after a probe of a latest base run that is open and old, at the reading of
the clock that goes with it. -/
def ActsOnOpenRuns (clock : Nat → Rat) (calls : List (Call Json)) : Prop :=
  ∀ before call after, calls = before ++ call :: after → call.Acts →
    ∃ number reported, LastProbe number before ∧
      reader.reportLatest fromisoformat (get number) = .ok (some reported) ∧
      reported.OpenAndOld config.thresholds (clock number)

variable (actions : Ports Json) (prior : Int) (dryRun : Bool)

/-- In every turn in which a fire acts, the latest base run bears out the verdict. -/
def BornOut : Prop :=
  ∀ turn verdict, actedVerdict config
      (reader.over fromisoformat config.watchedAgentId get actions) prior dryRun turn =
        some verdict →
    ∃ reported, reader.reportLatest fromisoformat (get turn) = .ok (some reported) ∧
      reported.BearsOut config.thresholds verdict

/-- A fire acts only on open and old runs exactly when every verdict that it acts on is borne out by
the latest base run. -/
theorem acts_on_open_iff (turns : Nat) (enough : (config.maxAttempts - prior).toNat < turns) :
    ActsOnOpenRuns reader fromisoformat get config actions.clock
        (Exec.after (runWatchdog config
          (reader.over fromisoformat config.watchedAgentId get actions) turns prior dryRun)
          {}).calls ↔
      BornOut reader fromisoformat get config actions prior dryRun := by
  have acts := fire_actsIn config (reader.over fromisoformat config.watchedAgentId get actions)
    prior dryRun enough
  have borne {turn : Nat} {verdict : RunVerdict Json}
      (acted : actedVerdict config (reader.over fromisoformat config.watchedAgentId get actions)
        prior dryRun turn = some verdict) {reported : ReportedRun}
      (shows : reader.reportLatest fromisoformat (get turn) = .ok (some reported)) :
      reported.OpenAndOld config.thresholds (actions.clock turn) ↔
        reported.BearsOut config.thresholds verdict := by
    have ⟨probe, probed, judged, unhealthy⟩ := actedVerdict_some acted
    have ⟨latest, same, shown, dated⟩ := reader.over_report probed
    rw [shows] at same
    cases same
    exact ReportedRun.openAndOld_iff (dated reported rfl) shown judged unhealthy
  constructor
  · intro onOpen turn verdict acted
    have ⟨before, call, after, split, action, last⟩ := acts.each turn (by rw [acted]; rfl)
    have ⟨number, reported, also, shows, openAndOld⟩ := onOpen before call after split action
    have same : number = turn := Nat.succ.inj (also.probes.symm.trans last.probes)
    rw [same] at shows openAndOld
    exact ⟨reported, shows, (borne acted shows).mp openAndOld⟩
  · intro bornOut before call after split action
    have ⟨number, acted, last⟩ := acts.within before call after split action
    have ⟨verdict, same⟩ := Option.isSome_iff_exists.mp acted
    have ⟨reported, shows, bears⟩ := bornOut number verdict same
    exact ⟨number, reported, last, shows, (borne same shows).mpr bears⟩

end Fires

/-- A reader of the architect's heartbeats. -/
def architectReader : PaperclipLivenessReader where
  companyId := "flock"
  watchedRoutineId := some "heartbeat"
  detects := .inl rfl

/-- Two times of one day. -/
def afternoon (text : String) : Option Rat :=
  if text = "2026-06-20T15:00:00+00:00" then some 1781967600
  else if text = "2026-06-20T15:05:00+00:00" then some 1781967900
  else none

/-- The agents and the linked issue, with these runs. -/
def platform (runs : List Json) (path : String) : Except Fault Json :=
  if path = "/api/companies/flock/agents" then
    .ok (.arr [.obj [("id", .str "ceo"), ("name", .str "CEO")],
      .obj [("id", .str "architect"), ("name", .str "Architect"), ("reportsTo", .str "ceo")]])
  else if path = "/api/routines/heartbeat/runs?limit=20" then .ok (.arr runs)
  else .ok (.obj [("status", .str "in_progress")])

/-- A run that began at three, with this status and completion. -/
def runAtThree (status : String) (completedAt : Json) : Json :=
  .obj [("id", .str "run"), ("status", .str status), ("triggeredAt", .str "2026-06-20T15:00:00Z"),
    ("completedAt", completedAt), ("linkedIssueId", .str "issue")]

/-- Every action succeeds; it is 25 minutes past three. -/
def grantingPorts : Ports Json where
  probe _ := .error (.other "LookupError" "")
  clock _ := 1781969100
  releaseIssue _ := .ok ()
  invokeHeartbeat _ := .ok ()
  createBoardApproval _ := .ok (.document (some (.str "approval")))
  postComment _ := .ok ()

/-- The architect is watched over the platform. -/
def platformWatch : WatchdogConfig Json where
  watchedAgentId := .str "architect"
  watchdogIssueId := some (.str "watch")

/-- The calls of a fire over the platform with these runs. -/
def platformCalls (runs : List Json) : List (Call Json) :=
  (Exec.after (runWatchdog platformWatch (architectReader.over afternoon
    platformWatch.watchedAgentId (fun _ => platform runs) grantingPorts) 4 0 false) {}).calls

/-- A fire over a run that is still open. -/
theorem open_run_released :
    ActsOnOpenRuns architectReader afternoon (fun _ => platform [runAtThree "running" .null])
        platformWatch grantingPorts.clock (platformCalls [runAtThree "running" .null]) ↔
      BornOut architectReader afternoon (fun _ => platform [runAtThree "running" .null])
        platformWatch grantingPorts 0 false :=
  acts_on_open_iff architectReader afternoon (fun _ => platform [runAtThree "running" .null])
    platformWatch grantingPorts 0 false 4 (by decide)

/-- The only run, completed after five minutes. -/
def completedRuns : List Json := [runAtThree "completed" (.str "2026-06-20T15:05:00Z")]

/-- A run that was completed twenty minutes ago is released. -/
theorem completed_run_released :
    0 < made .release (platformCalls completedRuns) ∧
      ¬ ActsOnOpenRuns architectReader afternoon (fun _ => platform completedRuns) platformWatch
        grantingPorts.clock (platformCalls completedRuns) := by
  have released : 0 < made .release (platformCalls completedRuns) := by decide +kernel
  have completed : (architectReader.reportLatest afternoon (platform completedRuns)).toOption.any
      (fun read => read.any fun reported => reported.run.completedAtEpoch.isSome) = true := by
    decide +kernel
  refine ⟨released, fun onOpen => ?_⟩
  obtain ⟨call, member, kind⟩ := List.countP_pos_iff.mp released
  obtain ⟨before, after, split⟩ := List.append_of_mem member
  have acts : call.Acts := by
    rw [Call.Acts, of_decide_eq_true kind]
    decide
  obtain ⟨number, reported, _, shows, openAndOld⟩ := onOpen before call after split acts
  rw [shows] at completed
  change reported.run.completedAtEpoch.isSome = true at completed
  rw [openAndOld.uncompleted] at completed
  cases completed

end FlockOs.Liveness
