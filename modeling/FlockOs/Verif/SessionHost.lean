import FlockOs.Verif.ClosingGrace

/-!
# The host of a session

`create_session` guards the branch that the caller supplies, and the attendance of the session is
credited to its gathering. Through every later run of the API the anchors of a session stay what
they were when it was created, and so do those of its attendance.
-/

namespace FlockOs.EngagementApi

open Lib Reporting Engagement EngagementStage Permissions

/-- The stage after a call. -/
def receive (settings : Settings) (answer : BulkAnswer) (stage : Stage) (received : Received) :
    Stage :=
  (runCall settings answer received.1 received.2).after stage

/-- Nothing is known of a session. -/
structure Unused (sessionId : String) (stage : Stage) : Prop where
  /-- It has no row. -/
  row : stage.sessions sessionId = none
  /-- No participation is logged for it. -/
  log : ∀ other, ∀ row ∈ stage.log other, row.sessionId ≠ sessionId
  /-- No attendance of it was handed on. -/
  submitted : ∀ items ∈ stage.submitted, ∀ item ∈ items, item.engagementSession ≠ some sessionId

/-- A session and its attendance are those of a gathering. -/
structure Hosted (gathering : GatheringAnchors) (sessionId : String) (stage : Stage) : Prop where
  /-- The session has the anchors of the gathering. -/
  session : ∃ row, stage.sessions sessionId = some row ∧ some row.branch = gathering.branch ∧
    row.group = gathering.group ∧ some row.organization = gathering.organization
  /-- Its attendance has the branch of the gathering. -/
  attendance : ∀ items ∈ stage.submitted, ∀ item ∈ items,
    item.engagementSession = some sessionId → some item.branch = gathering.branch

/-- The user holds branch scope over the branch of a gathering. -/
def HoldsScope (caller : Caller) (gathering : GatheringAnchors) : Prop :=
  ∃ branch, gathering.branch = some branch ∧
    assertBranchScope (some branch) caller.user caller.permissions = .ok ()

/-- The anchors that are supplied are those of the gathering. -/
structure OwnAnchors (payload : CreatePayload) (gathering : GatheringAnchors) : Prop where
  /-- Branch. -/
  branch : ∀ branch, truthy payload.branch = some branch → gathering.branch = some branch
  /-- Group. -/
  group : ∀ group, truthy payload.group = some group → gathering.group = some group
  /-- Organization. -/
  organization : ∀ organization, truthy payload.organization = some organization →
    gathering.organization = some organization

/-- The row of a session has the anchors of another. -/
def SameAnchors (row other : SessionRow) : Prop :=
  row.branch = other.branch ∧ row.group = other.group ∧ row.organization = other.organization

/-- A session has the anchors of a row, and so do its log and its attendance. -/
structure AnchoredAt (anchors : SessionRow) (sessionId : String) (stage : Stage) : Prop where
  /-- The session. -/
  session : ∃ row, stage.sessions sessionId = some row ∧ SameAnchors row anchors
  /-- The log, wherever a row of the session is kept. -/
  log : ∀ other, ∀ row ∈ stage.log other, row.sessionId = sessionId → row.branch = anchors.branch
  /-- The attendance that was handed on. -/
  attendance : ∀ items ∈ stage.submitted, ∀ item ∈ items,
    item.engagementSession = some sessionId → item.branch = anchors.branch

section Kept

variable {settings : Settings} {answer : BulkAnswer} {caller : Caller} {sessionId : String}
  {anchors : SessionRow} {stage : Stage}

/-- A change of a status leaves the anchors alone. -/
theorem AnchoredAt.withStatus (anchored : AnchoredAt anchors sessionId stage) (other : String)
    (status : SessionStatus) :
    AnchoredAt anchors sessionId (stage.setSessionStatus other status none) := by
  refine ⟨?_, anchored.log, anchored.attendance⟩
  obtain ⟨row, found, same⟩ := anchored.session
  by_cases this : sessionId = other
  · rw [← this]
    refine ⟨moved row status, setSessionStatus_found found status, ?_⟩
    rw [moved_eq]
    exact same
  · rw [setSessionStatus_sessions_of_ne stage status none this]
    exact ⟨row, found, same⟩

/-- The attendance handed on for a session is that of its log. -/
theorem AnchoredAt.handed (anchored : AnchoredAt anchors sessionId stage) (other : String) :
    AnchoredAt anchors sessionId (stage.handed (stage.projection other)) := by
  refine ⟨anchored.session, anchored.log, fun items batch item there own => ?_⟩
  cases List.mem_append.mp batch with
  | inl before => exact anchored.attendance items before item there own
  | inr last =>
    rw [List.mem_singleton.mp last] at there
    obtain ⟨row, kept, isItem⟩ := List.mem_map.mp there
    rw [← isItem] at own ⊢
    have logged := List.mem_of_mem_filter (mem_of_mem_firstPerKey kept)
    exact anchored.log other row logged (Option.some.inj own)

/-- A row is logged with the anchors of the session that was looked up. -/
theorem AnchoredAt.append (anchored : AnchoredAt anchors sessionId stage) {row : Participation}
    (own : row.sessionId = sessionId → row.branch = anchors.branch) :
    AnchoredAt anchors sessionId (stage.append row) := by
  refine ⟨anchored.session, fun other logged there same => ?_, anchored.attendance⟩
  cases mem_append_log.mp there with
  | inl new =>
    rw [new.2] at same ⊢
    exact own same
  | inr old => exact anchored.log other logged old same

/-- What is written about a session leaves the anchors alone. -/
theorem anchoredAt_spares (other : String) :
    Spares settings answer caller (AnchoredAt anchors sessionId) other where
  status _ status held := held.withStatus other status
  published _ _ held := ⟨held.session, held.log, held.attendance⟩
  enqueued _ held := ⟨held.session, held.log, held.attendance⟩
  recorded closed _ held := held.handed closed.sessionId

/-- A new row leaves the anchors alone. -/
theorem AnchoredAt.inserted (anchored : AnchoredAt anchors sessionId stage) (drawn : String)
    (row : SessionRow) : AnchoredAt anchors sessionId (insertSession stage drawn row) := by
  obtain ⟨_, found, same⟩ := anchored.session
  exact ⟨⟨_, insertSession_found found row, same⟩, anchored.log, anchored.attendance⟩

/-- A participation is logged with the anchors of its session. -/
theorem participate_anchored (request : ParticipateRequest) :
    Exec.Keeps (AnchoredAt anchors sessionId)
      ((getService settings answer caller).participate caller.time request) := by
  intro stage anchored
  show AnchoredAt anchors sessionId
    (((stageService settings answer caller.time).participate caller.time request).after stage)
  rw [Exec.after, EngagementStage.participate_run]
  cases passed : stageGate settings caller.time request stage with
  | error raised => exact anchored
  | ok verdict =>
    cases verdict with
    | error reason => exact anchored
    | ok session =>
      have asked : AnchoredAt anchors sessionId (throttling settings caller.time request stage).2 := by
        rw [throttling_stage]
        exact ⟨anchored.session, anchored.log, anchored.attendance⟩
      show AnchoredAt anchors sessionId (stageSettle settings caller.time request stage session).2
      rw [stageSettle]
      split
      · dsimp only
        split
        · refine asked.append fun own => ?_
          have found := (stageGate_ok passed).1
          have named : session.sessionId = sessionId := own
          have looked := getSession_sessionId found
          rw [← looked, named, Stage.getSession] at found
          obtain ⟨row, there, same⟩ := anchored.session
          rw [there, Option.map_some] at found
          rw [← same.1]
          exact congrArg EngagementSession.branch (Option.some.inj found).symm
        · exact asked
      · exact asked

/-- Every call of the API keeps the anchors of a session and of its attendance. -/
theorem runCall_anchored (call : ApiCall) :
    Exec.Keeps (AnchoredAt anchors sessionId) (runCall settings answer caller call) :=
  runCall_keeps (fun other _ => anchoredAt_spares other)
    (fun _ drawn row held => held.inserted drawn row) participate_anchored

end Kept

section Created

variable {settings : Settings} {answer : BulkAnswer} {caller : Caller} {payload : CreatePayload}
  {gathering : GatheringAnchors} {drawn : String} {before created : Stage} {reply : StatusReply}

/-- A session is created inside the scope of the caller, with the anchors that are supplied or
else those of the gathering. -/
theorem createSession_made (known : caller.gatherings payload.gathering = some gathering)
    (made : createSession settings answer caller payload drawn true before = .ok reply created) :
    ∃ branch organization,
      truthy ((truthy payload.branch).or gathering.branch) = some branch ∧
      truthy ((truthy payload.organization).or gathering.organization) = some organization ∧
      assertBranchScope (some branch) caller.user caller.permissions = .ok () ∧
      created = insertSession before drawn
        (newSessionRow payload branch organization ((truthy payload.group).or gathering.group)) := by
  rw [createSession, known] at made
  dsimp only at made
  cases anchored : truthy ((truthy payload.branch).or gathering.branch) with
  | none =>
    rw [anchored] at made
    cases made
  | some branch =>
    cases owned : truthy ((truthy payload.organization).or gathering.organization) with
    | none =>
      rw [anchored, owned] at made
      cases made
    | some organization =>
      rw [anchored, owned] at made
      cases inScope : assertBranchScope (some branch) caller.user caller.permissions with
      | error raised =>
        obtain ⟨_, _, granted, _⟩ := Exec.bind_ok made
        rw [inScope] at granted
        cases granted
      | ok passed =>
        dsimp only at made
        rw [createResolved_run inScope] at made
        cases made
        exact ⟨branch, organization, rfl, rfl, inScope, rfl⟩

/-- A new session has the anchors of its row. -/
theorem insertSession_anchored (unused : Unused drawn before) (row : SessionRow) :
    AnchoredAt row drawn (insertSession before drawn row) := by
  refine ⟨⟨row, ?_, rfl, rfl, rfl⟩, fun other logged there own => ?_,
    fun items batch item there own => ?_⟩
  · show Function.update before.sessions drawn ((before.sessions drawn).or (some row)) drawn = _
    rw [Function.update_self, unused.row]
    rfl
  · exact absurd own (unused.log other logged there)
  · exact absurd own (unused.submitted items batch item there)

/-- A text that is supplied or else taken from the gathering is that of the gathering exactly if
the one supplied is. -/
theorem or_eq_iff {supplied anchor : Option String} :
    (truthy supplied).or anchor = anchor ↔
      ∀ text, truthy supplied = some text → anchor = some text := by
  cases given : truthy supplied with
  | none => exact iff_of_true rfl nofun
  | some text =>
    constructor
    · intro same other this
      rw [← this]
      exact same.symm
    · intro own
      exact (own text rfl).symm

/-- A text that is there is that of the gathering exactly if the one supplied is. -/
theorem resolved_eq_iff {supplied anchor : Option String} {text : String}
    (resolved : truthy ((truthy supplied).or anchor) = some text) :
    some text = anchor ↔ ∀ other, truthy supplied = some other → anchor = some other := by
  rw [← or_eq_iff, truthy_eq_some resolved]

end Created

/-- A session was created for a gathering, and calls of anyone follow. Its host holds scope over
the gathering, and the session and its attendance have the anchors of the gathering throughout,
exactly if the branch, the group and the organization that were supplied are those of the
gathering. -/
theorem hosted_in_scope_iff (settings : Settings) (answer : BulkAnswer) (caller : Caller)
    (payload : CreatePayload) (gathering : GatheringAnchors) (drawn : String)
    (before created : Stage) (reply : StatusReply)
    (known : caller.gatherings payload.gathering = some gathering)
    (unused : Unused drawn before)
    (made : createSession settings answer caller payload drawn true before = .ok reply created)
    (calls : List Received) :
    HoldsScope caller gathering ∧
        EveryState (receive settings answer) (Hosted gathering drawn) created calls ↔
      OwnAnchors payload gathering := by
  have ⟨branch, organization, anchored, owned, inScope, stage⟩ := createSession_made known made
  have start := insertSession_anchored unused
    (newSessionRow payload branch organization ((truthy payload.group).or gathering.group))
  rw [← stage] at start
  constructor
  · intro ⟨_, throughout⟩
    have ⟨row, found, ownBranch, ownGroup, ownOrganization⟩ := throughout.first.session
    have ⟨other, same, anchors⟩ := start.session
    rw [found] at same
    cases same
    rw [anchors.1] at ownBranch
    rw [anchors.2.1] at ownGroup
    rw [anchors.2.2] at ownOrganization
    exact ⟨(resolved_eq_iff anchored).mp ownBranch, or_eq_iff.mp ownGroup,
      (resolved_eq_iff owned).mp ownOrganization⟩
  · intro own
    have ownBranch := (resolved_eq_iff anchored).mpr own.branch
    have ownOrganization := (resolved_eq_iff owned).mpr own.organization
    refine ⟨⟨branch, ownBranch.symm, inScope⟩, ?_⟩
    have every : EveryCall (receive settings answer) (fun _ _ => True) created calls :=
      everyCall_of_forall created fun _ _ => trivial
    refine everyState_of_everyCall _
      (fun stage received held _ => runCall_anchored received.2 stage held) ?_ start every
    intro stage held
    have ⟨row, found, anchors⟩ := held.session
    refine ⟨⟨row, found, ?_, ?_, ?_⟩, fun items batch item there credited => ?_⟩
    · rw [anchors.1]
      exact ownBranch
    · rw [anchors.2.1]
      exact or_eq_iff.mpr own.group
    · rw [anchors.2.2]
      exact ownOrganization
    · rw [held.attendance items batch item there credited]
      exact ownBranch

/-- The anchors of the camp. -/
def campAnchors : GatheringAnchors where
  branch := some "north"
  organization := some "flock"

/-- Nothing is known of a session at an empty site. -/
theorem Unused.empty (sessionId : String) : Unused sessionId {} where
  row := rfl
  log _ _ there := by cases there
  submitted _ batch := by cases batch

/-- The night is supplied no anchors. -/
theorem nightPayload_own : OwnAnchors nightPayload campAnchors where
  branch _ supplied := by cases supplied
  group _ supplied := by cases supplied
  organization _ supplied := by cases supplied

/-- The night of the camp is hosted in its scope, and Ann's attendance is credited there. -/
theorem hosted_in_scope_night :
    HoldsScope (userAt "host" 80) campAnchors ∧
      EveryState (receive sampleSettings insertsAll) (Hosted campAnchors "ENG-1") nightCreated
        patientNight := by
  have known : (userAt "host" 80).gatherings nightPayload.gathering = some campAnchors := rfl
  exact (hosted_in_scope_iff sampleSettings insertsAll (userAt "host" 80) nightPayload campAnchors
    "ENG-1" {} nightCreated _ known (Unused.empty _) nightCreated_made patientNight).mpr
      nightPayload_own

/-- A branch admin of the south. -/
def southAdmin : Caller where
  time := 80
  user := "sam"
  permissions :=
    { getUserRoles := fun _ => [roleBranchAdmin]
      listBranchUserPermissions := fun _ => ["south"] }
  gatherings := fun name => if name = "camp" then some campAnchors else none

/-- A night for the camp, with a branch of its own. -/
def southPayload : CreatePayload where
  gathering := "camp"
  kind := .tapBurst
  branch := some "south"

/-- The site after that night was created. -/
def southCreated : Stage :=
  insertSession {} "ENG-1" (newSessionRow southPayload "south" "flock" none)

/-- The admin of the south creates the night. -/
theorem southCreated_made :
    createSession sampleSettings insertsAll southAdmin southPayload "ENG-1" true {} =
      .ok ⟨"ENG-1", .draft⟩ southCreated := by
  have inScope : assertBranchScope (some "south") southAdmin.user southAdmin.permissions =
      .ok () := by
    decide +kernel
  exact createResolved_run inScope southPayload "flock" none "ENG-1" {}

/-- The attendance of the night, by gathering and branch. -/
theorem southNight_submitted :
    ((runAll (receive sampleSettings insertsAll) southCreated
      patientNight).submitted.flatten.map fun item => (item.gathering, item.branch)) =
        [(some "camp", "south")] := by
  decide +kernel

/-- The admin of the south has no scope over the camp in the north, yet creates a session of it,
and Ann's attendance at the camp is credited to the south. -/
theorem hosted_outside_scope :
    (∃ reply, createSession sampleSettings insertsAll southAdmin southPayload "ENG-1" true {} =
        .ok reply southCreated) ∧
      southAdmin.gatherings southPayload.gathering = some campAnchors ∧
      ¬ HoldsScope southAdmin campAnchors ∧
      ((runAll (receive sampleSettings insertsAll) southCreated
        patientNight).submitted.flatten.map fun item => (item.gathering, item.branch)) =
          [(some "camp", "south")] := by
  refine ⟨⟨_, southCreated_made⟩, rfl, ?_, southNight_submitted⟩
  intro ⟨branch, own, granted⟩
  cases own
  revert granted
  decide +kernel

end FlockOs.EngagementApi
