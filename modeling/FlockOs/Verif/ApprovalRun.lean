import FlockOs.Verif.ApprovalChain
import FlockOs.Verif.ApprovalStep

/-!
# Runs of an approval

The cursor, the step statuses, the document status and the gathering's copy over every run of
the endpoints, and the steps that a run has decided over every run with reopened requests.
-/

namespace FlockOs.EventApproval

open Lib Permissions Directory Approvals

/-- The cursor finds the first pending step from where it stands. -/
theorem currentStepIndex_eq_some {statuses : List StepStatus} {stored idx : Nat} :
    currentStepIndex statuses stored = some idx ↔
      stored ≤ idx ∧ statuses[idx]? = some .pending ∧
        ∀ earlier < idx, stored ≤ earlier → statuses[earlier]? ≠ some .pending := by
  rw [currentStepIndex, List.find?_range_eq_some]
  constructor
  · rintro ⟨here, _, before⟩
    have both := Bool.and_eq_true_iff.mp here
    refine ⟨of_decide_eq_true both.1, of_decide_eq_true both.2, ?_⟩
    intro earlier less after pending
    have skipped := before earlier less
    simp [after, pending] at skipped
  · rintro ⟨after, pending, before⟩
    refine ⟨by simp [after, pending], ?_, ?_⟩
    · obtain ⟨inside, _⟩ := List.getElem?_eq_some_iff.mp pending
      exact List.mem_range.mpr inside
    · intro earlier less
      by_cases reached : stored ≤ earlier
      · simp [before earlier less reached]
      · simp [reached]

/-- The cursor finds nothing when no pending step is left from where it stands. -/
theorem currentStepIndex_eq_none {statuses : List StepStatus} {stored : Nat} :
    currentStepIndex statuses stored = none ↔
      ∀ idx, stored ≤ idx → statuses[idx]? ≠ some .pending := by
  rw [currentStepIndex, List.find?_eq_none]
  constructor
  · intro none idx after pending
    obtain ⟨inside, _⟩ := List.getElem?_eq_some_iff.mp pending
    have missed := none idx (List.mem_range.mpr inside)
    simp [after, pending] at missed
  · intro none idx _
    by_cases after : stored ≤ idx
    · simp [none idx after]
    · simp [after]

/-- The cursor stands on a pending step; the steps before it are approved or skipped, those
after it pending or skipped. -/
structure Cursor (statuses : List StepStatus) (current : Nat) : Prop where
  /-- The current step. -/
  here : statuses[current]? = some .pending
  /-- The steps before it. -/
  before : ∀ idx < current, ∀ status, statuses[idx]? = some status →
    status = .approved ∨ status = .skipped
  /-- The steps from it on. -/
  after : ∀ idx, current ≤ idx → ∀ status, statuses[idx]? = some status →
    status = .pending ∨ status = .skipped

/-- The cursor is the index of the first pending step. -/
theorem Cursor.first {statuses : List StepStatus} {current : Nat}
    (cursor : Cursor statuses current) : firstPendingStep statuses = some current := by
  refine currentStepIndex_eq_some.mpr ⟨Nat.zero_le _, cursor.here, ?_⟩
  intro earlier less _ pending
  rcases cursor.before earlier less _ pending with same | same <;> cases same

/-- An entry of an updated list is the new one, or one of the old. -/
theorem set_cases {statuses : List StepStatus} {place idx : Nat} {value status : StepStatus}
    (given : (statuses.set place value)[idx]? = some status) :
    (idx = place ∧ status = value) ∨ (idx ≠ place ∧ statuses[idx]? = some status) := by
  rw [List.getElem?_set] at given
  split at given
  · rename_i same
    split at given
    · exact .inl ⟨same.symm, (Option.some.inj given).symm⟩
    · cases given
  · rename_i other
    exact .inr ⟨Ne.symm other, given⟩

/-- The current step is approved in its place. -/
theorem Cursor.set_here {statuses : List StepStatus} {current : Nat}
    (cursor : Cursor statuses current) (value : StepStatus) :
    (statuses.set current value)[current]? = some value := by
  obtain ⟨inside, _⟩ := List.getElem?_eq_some_iff.mp cursor.here
  rw [List.getElem?_set_self inside]

/-- Approving the current step moves the cursor to the next pending step. -/
theorem Cursor.approve_next {statuses : List StepStatus} {current next : Nat}
    (cursor : Cursor statuses current)
    (found : currentStepIndex (statuses.set current .approved) current = some next) :
    Cursor (statuses.set current .approved) next := by
  obtain ⟨reached, pending, between⟩ := currentStepIndex_eq_some.mp found
  refine ⟨pending, ?_, ?_⟩
  · intro idx less status given
    rcases set_cases given with ⟨_, same⟩ | ⟨other, old⟩
    · exact .inl same
    · by_cases early : idx < current
      · exact cursor.before idx early status old
      · rcases cursor.after idx (by omega) status old with same | same
        · rw [same] at given
          exact absurd given (between idx less (by omega))
        · exact .inr same
  · intro idx past status given
    rcases set_cases given with ⟨same, _⟩ | ⟨_, old⟩
    · have moved : next = current := by omega
      rw [moved, cursor.set_here] at pending
      cases pending
    · exact cursor.after idx (by omega) status old

/-- Approving the last pending step leaves approved and skipped steps, one of them approved. -/
theorem Cursor.approve_last {statuses : List StepStatus} {current : Nat}
    (cursor : Cursor statuses current)
    (none : currentStepIndex (statuses.set current .approved) current = none) :
    (∀ status ∈ statuses.set current .approved, status = .approved ∨ status = .skipped) ∧
      .approved ∈ statuses.set current .approved := by
  constructor
  · intro status member
    obtain ⟨idx, given⟩ := List.mem_iff_getElem?.mp member
    rcases set_cases given with ⟨_, same⟩ | ⟨_, old⟩
    · exact .inl same
    · by_cases early : idx < current
      · exact cursor.before idx early status old
      · rcases cursor.after idx (by omega) status old with same | same
        · rw [same] at given
          exact absurd given (currentStepIndex_eq_none.mp none idx (by omega))
        · exact .inr same
  · exact List.mem_of_getElem? (cursor.set_here .approved)

/-- Under the cursor nothing is rejected. -/
theorem Cursor.unrejected {statuses : List StepStatus} {current : Nat}
    (cursor : Cursor statuses current) : .rejected ∉ statuses := by
  intro member
  obtain ⟨idx, given⟩ := List.mem_iff_getElem?.mp member
  by_cases early : idx < current
  · rcases cursor.before idx early _ given with same | same <;> cases same
  · rcases cursor.after idx (by omega) _ given with same | same <;> cases same

/-- Rejecting the current step rejects that one step. -/
theorem Cursor.reject {statuses : List StepStatus} {current : Nat}
    (cursor : Cursor statuses current) :
    (statuses.set current .rejected).count .rejected = 1 := by
  obtain ⟨inside, here⟩ := List.getElem?_eq_some_iff.mp cursor.here
  have absent := List.count_eq_zero.mpr cursor.unrejected
  rw [List.count_set inside, absent, here]
  rfl

/-- The steps of a resolved chain stand under the cursor on its first pending one. -/
theorem cursor_of_chain {statuses : List StepStatus}
    (fresh : ∀ status ∈ statuses, status = .pending ∨ status = .skipped)
    (some_pending : .pending ∈ statuses) :
    Cursor statuses ((currentStepIndex statuses 0).getD 0) := by
  cases found : currentStepIndex statuses 0 with
  | none =>
    obtain ⟨idx, given⟩ := List.mem_iff_getElem?.mp some_pending
    exact absurd given (currentStepIndex_eq_none.mp found idx (Nat.zero_le _))
  | some first =>
    obtain ⟨_, pending, before⟩ := currentStepIndex_eq_some.mp found
    refine ⟨pending, ?_, fun idx _ status given => fresh status (List.mem_of_getElem? given)⟩
    intro idx less status given
    rcases fresh status (List.mem_of_getElem? given) with same | same
    · rw [same] at given
      exact absurd given (before idx less (Nat.zero_le _))
    · exact .inr same

/-- Under the cursor the current step is found where the cursor stands. -/
theorem Cursor.index {statuses : List StepStatus} {current : Nat}
    (cursor : Cursor statuses current) : currentStepIndex statuses current = some current :=
  currentStepIndex_eq_some.mpr ⟨Nat.le_refl _, cursor.here, fun _ less past => by omega⟩

/-- What holds of an approval that was never reopened. -/
structure Sound (approval : Approval) : Prop where
  /-- A pending request has its cursor on the first pending step. -/
  cursor : approval.status = .pending → Cursor approval.statuses approval.currentStep
  /-- An approved request went through its chain, unless it took the fast path. -/
  approved : approval.status = .approved → approval.autoApproved = false →
    (∀ status ∈ approval.statuses, status = .approved ∨ status = .skipped) ∧
      .approved ∈ approval.statuses
  /-- At most one step is rejected. -/
  once : approval.statuses.count .rejected ≤ 1
  /-- A rejected step rejects the request. -/
  final : .rejected ∈ approval.statuses → approval.status = .rejected

/-- The tenant is no part of soundness. -/
theorem Saved.sound {stored approval saved : Approval} (held : Saved stored approval saved)
    (sound : Sound approval) : Sound saved := by
  obtain ⟨_, written⟩ := held.written
  rw [written]
  exact ⟨sound.cursor, sound.approved, sound.once, sound.final⟩

/-- The statuses after a decision. -/
theorem statuses_decided (approval : Approval) (session : Session) (idx : Nat)
    (step : ApprovalStep) (status : StepStatus) (comment : String) :
    (approval.decided session idx step status comment).statuses =
      approval.statuses.set idx status :=
  List.map_set

/-- A pending request with its cursor on the current step is sound. -/
theorem Cursor.sound {approval : Approval} (pending : approval.status = .pending)
    (cursor : Cursor approval.statuses approval.currentStep) : Sound approval := by
  constructor
  · intro _
    exact cursor
  · intro approved
    rw [pending] at approved
    cases approved
  · exact le_of_eq_of_le (List.count_eq_zero.mpr cursor.unrejected) (Nat.zero_le 1)
  · intro rejected
    exact absurd rejected cursor.unrejected

/-- A request that is no longer pending is sound when its steps are approved or skipped. -/
theorem sound_of_ended {approval : Approval} (closed : approval.status ≠ .pending)
    (ended : (∀ status ∈ approval.statuses, status = .approved ∨ status = .skipped) ∧
      .approved ∈ approval.statuses) : Sound approval := by
  have unrejected : .rejected ∉ approval.statuses := by
    intro member
    rcases ended.1 _ member with same | same <;> cases same
  constructor
  · intro pending
    exact absurd pending closed
  · intro _ _
    exact ended
  · exact le_of_eq_of_le (List.count_eq_zero.mpr unrejected) (Nat.zero_le 1)
  · intro rejected
    exact absurd rejected unrejected

section Step

variable {session : Session} {desk next : Desk}

/-- The step that may be decided is the one under the cursor. -/
theorem MayDecide.here {approval : Approval} {idx : Nat} {step : ApprovalStep}
    (current : MayDecide session approval idx step) (sound : Sound approval) :
    Cursor approval.statuses approval.currentStep ∧ idx = approval.currentStep := by
  have cursor := sound.cursor current.pending
  have found := current.current
  rw [cursor.index] at found
  exact ⟨cursor, (Option.some.inj found).symm⟩

/-- A status that keeps the steps, and that no rejected request can be given, stays sound. -/
theorem Sound.restated {approval : Approval} {status : ApprovalStatus} (sound : Sound approval)
    (allowed : isValidApprovalTransition (some approval.status) status = true)
    (closing : status = .withdrawn ∨ status = .cancelled) : Sound (approval.inStatus status) := by
  constructor
  · intro pending
    have same : status = .pending := pending
    rcases closing with other | other <;> rw [other] at same <;> cases same
  · intro approved
    have same : status = .approved := approved
    rcases closing with other | other <;> rw [other] at same <;> cases same
  · exact sound.once
  · intro member
    have rejected := sound.final member
    rcases closing with other | other <;> rw [rejected, other] at allowed <;> cases allowed

/-- No call but a reopening breaks soundness. -/
theorem Took.sound {action : Action} (took : Took session desk next action)
    (sound : Sound desk.approval) (endpoint : action ≠ .reopen) : Sound next.approval := by
  cases took with
  | autoApproved _ _ saved _ _ =>
    refine saved.sound ⟨?_, ?_, sound.once, ?_⟩
    · intro pending
      cases pending
    · intro _ manual
      cases manual
    · intro member
      have rejected := sound.final member
      have allowed := saved.allowed
      rw [rejected] at allowed
      cases allowed
  | routed _ _ specs resolved saved _ _ _ =>
    obtain ⟨_, _, _, _, _, _, chain, step, member, pending⟩ := resolveApprovalChain_ok resolved
    have statuses : ((desk.approval.submitted session).route specs).statuses =
        specs.map (·.stepStatus) := List.map_map
    have fresh : ∀ status ∈ specs.map (·.stepStatus), status = .pending ∨ status = .skipped := by
      intro status inside
      obtain ⟨spec, given, same⟩ := List.mem_map.mp inside
      rw [chain] at given
      rw [← same]
      exact chainSteps_status given
    have cursor : Cursor ((desk.approval.submitted session).route specs).statuses
        ((desk.approval.submitted session).route specs).currentStep := by
      rw [statuses]
      exact cursor_of_chain fresh (List.mem_map.mpr ⟨step, member, pending⟩)
    exact saved.sound (cursor.sound rfl)
  | advanced comment idx later step current more saved _ _ =>
    obtain ⟨cursor, rfl⟩ := current.here sound
    have statuses := statuses_decided desk.approval session desk.approval.currentStep step
      .approved ((truthy comment).getD "")
    rw [Approval.later, statuses] at more
    have moved := cursor.approve_next more
    rw [← statuses] at moved
    exact saved.sound (moved.sound current.pending)
  | finalized comment idx step current last saved _ _ =>
    obtain ⟨cursor, rfl⟩ := current.here sound
    have statuses := statuses_decided desk.approval session desk.approval.currentStep step
      .approved ((truthy comment).getD "")
    rw [Approval.later, statuses] at last
    have ended := cursor.approve_last last
    rw [← statuses] at ended
    exact saved.sound (sound_of_ended (fun pending => by cases pending) ended)
  | rejected reason idx step current saved _ _ _ =>
    obtain ⟨cursor, rfl⟩ := current.here sound
    have statuses := statuses_decided desk.approval session desk.approval.currentStep step
      .rejected reason
    have one := cursor.reject
    rw [← statuses] at one
    refine saved.sound ⟨?_, ?_, Nat.le_of_eq one, fun _ => rfl⟩
    · intro pending
      cases pending
    · intro approved
      cases approved
  | withdrawn _ saved _ _ _ => exact saved.sound (sound.restated saved.allowed (.inl rfl))
  | cancelled saved _ _ _ => exact saved.sound (sound.restated saved.allowed (.inr rfl))
  | reopened _ _ _ => exact absurd rfl endpoint

/-- A call of the run approved the step, by a user who could decide it at that moment. -/
def Authorized (start : Desk) (past : List (Session × Action)) (step : ApprovalStep) : Prop :=
  ∃ before session comment after idx row,
    past = before ++ (session, .approve comment) :: after ∧
    canDecideApprovalStep (stepView (runAll Desk.perform start before).approval idx row)
      session.user (frappePermissionGateway session.tables) = true ∧
    (runAll Desk.perform start before).approval.steps[idx]? = some row ∧
    step = row.decide .approved session ((truthy comment).getD "")

/-- A step that was authorized stays so. -/
theorem Authorized.later {start : Desk} {past : List (Session × Action)} {step : ApprovalStep}
    (authorized : Authorized start past step) (call : Session × Action) :
    Authorized start (past ++ [call]) step := by
  obtain ⟨before, session, comment, after, idx, row, same, facts⟩ := authorized
  refine ⟨before, session, comment, after ++ [call], idx, row, ?_, facts⟩
  rw [same, List.append_assoc, List.cons_append]

/-- What is saved has the steps of the given approval. -/
theorem Saved.steps {stored approval saved : Approval} (held : Saved stored approval saved) :
    saved.steps = approval.steps := by
  obtain ⟨_, written⟩ := held.written
  rw [written]
  rfl

/-- An approved step was there before the call, or the call approved it. -/
theorem Took.approved_step {action : Action} (took : Took session desk next action)
    {step : ApprovalStep} (member : step ∈ next.approval.steps)
    (approved : step.stepStatus = .approved) :
    step ∈ desk.approval.steps ∨
      ∃ comment idx row, action = .approve comment ∧ MayDecide session desk.approval idx row ∧
        step = row.decide .approved session ((truthy comment).getD "") := by
  cases took with
  | autoApproved _ _ saved _ _ =>
    rw [saved.steps] at member
    exact .inl member
  | routed _ _ specs resolved saved _ _ _ =>
    rw [saved.steps] at member
    obtain ⟨spec, given, same⟩ := List.mem_map.mp member
    obtain ⟨_, _, _, _, _, _, chain, _⟩ := resolveApprovalChain_ok resolved
    rw [chain] at given
    have status : spec.stepStatus = .approved := by
      rw [← same] at approved
      exact approved
    rcases chainSteps_status given with other | other <;> rw [status] at other <;> cases other
  | advanced comment idx later row current _ saved _ _ =>
    rw [saved.steps] at member
    rcases List.mem_or_eq_of_mem_set member with old | new
    · exact .inl old
    · exact .inr ⟨comment, idx, row, rfl, current, new⟩
  | finalized comment idx row current _ saved _ _ =>
    rw [saved.steps] at member
    rcases List.mem_or_eq_of_mem_set member with old | new
    · exact .inl old
    · exact .inr ⟨comment, idx, row, rfl, current, new⟩
  | rejected reason idx row current saved _ _ _ =>
    rw [saved.steps] at member
    rcases List.mem_or_eq_of_mem_set member with old | new
    · exact .inl old
    · rw [new] at approved
      cases approved
  | withdrawn _ saved _ _ _ =>
    rw [saved.steps] at member
    exact .inl member
  | cancelled saved _ _ _ =>
    rw [saved.steps] at member
    exact .inl member
  | reopened saved _ _ =>
    rw [saved.steps] at member
    exact .inl member

/-- After a call that returns the gathering has the approval's status, when a pending request
had it before. -/
theorem Took.copied {action : Action} (took : Took session desk next action)
    (before : desk.approval.status = .pending → desk.Copied) (endpoint : action ≠ .reopen) :
    next.Copied := by
  cases took with
  | advanced _ _ _ _ current _ saved gathering _ =>
    have same : next.approval.status = desk.approval.status := saved.status
    rw [Desk.Copied, gathering, same]
    exact before current.pending
  | reopened _ _ _ => exact absurd rfl endpoint
  | _ => assumption

/-- Only a call that leaves the approval approved writes the registration scope. -/
theorem Took.scope {action : Action} (took : Took session desk next action)
    (written : next.gathering.registrationScope ≠ desk.gathering.registrationScope) :
    next.approval.status = .approved := by
  cases took with
  | autoApproved _ _ saved _ _ => exact saved.status
  | finalized _ _ _ _ _ saved _ _ => exact saved.status
  | advanced _ _ _ _ _ _ _ gathering _ => exact absurd (congrArg _ gathering) written
  | reopened _ gathering _ => exact absurd (congrArg _ gathering) written
  | _ => contradiction

/-- No call on a rejected request returns. -/
theorem Took.unrejected {action : Action} (took : Took session desk next action)
    (endpoint : action ≠ .reopen) : desk.approval.status ≠ .rejected := by
  intro rejected
  have refused (status : ApprovalStatus)
      (allowed : isValidApprovalTransition (some desk.approval.status) status = true) :
      status = .rejected ∨ status = .draft := by
    rw [rejected] at allowed
    revert allowed
    cases status <;> decide
  cases took with
  | autoApproved _ _ saved _ _ => rcases refused _ saved.allowed with same | same <;> cases same
  | routed _ _ _ _ saved _ _ _ => rcases refused _ saved.allowed with same | same <;> cases same
  | withdrawn _ saved _ _ _ => rcases refused _ saved.allowed with same | same <;> cases same
  | cancelled saved _ _ _ => rcases refused _ saved.allowed with same | same <;> cases same
  | reopened _ _ _ => exact endpoint rfl
  | advanced _ _ _ _ current _ _ _ _ =>
    have pending := current.pending
    rw [rejected] at pending
    cases pending
  | finalized _ _ _ current _ _ _ _ =>
    have pending := current.pending
    rw [rejected] at pending
    cases pending
  | rejected _ _ _ current _ _ _ _ =>
    have pending := current.pending
    rw [rejected] at pending
    cases pending

end Step

/-- What every call keeps of the desk. -/
structure Standing (desk : Desk) : Prop where
  /-- The approval is sound. -/
  sound : Sound desk.approval
  /-- A pending request is copied. -/
  copied : desk.approval.status = .pending → desk.Copied

/-- No endpoint breaks the standing of the desk. -/
theorem Standing.perform {desk : Desk} (standing : Standing desk) (call : Session × Action)
    (endpoint : call.2 ≠ .reopen) : Standing (desk.perform call) := by
  rcases perform_cases desk call with ⟨_, approval, gathering, _⟩ | ⟨_, took⟩
  · constructor
    · rw [approval]
      exact standing.sound
    · rw [Desk.Copied, approval, gathering]
      exact standing.copied
  · exact ⟨took.sound standing.sound endpoint, fun _ => took.copied standing.copied endpoint⟩

/-- A draft without steps stands. -/
theorem standing_of_draft {desk : Desk} (draft : desk.approval.status = .draft)
    (bare : desk.approval.steps = []) : Standing desk := by
  have none : desk.approval.statuses = [] := by rw [Approval.statuses, bare, List.map_nil]
  refine ⟨⟨?_, ?_, ?_, ?_⟩, ?_⟩
  · intro pending
    rw [draft] at pending
    cases pending
  · intro approved
    rw [draft] at approved
    cases approved
  · rw [none]
    exact Nat.zero_le 1
  · intro member
    rw [none] at member
    cases member
  · intro pending
    rw [draft] at pending
    cases pending

/-- What a call does to the gathering, and that a rejected request takes no further call. -/
def WritesBack (desk : Desk) (call : Session × Action) : Prop :=
  (Returns desk call → (desk.perform call).Copied) ∧
    ((desk.perform call).gathering.registrationScope ≠ desk.gathering.registrationScope →
      (desk.perform call).approval.status = .approved) ∧
    (desk.approval.status = .rejected → ¬Returns desk call)

/-- Every endpoint writes back from a standing desk. -/
theorem Standing.writesBack {desk : Desk} (standing : Standing desk) (call : Session × Action)
    (endpoint : call.2 ≠ .reopen) : WritesBack desk call := by
  rcases perform_cases desk call with ⟨raised, _, gathering, _⟩ | ⟨_, took⟩
  · exact ⟨fun returned => absurd returned raised, fun written =>
      absurd (congrArg _ gathering) written, fun _ => raised⟩
  · exact ⟨fun _ => took.copied standing.copied endpoint, took.scope, fun rejected =>
      absurd rejected (took.unrejected endpoint)⟩

/-- What a run of calls from a desk has made of the approval. -/
structure RunSound (start : Desk) (calls : List (Session × Action)) (approval : Approval) :
    Prop where
  /-- A pending request has its cursor on the first pending step. -/
  cursor : approval.status = .pending →
    firstPendingStep approval.statuses = some approval.currentStep
  /-- The steps before the cursor are approved or skipped. -/
  behind : approval.status = .pending → ∀ idx < approval.currentStep, ∀ status,
    approval.statuses[idx]? = some status → status = .approved ∨ status = .skipped
  /-- A request that is approved without the fast path has every step approved or skipped. -/
  completed : approval.status = .approved → approval.autoApproved = false →
    ∀ status ∈ approval.statuses, status = .approved ∨ status = .skipped
  /-- One of its steps is approved. -/
  decided : approval.status = .approved → approval.autoApproved = false →
    .approved ∈ approval.statuses
  /-- Every approved step was approved by a user who could decide it at that moment. -/
  authorized : ∀ step ∈ approval.steps, step.stepStatus = .approved → Authorized start calls step
  /-- At most one step is rejected. -/
  once : approval.statuses.count .rejected ≤ 1
  /-- A rejected step rejects the request. -/
  final : .rejected ∈ approval.statuses → approval.status = .rejected

/-- A run authorizes the steps that it leaves approved. -/
theorem run_authorized (start : Desk) (bare : start.approval.steps = [])
    (calls : List (Session × Action)) :
    ∀ step ∈ (runAll Desk.perform start calls).approval.steps,
      step.stepStatus = .approved → Authorized start calls step := by
  refine runAll_recorded (fun past (desk : Desk) => ∀ step ∈ desk.approval.steps,
    step.stepStatus = .approved → Authorized start past step) ?_ ?_ calls
  · intro step member
    rw [bare] at member
    cases member
  · intro past call held step member approved
    rcases perform_cases (runAll Desk.perform start past) call with ⟨_, same, _, _⟩ | ⟨_, took⟩
    · rw [same] at member
      exact (held step member approved).later call
    · rcases took.approved_step member approved with old | ⟨comment, idx, row, action, may, new⟩
      · exact (held step old approved).later call
      · exact ⟨past, call.1, comment, [], idx, row, by rw [← action], may.entitled, may.row, new⟩

/-- Every run of the endpoints from a draft without steps leaves the approval sound, and every
call of it writes back. -/
theorem approval_run_invariant (start : Desk) (calls : List (Session × Action))
    (draft : start.approval.status = .draft) (bare : start.approval.steps = [])
    (endpoints : ∀ call ∈ calls, call.2 ≠ .reopen) :
    RunSound start calls (runAll Desk.perform start calls).approval ∧
      EveryCall Desk.perform WritesBack start calls := by
  have standing := standing_of_draft draft bare
  have every : EveryCall Desk.perform (fun _ call => call.2 ≠ .reopen) start calls :=
    everyCall_of_forall start endpoints
  have kept (desk : Desk) (call : Session × Action) (held : Standing desk)
      (endpoint : call.2 ≠ .reopen) : Standing (desk.perform call) := held.perform call endpoint
  have sound := (runAll_guarded Standing kept calls start standing every).sound
  constructor
  · exact {
      cursor := fun pending => (sound.cursor pending).first
      behind := fun pending => (sound.cursor pending).before
      completed := fun approved manual => (sound.approved approved manual).1
      decided := fun approved manual => (sound.approved approved manual).2
      authorized := run_authorized start bare calls
      once := sound.once
      final := sound.final }
  · exact every.conclude Standing kept (fun desk call held endpoint =>
      held.writesBack call endpoint) standing

/-- The groups of a branch, led by Bob. -/
def northRoot : Group where
  name := "North-All"
  branch := some "North"
  leader := some "MEM-00002"
  lft := 1
  rgt := 4
  named := by decide

/-- The youth group in it, led by Ann. -/
def northYouth : Group where
  name := "North-Youth"
  branch := some "North"
  parentGroup := some "North-All"
  leader := some "MEM-00001"
  lft := 2
  rgt := 3
  named := by decide

/-- Ann and Bob with their groups, both with access to the branch. -/
def campTables : Tables where
  groups := ⟨[northRoot, northYouth], by decide⟩
  members := ⟨[⟨"MEM-00001", some "ann@example.org", by decide⟩,
    ⟨"MEM-00002", some "bob@example.org", by decide⟩], by decide⟩
  branchPermissions := [("ann@example.org", "North"), ("bob@example.org", "North")]
  getRoles := fun _ => [roleGroupLeader]

/-- A call of a user at a time. -/
def campSession (user : String) (now : Int) : Session where
  tables := campTables
  user := user
  now := now

/-- Ann's request for the camp, as a draft. -/
def campDesk : Desk where
  approval := {
    name := "EVAPPR-00001"
    branch := some "North"
    group := some "North-Youth"
    gathering := "GATH-00001"
    requestedBy := some "MEM-00001" }

/-- Ann submits and Bob approves. -/
def campRun : List (Session × Action) :=
  [(campSession "ann@example.org" 1, .submit), (campSession "bob@example.org" 2, .approve none)]

/-- The camp is approved by Bob alone, past Ann's own step. -/
example : ((runAll Desk.perform campDesk campRun).approval.status,
    (runAll Desk.perform campDesk campRun).approval.steps.map (·.decidedBy)) =
      (.approved, [none, some "bob@example.org"]) := by decide

/-- The approval of the camp is sound. -/
theorem camp_sound :
    RunSound campDesk campRun (runAll Desk.perform campDesk campRun).approval ∧
      EveryCall Desk.perform WritesBack campDesk campRun :=
  approval_run_invariant campDesk campRun rfl rfl (by
    intro call member
    rcases List.mem_cons.mp member with rfl | later
    · decide
    · rw [List.mem_singleton.mp later]
      decide)

end FlockOs.EventApproval
