import FlockOs.EventApproval
import FlockOs.Lib.Runs

/-!
# One call on an approval

What a call that returns can have done to the two documents, one case for each way through an
endpoint, with the guards that were passed. Everything about a run follows from these cases.
-/

namespace FlockOs.EventApproval

open Lib Permissions Directory Approvals

/-- The approval with another tenant. -/
def Approval.inOrganization (approval : Approval) (organization : Option String) : Approval :=
  { approval with organization := organization }

/-- The tenant floor changes the tenant only. -/
theorem denormalizeTenantFloor_eq (session : Session) (approval : Approval) :
    ∃ organization, approval.denormalizeTenantFloor session =
      approval.inOrganization organization := by
  rw [Approval.denormalizeTenantFloor]
  split
  · split
    · exact ⟨_, rfl⟩
    · exact ⟨approval.organization, rfl⟩
  · exact ⟨approval.organization, rfl⟩

/-- What is saved over a stored approval: the given one up to its tenant, in a status that the
status machine allows. -/
structure Saved (stored approval saved : Approval) : Prop where
  /-- What is saved. -/
  written : ∃ organization, saved = approval.inOrganization organization
  /-- From the stored status to the saved one. -/
  allowed : isValidApprovalTransition (some stored.status) approval.status = true

/-- A transition that validates is a valid one. -/
theorem validateApprovalTransition_ok {stored : ApprovalStatus} {status : ApprovalStatus}
    (valid : validateApprovalTransition (some stored) status = .ok ()) :
    isValidApprovalTransition (some stored) status = true := by
  rw [validateApprovalTransition] at valid
  split at valid
  · assumption
  · cases valid

/-- The document that a successful validation hands on. -/
theorem validate_ok {session : Session} {stored : ApprovalStatus} {approval saved : Approval}
    (valid : validate session stored approval = .ok saved) :
    saved = approval.denormalizeTenantFloor session ∧
      isValidApprovalTransition (some stored) approval.status = true := by
  obtain ⟨organization, same⟩ := denormalizeTenantFloor_eq session approval
  simp only [validate, bind, Except.bind] at valid
  split at valid
  · cases valid
  · split at valid
    · cases valid
    · rename_i moved
      split at valid
      · cases valid
      · refine ⟨(Except.ok.inj valid).symm, validateApprovalTransition_ok ?_⟩
        rw [same, validateStatusTransition] at moved
        split at moved
        · assumption
        · cases moved
        · cases moved

/-- A save leaves the saved document on the desk and nothing else, or raises and leaves the desk
alone. -/
theorem save_run (session : Session) (approval : Approval) (desk : Desk) :
    (∃ saved, Saved desk.approval approval saved ∧
      save session approval desk = .ok saved (desk.withApproval saved)) ∨
    ∃ raised, save session approval desk = .error raised desk := by
  cases outcome : validate session desk.approval.status approval with
  | error raised =>
    right
    refine ⟨raised, ?_⟩
    rw [save, Exec.bind_run_ok (Exec.get_run desk), outcome]
    rfl
  | ok saved =>
    obtain ⟨same, allowed⟩ := validate_ok outcome
    obtain ⟨organization, written⟩ := denormalizeTenantFloor_eq session approval
    cases framework : session.frameworkChecks saved with
    | error raised =>
      right
      refine ⟨raised, ?_⟩
      rw [save, Exec.bind_run_ok (Exec.get_run desk), outcome]
      show (Exec.ofExcept (session.frameworkChecks saved) >>= _ : Call Approval) desk = _
      rw [framework]
      rfl
    | ok _ =>
      left
      refine ⟨saved, ⟨⟨organization, same.trans written⟩, allowed⟩, ?_⟩
      rw [save, Exec.bind_run_ok (Exec.get_run desk), outcome]
      show (Exec.ofExcept (session.frameworkChecks saved) >>= _ : Call Approval) desk = _
      rw [framework]
      rfl

/-- What `_decide_current_step` has checked of the step it returns. -/
structure MayDecide (session : Session) (approval : Approval) (idx : Nat) (step : ApprovalStep) :
    Prop where
  /-- The request is pending. -/
  pending : approval.status = .pending
  /-- The cursor found the step. -/
  current : currentStepIndex approval.statuses approval.currentStep = some idx
  /-- The row of the step. -/
  row : approval.steps[idx]? = some step
  /-- The session user may decide it. -/
  entitled : canDecideApprovalStep (stepView approval idx step) session.user
    (frappePermissionGateway session.tables) = true

/-- A step is handed on once it has been checked. -/
theorem decideCurrentStep_ok {session : Session} {approval : Approval}
    {current : Nat × ApprovalStep} (found : decideCurrentStep session approval = .ok current) :
    MayDecide session approval current.1 current.2 := by
  rw [decideCurrentStep] at found
  split at found
  · cases found
  · rename_i pending
    split at found
    · cases found
    · rename_i idx cursor
      split at found
      · cases found
      · rename_i step row
        split at found
        · rename_i scope
          cases found
          refine ⟨not_not.mp pending, cursor, row, ?_⟩
          rw [assertApprovalScope] at scope
          split at scope
          · assumption
          · cases scope
        · cases found

/-- The names of the published events. -/
def Desk.eventNames (desk : Desk) : List String := desk.publishedEvents.map (·.name)

/-- The gathering has the approval's status. -/
def Desk.Copied (desk : Desk) : Prop :=
  desk.gathering.approvalStatus = some desk.approval.status.text

/-- The approval as a submit stamps it. -/
def Approval.submitted (approval : Approval) (session : Session) : Approval :=
  approval.stampRequest (approvalPolicyFromRow session approval.approvalPolicy) session.now

/-- The approval with its current step decided. -/
def Approval.decided (approval : Approval) (session : Session) (idx : Nat) (step : ApprovalStep)
    (status : StepStatus) (comment : String) : Approval :=
  approval.setStep idx (step.decide status session comment)

/-- The cursor after the current step is decided. -/
def Approval.later (approval : Approval) : Option Nat :=
  currentStepIndex approval.statuses approval.currentStep

/-- What a call that returned has done, one case for each way through an endpoint. -/
inductive Took (session : Session) (desk next : Desk) : Action → Prop where
  | autoApproved (requester : desk.approval.requestedBy = session.member)
      (small : clearsFastPath session desk.approval = true)
      (saved : Saved desk.approval ((desk.approval.submitted session).autoApprove session) next.approval)
      (copied : next.Copied)
      (emitted : next.eventNames =
        desk.eventNames ++ [Events.registrationOpened, Events.approvalApproved]) :
      Took session desk next .submit
  | routed (requester : desk.approval.requestedBy = session.member)
      (large : clearsFastPath session desk.approval = false) (specs : List StepSpec)
      (resolved : resolveApprovalChain desk.approval.group desk.approval.requestedBy
        (approvalPolicyFromRow session desk.approval.approvalPolicy)
        (frappeApprovalChainGateway session.tables) = .ok specs)
      (saved : Saved desk.approval ((desk.approval.submitted session).route specs) next.approval)
      (copied : next.Copied)
      (scope : next.gathering.registrationScope = desk.gathering.registrationScope)
      (emitted : next.eventNames = desk.eventNames ++ [Events.approvalRequested]) :
      Took session desk next .submit
  | advanced (comment : Option String) (idx later : Nat) (step : ApprovalStep)
      (current : MayDecide session desk.approval idx step)
      (more : (desk.approval.decided session idx step .approved
        ((truthy comment).getD "")).later = some later)
      (saved : Saved desk.approval ((desk.approval.decided session idx step .approved
        ((truthy comment).getD "")).advance later) next.approval)
      (gathering : next.gathering = desk.gathering)
      (emitted : next.eventNames = desk.eventNames ++ [Events.approvalStepApproved]) :
      Took session desk next (.approve comment)
  | finalized (comment : Option String) (idx : Nat) (step : ApprovalStep)
      (current : MayDecide session desk.approval idx step)
      (last : (desk.approval.decided session idx step .approved
        ((truthy comment).getD "")).later = none)
      (saved : Saved desk.approval ((desk.approval.decided session idx step .approved
        ((truthy comment).getD "")).finalDecision .approved session) next.approval)
      (copied : next.Copied)
      (emitted : next.eventNames = desk.eventNames ++ [Events.approvalStepApproved,
        Events.registrationOpened, Events.approvalApproved]) :
      Took session desk next (.approve comment)
  | rejected (reason : String) (idx : Nat) (step : ApprovalStep)
      (current : MayDecide session desk.approval idx step)
      (saved : Saved desk.approval ((desk.approval.decided session idx step .rejected reason).reject
        session reason) next.approval)
      (copied : next.Copied)
      (scope : next.gathering.registrationScope = desk.gathering.registrationScope)
      (emitted : next.eventNames =
        desk.eventNames ++ [Events.approvalStepRejected, Events.approvalRejected]) :
      Took session desk next (.reject reason)
  | withdrawn (requester : desk.approval.requestedBy = session.member)
      (saved : Saved desk.approval (desk.approval.inStatus .withdrawn) next.approval)
      (copied : next.Copied)
      (scope : next.gathering.registrationScope = desk.gathering.registrationScope)
      (emitted : next.eventNames = desk.eventNames) :
      Took session desk next .withdraw
  | cancelled (saved : Saved desk.approval (desk.approval.inStatus .cancelled) next.approval)
      (copied : next.Copied)
      (scope : next.gathering.registrationScope = desk.gathering.registrationScope)
      (emitted : next.eventNames = desk.eventNames) :
      Took session desk next .cancel
  | reopened (saved : Saved desk.approval (desk.approval.inStatus .draft) next.approval)
      (gathering : next.gathering = desk.gathering)
      (emitted : next.eventNames = desk.eventNames) :
      Took session desk next .reopen

/-- What a call that raised has published: nothing, or the approval of a step. -/
def Raised (desk failed : Desk) : Prop :=
  failed.eventNames = desk.eventNames ∨
    failed.eventNames = desk.eventNames ++ [Events.approvalStepApproved]

/-- A call returns after one of the ways through its endpoint, or raises. -/
def Ends (session : Session) (desk : Desk) (action : Action) : Prop :=
  (∃ status next, action.body session desk = .ok status next ∧ Took session desk next action) ∨
    ∃ raised failed, action.body session desk = .error raised failed ∧ Raised desk failed

section Ways

variable {session : Session} {desk : Desk}

/-- The published names after an emission. -/
theorem eventNames_publish (desk : Desk) (event : DomainEvent) :
    (desk.publish event).eventNames = desk.eventNames ++ [event.name] :=
  List.map_append

/-- A saved approval has the status it was given. -/
theorem Saved.status {approval saved : Approval} (held : Saved desk.approval approval saved) :
    saved.status = approval.status := by
  obtain ⟨_, written⟩ := held.written
  rw [written]
  rfl

/-- The desk after a final approval is saved: the write-back, the opened registration and the
two events. -/
def Desk.approve (desk : Desk) (saved : Approval) (payload : List (String × Value)) : Desk :=
  ((((desk.withApproval saved).syncGathering saved.name .approved).confirmScope
    (confirmedScope saved)).publish ⟨Events.registrationOpened,
      [("approval", .str saved.name), ("gathering", .str saved.gathering),
        ("scope", .str (confirmedScope saved))], scopeForEvent saved⟩).publish
    ⟨Events.approvalApproved, payload, scopeForEvent saved⟩

/-- A final approval publishes that registration is open and that the request is approved. -/
theorem eventNames_approve (desk : Desk) (saved : Approval) (payload : List (String × Value)) :
    (desk.approve saved payload).eventNames =
      desk.eventNames ++ [Events.registrationOpened, Events.approvalApproved] := by
  rw [Desk.approve, eventNames_publish, eventNames_publish, List.append_assoc]
  rfl

/-- A final approval is copied to the gathering. -/
theorem copied_approve {desk : Desk} {approval saved : Approval}
    (held : Saved desk.approval approval saved) (approved : approval.status = .approved)
    (payload : List (String × Value)) : (desk.approve saved payload).Copied := by
  show some (ApprovalStatus.text .approved) = some saved.status.text
  rw [held.status, approved]

/-- The desk after a saved status is written back. -/
def Desk.file (desk : Desk) (saved : Approval) (status : ApprovalStatus) : Desk :=
  (desk.withApproval saved).syncGathering saved.name status

/-- A filed status is copied to the gathering. -/
theorem copied_file {desk : Desk} {approval saved : Approval} {status : ApprovalStatus}
    (held : Saved desk.approval approval saved) (same : approval.status = status) :
    (desk.file saved status).Copied := by
  show some status.text = some saved.status.text
  rw [held.status, same]

/-- The fast path ends with the approval approved, or raises without a trace. -/
theorem submitAutoApproved_ends (requester : desk.approval.requestedBy = session.member)
    (small : clearsFastPath session desk.approval = true) :
    (∃ status next, submitAutoApproved session (desk.approval.submitted session) desk =
      .ok status next ∧ Took session desk next .submit) ∨
    ∃ raised failed, submitAutoApproved session (desk.approval.submitted session) desk =
      .error raised failed ∧ Raised desk failed := by
  rw [submitAutoApproved]
  cases validateApprovalTransition (some (desk.approval.submitted session).status) .approved with
  | error raised => exact .inr ⟨raised, desk, rfl, .inl rfl⟩
  | ok _ =>
    show (∃ status next, (save session _ >>= _ : Call ApprovalStatus) desk = _ ∧ _) ∨
      ∃ raised failed, (save session _ >>= _ : Call ApprovalStatus) desk = _ ∧ _
    rcases save_run session ((desk.approval.submitted session).autoApprove session) desk with
      ⟨saved, held, ran⟩ | ⟨raised, ran⟩
    · left
      refine ⟨saved.status, desk.approve saved _, Exec.bind_run_ok ran _, ?_⟩
      exact .autoApproved requester small held (copied_approve held rfl _)
        (eventNames_approve desk saved _)
    · exact .inr ⟨raised, desk, Exec.bind_run_error ran _, .inl rfl⟩

/-- The chain path ends with the approval pending on the resolved steps, or raises without a
trace. -/
theorem submitToChain_ends (requester : desk.approval.requestedBy = session.member)
    (large : clearsFastPath session desk.approval = false) :
    (∃ status next, submitToChain session
      (approvalPolicyFromRow session desk.approval.approvalPolicy)
      (desk.approval.submitted session) desk = .ok status next ∧
        Took session desk next .submit) ∨
    ∃ raised failed, submitToChain session
      (approvalPolicyFromRow session desk.approval.approvalPolicy)
      (desk.approval.submitted session) desk = .error raised failed ∧ Raised desk failed := by
  rw [submitToChain]
  cases validateApprovalTransition (some (desk.approval.submitted session).status) .pending with
  | error raised => exact .inr ⟨raised, desk, rfl, .inl rfl⟩
  | ok _ =>
    show (∃ status next, (Exec.ofExcept (resolveApprovalChain _ _ _ _) >>= _ :
        Call ApprovalStatus) desk = _ ∧ _) ∨
      ∃ raised failed, (Exec.ofExcept (resolveApprovalChain _ _ _ _) >>= _ :
        Call ApprovalStatus) desk = _ ∧ _
    cases resolved : resolveApprovalChain (desk.approval.submitted session).group
        (desk.approval.submitted session).requestedBy
        (approvalPolicyFromRow session desk.approval.approvalPolicy)
        (frappeApprovalChainGateway session.tables) with
    | error raised => exact .inr ⟨raised, desk, rfl, .inl rfl⟩
    | ok specs =>
      show (∃ status next, (save session _ >>= _ : Call ApprovalStatus) desk = _ ∧ _) ∨
        ∃ raised failed, (save session _ >>= _ : Call ApprovalStatus) desk = _ ∧ _
      rcases save_run session ((desk.approval.submitted session).route specs) desk with
        ⟨saved, held, ran⟩ | ⟨raised, ran⟩
      · left
        refine ⟨saved.status, (desk.file saved .pending).publish _, Exec.bind_run_ok ran _, ?_⟩
        exact .routed requester large specs resolved held (copied_file held rfl) rfl
          (eventNames_publish _ _)
      · exact .inr ⟨raised, desk, Exec.bind_run_error ran _, .inl rfl⟩

/-- `submit_for_approval` ends on one of its paths. -/
theorem submit_ends (session : Session) (desk : Desk) : Ends session desk .submit := by
  rw [Ends, Action.body, submitForApproval, Exec.bind_run_ok (Exec.get_run desk)]
  by_cases requester : desk.approval.requestedBy = session.member
  · rw [if_neg (not_not_intro requester)]
    cases path : clearsFastPath session desk.approval with
    | true =>
      rw [if_pos rfl]
      exact submitAutoApproved_ends requester path
    | false =>
      rw [if_neg Bool.false_ne_true]
      exact submitToChain_ends requester path
  · rw [if_pos requester]
    exact .inr ⟨_, desk, rfl, .inl rfl⟩

/-- `finalizeApproval` saves the terminal status and publishes it, or raises without a trace. -/
theorem finalizeApproval_run (session : Session) (approval : Approval) (desk : Desk) :
    (∃ saved payload, Saved desk.approval (approval.finalDecision .approved session) saved ∧
      finalizeApproval session approval desk = .ok saved.status (desk.approve saved payload)) ∨
    ∃ raised, finalizeApproval session approval desk = .error raised desk := by
  rw [finalizeApproval]
  rcases save_run session (approval.finalDecision .approved session) desk with
    ⟨saved, held, ran⟩ | ⟨raised, ran⟩
  · exact .inl ⟨saved, _, held, Exec.bind_run_ok ran _⟩
  · exact .inr ⟨raised, Exec.bind_run_error ran _⟩

/-- `advanceApproval` saves the moved cursor, or raises without a trace. -/
theorem advanceApproval_run (session : Session) (approval : Approval) (idx : Nat) (desk : Desk) :
    (∃ saved, Saved desk.approval (approval.advance idx) saved ∧
      advanceApproval session approval idx desk = .ok saved.status (desk.withApproval saved)) ∨
    ∃ raised, advanceApproval session approval idx desk = .error raised desk := by
  rw [advanceApproval]
  rcases save_run session (approval.advance idx) desk with ⟨saved, held, ran⟩ | ⟨raised, ran⟩
  · exact .inl ⟨saved, held, Exec.bind_run_ok ran _⟩
  · exact .inr ⟨raised, Exec.bind_run_error ran _⟩

/-- The desk after a step's approval is published. -/
def Desk.announce (desk : Desk) (session : Session) (idx : Nat) : Desk :=
  desk.publish ⟨Events.approvalStepApproved,
    [("approval", .str desk.approval.name), ("step", .int idx), ("approver", .str session.user)],
    scopeForEvent desk.approval⟩

/-- `approve_event` decides the current step and goes on or finishes, or raises. -/
theorem approve_ends (session : Session) (desk : Desk) (comment : Option String) :
    Ends session desk (.approve comment) := by
  rw [Ends, Action.body, approveEvent, Exec.bind_run_ok (Exec.get_run desk)]
  cases found : decideCurrentStep session desk.approval with
  | error raised => exact .inr ⟨raised, desk, rfl, .inl rfl⟩
  | ok current =>
    have checked := decideCurrentStep_ok found
    have announced : (desk.announce session current.1).eventNames =
        desk.eventNames ++ [Events.approvalStepApproved] := eventNames_publish _ _
    show (∃ status next, settleApproval session (desk.approval.decided session current.1 current.2
        .approved ((truthy comment).getD "")) (desk.announce session current.1) = _ ∧ _) ∨
      ∃ raised failed, settleApproval session (desk.approval.decided session current.1 current.2
        .approved ((truthy comment).getD "")) (desk.announce session current.1) = _ ∧ _
    rw [settleApproval]
    cases cursor : (desk.approval.decided session current.1 current.2 .approved
        ((truthy comment).getD "")).later with
    | none =>
      rw [Approval.later] at cursor
      rw [cursor]
      rcases finalizeApproval_run session (desk.approval.decided session current.1 current.2
        .approved ((truthy comment).getD "")) (desk.announce session current.1) with
        ⟨saved, payload, held, ran⟩ | ⟨raised, ran⟩
      · refine .inl ⟨saved.status, (desk.announce session current.1).approve saved payload, ran, ?_⟩
        refine .finalized comment current.1 current.2 checked cursor held
          (copied_approve held rfl _) ?_
        rw [eventNames_approve, announced, List.append_assoc]
        rfl
      · exact .inr ⟨raised, desk.announce session current.1, ran, .inr announced⟩
    | some later =>
      rw [Approval.later] at cursor
      rw [cursor]
      rcases advanceApproval_run session (desk.approval.decided session current.1 current.2
        .approved ((truthy comment).getD "")) later (desk.announce session current.1) with
        ⟨saved, held, ran⟩ | ⟨raised, ran⟩
      · exact .inl ⟨saved.status, (desk.announce session current.1).withApproval saved, ran,
          .advanced comment current.1 later current.2 checked cursor held rfl announced⟩
      · exact .inr ⟨raised, desk.announce session current.1, ran, .inr announced⟩

/-- `reject_event` rejects at the current step, or raises without a trace. -/
theorem reject_ends (session : Session) (desk : Desk) (reason : String) :
    Ends session desk (.reject reason) := by
  rw [Ends, Action.body, rejectEvent]
  by_cases empty : reason = ""
  · rw [if_pos empty]
    exact .inr ⟨_, desk, rfl, .inl rfl⟩
  · rw [if_neg empty, Exec.bind_run_ok (Exec.get_run desk)]
    cases found : decideCurrentStep session desk.approval with
    | error raised => exact .inr ⟨raised, desk, rfl, .inl rfl⟩
    | ok current =>
      have checked := decideCurrentStep_ok found
      show (∃ status next, (save session _ >>= _ : Call ApprovalStatus) desk = _ ∧ _) ∨
        ∃ raised failed, (save session _ >>= _ : Call ApprovalStatus) desk = _ ∧ _
      rcases save_run session ((desk.approval.decided session current.1 current.2 .rejected
        reason).reject session reason) desk with ⟨saved, held, ran⟩ | ⟨raised, ran⟩
      · left
        refine ⟨saved.status, ((desk.file saved .rejected).publish _).publish _,
          Exec.bind_run_ok ran _, ?_⟩
        refine .rejected reason current.1 current.2 checked held (copied_file held rfl) rfl ?_
        rw [eventNames_publish, eventNames_publish, List.append_assoc]
        rfl
      · exact .inr ⟨raised, desk, Exec.bind_run_error ran _, .inl rfl⟩

/-- A saved status is filed, or the save raises without a trace. -/
theorem saveStatus_run (session : Session) (approval : Approval) (status : ApprovalStatus)
    (desk : Desk) :
    (∃ saved, Saved desk.approval (approval.inStatus status) saved ∧
      saveStatus session approval status desk = .ok saved.status (desk.file saved status)) ∨
    ∃ raised, saveStatus session approval status desk = .error raised desk := by
  rw [saveStatus]
  rcases save_run session (approval.inStatus status) desk with ⟨saved, held, ran⟩ | ⟨raised, ran⟩
  · exact .inl ⟨saved, held, Exec.bind_run_ok ran _⟩
  · exact .inr ⟨raised, Exec.bind_run_error ran _⟩

/-- `withdraw_event_request` withdraws for the requester, or raises without a trace. -/
theorem withdraw_ends (session : Session) (desk : Desk) : Ends session desk .withdraw := by
  rw [Ends, Action.body, withdrawEventRequest, Exec.bind_run_ok (Exec.get_run desk)]
  by_cases early : desk.approval.status = .draft ∨ desk.approval.status = .pending
  · rw [if_neg (not_not_intro early)]
    by_cases requester : desk.approval.requestedBy = session.member
    · rw [if_neg (not_not_intro requester)]
      rcases saveStatus_run session desk.approval .withdrawn desk with
        ⟨saved, held, ran⟩ | ⟨raised, ran⟩
      · exact .inl ⟨saved.status, desk.file saved .withdrawn, ran,
          .withdrawn requester held (copied_file held rfl) rfl rfl⟩
      · exact .inr ⟨raised, desk, ran, .inl rfl⟩
    · rw [if_pos requester]
      exact .inr ⟨_, desk, rfl, .inl rfl⟩
  · rw [if_pos early]
    exact .inr ⟨_, desk, rfl, .inl rfl⟩

/-- `cancel_event_request` cancels, or raises without a trace. -/
theorem cancel_ends (session : Session) (desk : Desk) : Ends session desk .cancel := by
  rw [Ends, Action.body, cancelEventRequest, Exec.bind_run_ok (Exec.get_run desk)]
  by_cases admin :
      anyRole (session.tables.getRoles session.user) [roleOrgAdmin, roleBranchAdmin] = true
  · rw [if_neg (not_not_intro admin)]
    cases validateApprovalTransition (some desk.approval.status) .cancelled with
    | error raised => exact .inr ⟨raised, desk, rfl, .inl rfl⟩
    | ok _ =>
      show (∃ status next, saveStatus session desk.approval .cancelled desk = _ ∧ _) ∨
        ∃ raised failed, saveStatus session desk.approval .cancelled desk = _ ∧ _
      rcases saveStatus_run session desk.approval .cancelled desk with
        ⟨saved, held, ran⟩ | ⟨raised, ran⟩
      · exact .inl ⟨saved.status, desk.file saved .cancelled, ran,
          .cancelled held (copied_file held rfl) rfl rfl⟩
      · exact .inr ⟨raised, desk, ran, .inl rfl⟩
  · rw [if_pos admin]
    exact .inr ⟨_, desk, rfl, .inl rfl⟩

/-- A save back to `Draft` reopens the request, or raises without a trace. -/
theorem reopen_ends (session : Session) (desk : Desk) : Ends session desk .reopen := by
  rw [Ends, Action.body, saveAsDraft, Exec.bind_run_ok (Exec.get_run desk)]
  rcases save_run session (desk.approval.inStatus .draft) desk with ⟨saved, held, ran⟩ | ⟨raised, ran⟩
  · exact .inl ⟨saved.status, desk.withApproval saved, Exec.bind_run_ok ran _,
      .reopened held rfl rfl⟩
  · exact .inr ⟨raised, desk, Exec.bind_run_error ran _, .inl rfl⟩

/-- Every call ends on one of the ways through its endpoint, or raises. -/
theorem action_ends (session : Session) (desk : Desk) (action : Action) :
    Ends session desk action := by
  cases action with
  | submit => exact submit_ends session desk
  | approve comment => exact approve_ends session desk comment
  | reject reason => exact reject_ends session desk reason
  | withdraw => exact withdraw_ends session desk
  | cancel => exact cancel_ends session desk
  | reopen => exact reopen_ends session desk

/-- The call returns. -/
def Returns (desk : Desk) (call : Session × Action) : Prop :=
  ∃ status next, call.2.body call.1 desk = .ok status next

/-- A call leaves the documents alone, or returned after one of the ways through its
endpoint. -/
theorem perform_cases (desk : Desk) (call : Session × Action) :
    (¬Returns desk call ∧ (desk.perform call).approval = desk.approval ∧
      (desk.perform call).gathering = desk.gathering ∧ Raised desk (desk.perform call)) ∨
    (Returns desk call ∧ Took call.1 desk (desk.perform call) call.2) := by
  rcases action_ends call.1 desk call.2 with ⟨status, next, ran, took⟩ | ⟨raised, failed, ran, left⟩
  · have performed : desk.perform call = next := by rw [Desk.perform, ran]
    rw [performed]
    exact .inr ⟨⟨status, next, ran⟩, took⟩
  · have performed : desk.perform call = desk.rolledBack failed := by rw [Desk.perform, ran]
    rw [performed]
    refine .inl ⟨?_, rfl, rfl, left⟩
    rintro ⟨status, next, returned⟩
    rw [ran] at returned
    cases returned

end Ways

end FlockOs.EventApproval
