import FlockOs.Gatherings
import FlockOs.Verif.ApprovalRun

/-!
# Actions that pass their checks

Each call on an approval checks on its own whether it may go ahead, the save checks the status
again, and the copy on the gathering must be one of its options. All three agree for every call but
the withdrawal.
-/

namespace FlockOs.EventApproval

open Lib Permissions Directory Approvals

/-- What an action whose checks pass is about to write. -/
structure Intent where
  /-- The status that it saves. -/
  status : ApprovalStatus
  /-- The status that it copies to the gathering. -/
  copied : Option ApprovalStatus

/-- A status that is saved and copied. -/
def Intent.filed (status : ApprovalStatus) : Intent := ⟨status, some status⟩

/-- The checks that an action makes before it saves, and what it writes once they pass. -/
def Action.checks (session : Session) (approval : Approval) : Action → Except Error Intent
  | .submit =>
    if approval.requestedBy ≠ session.member then
      .error (.permission "Only the requester may submit an approval for approval (FLO-7 §4.1).")
    else if clearsFastPath session approval then do
      validateApprovalTransition (some approval.status) .approved
      .ok (.filed .approved)
    else do
      validateApprovalTransition (some approval.status) .pending
      let _ ← resolveApprovalChain approval.group approval.requestedBy
        (approvalPolicyFromRow session approval.approvalPolicy)
        (frappeApprovalChainGateway session.tables)
      .ok (.filed .pending)
  | .approve comment => do
    let current ← decideCurrentStep session approval
    match (approval.decided session current.1 current.2 .approved
        ((truthy comment).getD "")).later with
    | none => .ok (.filed .approved)
    | some _ => .ok ⟨approval.status, none⟩
  | .reject reason =>
    if reason = "" then .error (.validation "A rejection reason is required (FLO-7 §4.3).")
    else do
      let _ ← decideCurrentStep session approval
      .ok (.filed .rejected)
  | .withdraw =>
    if ¬ (approval.status = .draft ∨ approval.status = .pending) then
      .error (.validation
        s!"Approval {quoted approval.name} is {quoted approval.status.text}; only Draft/Pending can be withdrawn.")
    else if approval.requestedBy ≠ session.member then
      .error (.permission "Only the requester may withdraw an approval (FLO-7 §4.4).")
    else .ok (.filed .withdrawn)
  | .cancel =>
    if ¬ anyRole (session.tables.getRoles session.user) [roleOrgAdmin, roleBranchAdmin] then
      .error (.permission "Only an Org/Branch Admin may cancel an approval (FLO-7 §4.4).")
    else do
      validateApprovalTransition (some approval.status) .cancelled
      .ok (.filed .cancelled)
  | .reopen => .ok ⟨.draft, none⟩

/-- The save of an approval over a stored status raises. -/
def Refuses (session : Session) (stored : ApprovalStatus) (approval : Approval) (raised : Error) :
    Prop :=
  validate session stored approval = .error raised ∨
    ∃ saved, validate session stored approval = .ok saved ∧
      session.frameworkChecks saved = .error raised

/-- The desk has the status of the intent, and its copy when there is one. -/
structure Wrote (desk next : Desk) (intent : Intent) : Prop where
  /-- The saved status. -/
  status : next.approval.status = intent.status
  /-- The copied status. -/
  copied : next.gathering.approvalStatus =
    (intent.copied.map ApprovalStatus.text).or desk.gathering.approvalStatus

/-- A call raises what its checks raise; once they pass, it writes what is intended, or raises what
the save raises. -/
def Follows (session : Session) (desk : Desk) (ended : EStateM.Result Error Desk ApprovalStatus) :
    Except Error Intent → Prop
  | .error raised => ended = .error raised desk
  | .ok intent =>
    (∃ status next, ended = .ok status next ∧ Wrote desk next intent) ∨
      ∃ approval raised failed, approval.status = intent.status ∧
        Refuses session desk.approval.status approval raised ∧ ended = .error raised failed

section Calls

variable {session : Session} {desk : Desk}

/-- A save leaves the given status on the desk, or raises what refuses it. -/
theorem save_settles (session : Session) (approval : Approval) (desk : Desk) :
    (∃ saved, saved.status = approval.status ∧
      save session approval desk = .ok saved (desk.withApproval saved)) ∨
    ∃ raised, Refuses session desk.approval.status approval raised ∧
      save session approval desk = .error raised desk := by
  have ran : save session approval desk =
      (Exec.ofExcept (validate session desk.approval.status approval) >>= fun saved =>
        Exec.ofExcept (session.frameworkChecks saved) >>= fun _ =>
          modify (fun desk => desk.withApproval saved) >>= fun _ => pure saved :
            Call Approval) desk := by
    rw [save, Exec.bind_run_ok (Exec.get_run desk)]
  cases outcome : validate session desk.approval.status approval with
  | error raised =>
    right
    refine ⟨raised, .inl outcome, ?_⟩
    rw [ran, outcome]
    rfl
  | ok saved =>
    rw [outcome] at ran
    have later : save session approval desk =
        (Exec.ofExcept (session.frameworkChecks saved) >>= fun _ =>
          modify (fun desk => desk.withApproval saved) >>= fun _ => pure saved :
            Call Approval) desk := ran
    cases framework : session.frameworkChecks saved with
    | error raised =>
      right
      refine ⟨raised, .inr ⟨saved, outcome, framework⟩, ?_⟩
      rw [later, framework]
      rfl
    | ok _ =>
      left
      obtain ⟨same, _⟩ := validate_ok outcome
      obtain ⟨organization, written⟩ := denormalizeTenantFloor_eq session approval
      refine ⟨saved, ?_, ?_⟩
      · rw [same, written]
        rfl
      · rw [later, framework]
        rfl

/-- A call that goes on to a save and returns after it follows its checks. -/
theorem follows_of_save (finish : Approval → Desk) {approval : Approval} {intent : Intent}
    {before : Desk} {rest : Approval → Call ApprovalStatus}
    (stored : before.approval.status = desk.approval.status)
    (status : approval.status = intent.status)
    (ends : ∀ saved, rest saved (before.withApproval saved) = .ok saved.status (finish saved))
    (wrote : ∀ saved, saved.status = intent.status → Wrote desk (finish saved) intent) :
    Follows session desk ((save session approval >>= rest : Call ApprovalStatus) before)
      (.ok intent) := by
  rcases save_settles session approval before with
    ⟨saved, same, ran⟩ | ⟨raised, refused, ran⟩
  · left
    refine ⟨saved.status, finish saved, ?_, wrote saved (same.trans status)⟩
    rw [Exec.bind_run_ok ran, ends]
  · right
    exact ⟨approval, raised, before, status, stored ▸ refused, Exec.bind_run_error ran rest⟩

/-- The fast path follows its checks. -/
theorem submitAutoApproved_follows (session : Session) (desk : Desk) :
    Follows session desk (submitAutoApproved session (desk.approval.submitted session) desk)
      (validateApprovalTransition (some desk.approval.status) .approved >>= fun _ =>
        .ok (.filed .approved)) := by
  have stamped : (desk.approval.submitted session).status = desk.approval.status := rfl
  rw [submitAutoApproved, stamped]
  cases validateApprovalTransition (some desk.approval.status) .approved with
  | error raised => rfl
  | ok _ =>
    exact follows_of_save (fun saved => desk.approve saved _) rfl rfl (fun _ => rfl)
      fun _ same => ⟨same, rfl⟩

/-- The chain path follows its checks. -/
theorem submitToChain_follows (session : Session) (desk : Desk) :
    Follows session desk
      (submitToChain session (approvalPolicyFromRow session desk.approval.approvalPolicy)
        (desk.approval.submitted session) desk)
      (validateApprovalTransition (some desk.approval.status) .pending >>= fun _ =>
        resolveApprovalChain desk.approval.group desk.approval.requestedBy
          (approvalPolicyFromRow session desk.approval.approvalPolicy)
          (frappeApprovalChainGateway session.tables) >>= fun _ => .ok (.filed .pending)) := by
  have stamped : (desk.approval.submitted session).status = desk.approval.status ∧
      (desk.approval.submitted session).group = desk.approval.group ∧
      (desk.approval.submitted session).requestedBy = desk.approval.requestedBy := ⟨rfl, rfl, rfl⟩
  rw [submitToChain, stamped.1, stamped.2.1, stamped.2.2]
  cases validateApprovalTransition (some desk.approval.status) .pending with
  | error raised => rfl
  | ok _ =>
    cases resolveApprovalChain desk.approval.group desk.approval.requestedBy
        (approvalPolicyFromRow session desk.approval.approvalPolicy)
        (frappeApprovalChainGateway session.tables) with
    | error raised => rfl
    | ok specs =>
      exact follows_of_save (fun saved => (desk.file saved .pending).publish _) rfl rfl
        (fun _ => rfl) fun _ same => ⟨same, rfl⟩

/-- `submit_for_approval` follows its checks. -/
theorem submit_follows (session : Session) (desk : Desk) :
    Follows session desk (submitForApproval session desk)
      (Action.submit.checks session desk.approval) := by
  rw [Action.checks, submitForApproval, Exec.bind_run_ok (Exec.get_run desk)]
  by_cases requester : desk.approval.requestedBy = session.member
  · rw [if_neg (not_not_intro requester), if_neg (not_not_intro requester)]
    by_cases small : clearsFastPath session desk.approval = true
    · rw [if_pos small, if_pos small]
      exact submitAutoApproved_follows session desk
    · rw [if_neg small, if_neg small]
      exact submitToChain_follows session desk
  · rw [if_pos requester, if_pos requester]
    rfl

/-- `approve_event` follows its checks. -/
theorem approve_follows (session : Session) (desk : Desk) (comment : Option String) :
    Follows session desk (approveEvent session comment desk)
      ((Action.approve comment).checks session desk.approval) := by
  rw [Action.checks, approveEvent, Exec.bind_run_ok (Exec.get_run desk)]
  cases decideCurrentStep session desk.approval with
  | error raised => rfl
  | ok current =>
    let approval := desk.approval.decided session current.1 current.2 .approved
      ((truthy comment).getD "")
    show Follows session desk (settleApproval session approval (desk.announce session current.1))
      (match approval.later with
        | none => .ok (.filed .approved)
        | some _ => .ok ⟨desk.approval.status, none⟩)
    rw [settleApproval, Approval.later]
    cases currentStepIndex approval.statuses approval.currentStep with
    | none =>
      exact follows_of_save
        (fun saved => (desk.announce session current.1).approve saved _) rfl rfl
        (fun _ => rfl) fun _ same => ⟨same, rfl⟩
    | some later =>
      exact follows_of_save
        (fun saved => (desk.announce session current.1).withApproval saved) rfl rfl
        (fun _ => rfl) fun _ same => ⟨same, rfl⟩

/-- `reject_event` follows its checks. -/
theorem reject_follows (session : Session) (desk : Desk) (reason : String) :
    Follows session desk (rejectEvent session reason desk)
      ((Action.reject reason).checks session desk.approval) := by
  rw [Action.checks, rejectEvent]
  by_cases empty : reason = ""
  · rw [if_pos empty, if_pos empty]
    rfl
  · rw [if_neg empty, if_neg empty, Exec.bind_run_ok (Exec.get_run desk)]
    cases decideCurrentStep session desk.approval with
    | error raised => rfl
    | ok current =>
      exact follows_of_save
        (fun saved => ((desk.file saved .rejected).publish _).publish _) rfl rfl
        (fun _ => rfl) fun _ same => ⟨same, rfl⟩

/-- A status that is saved and filed follows the checks that let it through. -/
theorem saveStatus_follows (session : Session) (desk : Desk) (status : ApprovalStatus) :
    Follows session desk (saveStatus session desk.approval status desk) (.ok (.filed status)) :=
  follows_of_save (fun saved => desk.file saved status) rfl rfl (fun _ => rfl)
    fun _ same => ⟨same, rfl⟩

/-- `withdraw_event_request` follows its checks. -/
theorem withdraw_follows (session : Session) (desk : Desk) :
    Follows session desk (withdrawEventRequest session desk)
      (Action.withdraw.checks session desk.approval) := by
  rw [Action.checks, withdrawEventRequest, Exec.bind_run_ok (Exec.get_run desk)]
  by_cases early : desk.approval.status = .draft ∨ desk.approval.status = .pending
  · rw [if_neg (not_not_intro early), if_neg (not_not_intro early)]
    by_cases requester : desk.approval.requestedBy = session.member
    · rw [if_neg (not_not_intro requester), if_neg (not_not_intro requester)]
      exact saveStatus_follows session desk .withdrawn
    · rw [if_pos requester, if_pos requester]
      rfl
  · rw [if_pos early, if_pos early]
    rfl

/-- `cancel_event_request` follows its checks. -/
theorem cancel_follows (session : Session) (desk : Desk) :
    Follows session desk (cancelEventRequest session desk)
      (Action.cancel.checks session desk.approval) := by
  rw [Action.checks, cancelEventRequest, Exec.bind_run_ok (Exec.get_run desk)]
  by_cases admin :
      anyRole (session.tables.getRoles session.user) [roleOrgAdmin, roleBranchAdmin] = true
  · rw [if_neg (not_not_intro admin), if_neg (not_not_intro admin)]
    cases validateApprovalTransition (some desk.approval.status) .cancelled with
    | error raised => rfl
    | ok _ => exact saveStatus_follows session desk .cancelled
  · rw [if_pos admin, if_pos admin]
    rfl

/-- The form's save follows its checks: there are none. -/
theorem reopen_follows (session : Session) (desk : Desk) :
    Follows session desk (saveAsDraft session desk)
      (Action.reopen.checks session desk.approval) := by
  rw [Action.checks, saveAsDraft, Exec.bind_run_ok (Exec.get_run desk)]
  exact follows_of_save (fun saved => desk.withApproval saved) rfl rfl (fun _ => rfl)
    fun _ same => ⟨same, rfl⟩

/-- Every call follows its checks. -/
theorem action_follows (session : Session) (desk : Desk) (action : Action) :
    Follows session desk (action.body session desk) (action.checks session desk.approval) := by
  cases action with
  | submit => exact submit_follows session desk
  | approve comment => exact approve_follows session desk comment
  | reject reason => exact reject_follows session desk reason
  | withdraw => exact withdraw_follows session desk
  | cancel => exact cancel_follows session desk
  | reopen => exact reopen_follows session desk

end Calls

/-- An action of an endpoint whose checks pass writes a status that the table allows, and copies one
that is an option of the gathering. -/
def CarriedOut (session : Session) (approval : Approval) (action : Action) : Prop :=
  action ≠ .reopen → ∀ intent, action.checks session approval = .ok intent →
    isValidApprovalTransition (some approval.status) intent.status = true ∧
      ∀ copied ∈ intent.copied, copied.text ∈ Gatherings.approvalStatusOptions

/-- A withdrawal by the requester, of a request that is a draft or pending. -/
structure Withdraws (session : Session) (approval : Approval) (action : Action) : Prop where
  /-- The call. -/
  call : action = .withdraw
  /-- The status. -/
  early : approval.status = .draft ∨ approval.status = .pending
  /-- The session user. -/
  requester : approval.requestedBy = session.member

/-- A submit that passes its checks writes a status that the table allows. -/
theorem submit_checks {session : Session} {approval : Approval} {intent : Intent}
    (passed : Action.submit.checks session approval = .ok intent) :
    isValidApprovalTransition (some approval.status) intent.status = true ∧
      (intent = .filed .approved ∨ intent = .filed .pending) := by
  rw [Action.checks] at passed
  split at passed
  · cases passed
  · split at passed
    · obtain ⟨_, moved, filed⟩ := bind_eq_ok_iff.mp passed
      cases filed
      exact ⟨validateApprovalTransition_ok moved, .inl rfl⟩
    · obtain ⟨_, moved, resolved⟩ := bind_eq_ok_iff.mp passed
      obtain ⟨_, _, filed⟩ := bind_eq_ok_iff.mp resolved
      cases filed
      exact ⟨validateApprovalTransition_ok moved, .inr rfl⟩

/-- An approval that passes its checks finalizes a pending request or keeps it pending. -/
theorem approve_checks {session : Session} {approval : Approval} {comment : Option String}
    {intent : Intent}
    (passed : (Action.approve comment).checks session approval = .ok intent) :
    approval.status = .pending ∧ (intent = .filed .approved ∨ intent = ⟨.pending, none⟩) := by
  rw [Action.checks] at passed
  obtain ⟨_, found, rest⟩ := bind_eq_ok_iff.mp passed
  have pending := (decideCurrentStep_ok found).pending
  split at rest
  · cases rest
    exact ⟨pending, .inl rfl⟩
  · cases rest
    exact ⟨pending, .inr (by rw [pending])⟩

/-- A rejection that passes its checks rejects a pending request. -/
theorem reject_checks {session : Session} {approval : Approval} {reason : String}
    {intent : Intent} (passed : (Action.reject reason).checks session approval = .ok intent) :
    approval.status = .pending ∧ intent = .filed .rejected := by
  rw [Action.checks] at passed
  split at passed
  · cases passed
  · obtain ⟨_, found, filed⟩ := bind_eq_ok_iff.mp passed
    cases filed
    exact ⟨(decideCurrentStep_ok found).pending, rfl⟩

/-- A cancellation that passes its checks writes a status that the table allows. -/
theorem cancel_checks {session : Session} {approval : Approval} {intent : Intent}
    (passed : Action.cancel.checks session approval = .ok intent) :
    isValidApprovalTransition (some approval.status) .cancelled = true ∧
      intent = .filed .cancelled := by
  rw [Action.checks] at passed
  split at passed
  · cases passed
  · obtain ⟨_, moved, filed⟩ := bind_eq_ok_iff.mp passed
    cases filed
    exact ⟨validateApprovalTransition_ok moved, rfl⟩

/-- The checks of a withdrawal pass for the requester of an early request. -/
theorem withdraw_checks_iff {session : Session} {approval : Approval} {intent : Intent} :
    Action.withdraw.checks session approval = .ok intent ↔
      Withdraws session approval .withdraw ∧ intent = .filed .withdrawn := by
  rw [Action.checks]
  by_cases early : approval.status = .draft ∨ approval.status = .pending
  · rw [if_neg (not_not_intro early)]
    by_cases requester : approval.requestedBy = session.member
    · rw [if_neg (not_not_intro requester)]
      constructor
      · intro same
        exact ⟨⟨rfl, early, requester⟩, (Except.ok.inj same).symm⟩
      · intro ⟨_, same⟩
        rw [same]
    · rw [if_pos requester]
      constructor
      · intro raised
        cases raised
      · intro ⟨withdraws, _⟩
        exact absurd withdraws.requester requester
  · rw [if_pos early]
    constructor
    · intro raised
      cases raised
    · intro ⟨withdraws, _⟩
      exact absurd withdraws.early early

/-- A withdrawn status is no option of the gathering. -/
theorem withdrawn_undeclared :
    ApprovalStatus.withdrawn.text ∉ Gatherings.approvalStatusOptions := by
  decide

/-- Every call does what its checks announce, and a call whose checks pass can be carried out
exactly when it is no withdrawal. -/
theorem carriedOut_iff (session : Session) (desk : Desk) (action : Action) :
    Follows session desk (action.body session desk) (action.checks session desk.approval) ∧
      (CarriedOut session desk.approval action ↔ ¬ Withdraws session desk.approval action) := by
  refine ⟨action_follows session desk action, ?_⟩
  constructor
  · intro carried withdraws
    have withdrawal := withdraws.call
    subst withdrawal
    have passed := withdraw_checks_iff.mpr ⟨withdraws, rfl⟩
    have ⟨_, declared⟩ := carried (by decide) _ passed
    exact withdrawn_undeclared (declared .withdrawn rfl)
  · intro other endpoint intent passed
    cases action with
    | submit =>
      have ⟨moved, filed⟩ := submit_checks passed
      refine ⟨moved, ?_⟩
      rcases filed with filed | filed <;> subst filed <;> decide
    | approve comment =>
      have ⟨pending, filed⟩ := approve_checks passed
      rw [pending]
      rcases filed with filed | filed <;> subst filed <;> decide
    | reject reason =>
      have ⟨pending, filed⟩ := reject_checks passed
      rw [pending]
      subst filed
      decide
    | withdraw => exact absurd (withdraw_checks_iff.mp passed).1 other
    | cancel =>
      have ⟨moved, filed⟩ := cancel_checks passed
      subst filed
      exact ⟨moved, by decide⟩
    | reopen => exact absurd rfl endpoint

/-- Ann may withdraw her pending request, but the save is refused; as a draft it is withdrawn, with
a status that the gathering does not know. -/
theorem camp_withdrawal_fails :
    (∃ raised failed, Action.withdraw.checks (campSession "ann@example.org" 2)
        (runAll Desk.perform campDesk [(campSession "ann@example.org" 1, .submit)]).approval =
          .ok (.filed .withdrawn) ∧
      Action.withdraw.body (campSession "ann@example.org" 2)
        (runAll Desk.perform campDesk [(campSession "ann@example.org" 1, .submit)]) =
          .error raised failed) ∧
    ¬ CarriedOut (campSession "ann@example.org" 2)
      (runAll Desk.perform campDesk [(campSession "ann@example.org" 1, .submit)]).approval
      .withdraw ∧
    ((runAll Desk.perform campDesk
      [(campSession "ann@example.org" 1, .withdraw)]).gathering.approvalStatus = some "Withdrawn" ∧
        "Withdrawn" ∉ Gatherings.approvalStatusOptions) := by
  have passed : Action.withdraw.checks (campSession "ann@example.org" 2)
      (runAll Desk.perform campDesk [(campSession "ann@example.org" 1, .submit)]).approval =
        .ok (.filed .withdrawn) := rfl
  refine ⟨⟨_, _, passed, rfl⟩, ?_, by decide⟩
  intro carried
  have ⟨moved, _⟩ := carried (by decide) _ passed
  revert moved
  decide

end FlockOs.EventApproval
