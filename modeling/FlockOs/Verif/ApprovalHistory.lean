import FlockOs.Verif.ApprovalRun

/-!
# The decided steps of an approval

A submit that takes the chain path replaces the step table, and a submit may find the request
where the path leads to. Decided steps survive a run, and no submit announces a request again,
exactly when no submit goes through in one of three states.
-/

namespace FlockOs.EventApproval

open Lib Permissions Directory Approvals

/-- A step that was approved or rejected. -/
def ApprovalStep.Settled (step : ApprovalStep) : Prop :=
  step.stepStatus = .approved ∨ step.stepStatus = .rejected

/-- A decided step in the approval of a desk. -/
def Holds (step : ApprovalStep) (desk : Desk) : Prop :=
  step.Settled ∧ step ∈ desk.approval.steps

/-- The events that announce a request and its approval. -/
def announcements : List String :=
  [Events.approvalRequested, Events.approvalApproved, Events.registrationOpened]

/-- A submit of a request that is pending or approved announces nothing a second time. -/
def AnnouncesOnce (desk : Desk) (call : Session × Action) : Prop :=
  call.2 = .submit → desk.approval.status = .pending ∨ desk.approval.status = .approved →
    ∀ name ∈ announcements,
      (desk.perform call).eventNames.count name = desk.eventNames.count name ∨
        (desk.eventNames.count name = 0 ∧ (desk.perform call).eventNames.count name = 1)

/-- The states in which a submit may go through: not approved for the fast path; a draft
without decided steps for the chain path. -/
def Submittable (session : Session) (approval : Approval) : Prop :=
  if clearsFastPath session approval = true then approval.status ≠ .approved
  else approval.status ≠ .pending ∧
    (approval.status = .draft → ∀ step ∈ approval.steps, ¬step.Settled)

/-- A submit that goes through finds the request in one of those states. -/
def SubmitsOnce (desk : Desk) (call : Session × Action) : Prop :=
  call.2 = .submit → Returns desk call → Submittable call.1 desk.approval

/-- The approval and the opened registration are announced once the request is approved and
not before; a pending request has been announced. -/
structure Told (desk : Desk) : Prop where
  /-- Not approved yet. -/
  unapproved : desk.approval.status ≠ .approved → Events.approvalApproved ∉ desk.eventNames
  /-- Registration is not open yet. -/
  unopened : desk.approval.status ≠ .approved → Events.registrationOpened ∉ desk.eventNames
  /-- Approved. -/
  approved : desk.approval.status = .approved → Events.approvalApproved ∈ desk.eventNames
  /-- Requested. -/
  requested : desk.approval.status = .pending → Events.approvalRequested ∈ desk.eventNames

section Step

variable {session : Session} {desk next : Desk}

/-- What a transition out of the approved status leads to. -/
theorem approved_stays {status : ApprovalStatus}
    (allowed : isValidApprovalTransition (some .approved) status = true) : status = .approved := by
  revert allowed
  cases status <;> decide

/-- An approved request is approved after every call. -/
theorem Took.stays_approved {action : Action} (took : Took session desk next action)
    (approved : desk.approval.status = .approved) : next.approval.status = .approved := by
  have kept {approval : Approval} (saved : Saved desk.approval approval next.approval) :
      next.approval.status = .approved := by
    have allowed := saved.allowed
    rw [approved] at allowed
    rw [saved.status, approved_stays allowed]
  cases took with
  | autoApproved _ _ saved _ _ => exact kept saved
  | routed _ _ _ _ saved _ _ _ => exact kept saved
  | advanced _ _ _ _ _ _ saved _ _ => exact kept saved
  | finalized _ _ _ _ _ saved _ _ => exact kept saved
  | rejected _ _ _ _ saved _ _ _ => exact kept saved
  | withdrawn _ saved _ _ _ => exact kept saved
  | cancelled saved _ _ _ => exact kept saved
  | reopened saved _ _ => exact kept saved

/-- What a call adds to the published names tells what it does to the status. -/
structure Tells (desk next : Desk) (names : List String) : Prop where
  /-- The names are added. -/
  emitted : next.eventNames = desk.eventNames ++ names
  /-- An approved request stays approved. -/
  stays : desk.approval.status = .approved → next.approval.status = .approved
  /-- The approval is announced with it. -/
  approval : Events.approvalApproved ∈ names → next.approval.status = .approved
  /-- Registration opens with the approval. -/
  opening : Events.registrationOpened ∈ names → next.approval.status = .approved
  /-- An approval is announced. -/
  approved : next.approval.status = .approved →
    desk.approval.status = .approved ∨ Events.approvalApproved ∈ names
  /-- A request is announced. -/
  requested : next.approval.status = .pending →
    desk.approval.status = .pending ∨ Events.approvalRequested ∈ names

/-- What a call tells keeps the announcements. -/
theorem Tells.told {names : List String} (tells : Tells desk next names) (told : Told desk) :
    Told next := by
  have earlier (other : next.approval.status ≠ .approved) : desk.approval.status ≠ .approved :=
    fun same => other (tells.stays same)
  constructor
  · intro other member
    rw [tells.emitted] at member
    rcases List.mem_append.mp member with before | now
    · exact told.unapproved (earlier other) before
    · exact other (tells.approval now)
  · intro other member
    rw [tells.emitted] at member
    rcases List.mem_append.mp member with before | now
    · exact told.unopened (earlier other) before
    · exact other (tells.opening now)
  · intro same
    rw [tells.emitted]
    rcases tells.approved same with before | now
    · exact List.mem_append_left _ (told.approved before)
    · exact List.mem_append_right _ now
  · intro same
    rw [tells.emitted]
    rcases tells.requested same with before | now
    · exact List.mem_append_left _ (told.requested before)
    · exact List.mem_append_right _ now

/-- A call that announces the approval leaves the request approved. -/
theorem tells_approved {names : List String} (approved : next.approval.status = .approved)
    (emitted : next.eventNames = desk.eventNames ++ names)
    (announced : Events.approvalApproved ∈ names) : Tells desk next names := by
  refine ⟨emitted, fun _ => approved, fun _ => approved, fun _ => approved,
    fun _ => .inr announced, ?_⟩
  intro pending
  rw [approved] at pending
  cases pending

/-- A call that announces no approval leaves the request unapproved, unless it was approved. -/
theorem tells_other {names : List String}
    (stays : desk.approval.status = .approved → next.approval.status = .approved)
    (emitted : next.eventNames = desk.eventNames ++ names)
    (silent : Events.approvalApproved ∉ names ∧ Events.registrationOpened ∉ names)
    (other : next.approval.status ≠ .approved ∨ next.approval.status = desk.approval.status)
    (requested : next.approval.status = .pending →
      desk.approval.status = .pending ∨ Events.approvalRequested ∈ names) :
    Tells desk next names := by
  refine ⟨emitted, stays, fun now => absurd now silent.1,
    fun now => absurd now silent.2, ?_, requested⟩
  intro approved
  rcases other with unapproved | same
  · exact absurd approved unapproved
  · exact .inl (same.symm.trans approved)

/-- Every way through an endpoint tells what it does. -/
theorem Took.told {action : Action} (took : Took session desk next action) (told : Told desk) :
    Told next := by
  have stays := took.stays_approved
  cases took with
  | autoApproved _ _ saved _ emitted =>
    exact (tells_approved saved.status emitted (by decide)).told told
  | finalized _ _ _ _ _ saved _ emitted =>
    exact (tells_approved saved.status emitted (by decide)).told told
  | routed _ _ _ _ saved _ _ emitted =>
    have status : next.approval.status = .pending := saved.status
    refine (tells_other stays emitted (by decide) (.inl ?_) fun _ => .inr (by decide)).told told
    rw [status]
    decide
  | advanced _ _ _ _ current _ saved _ emitted =>
    have same : next.approval.status = desk.approval.status := saved.status
    exact (tells_other stays emitted (by decide) (.inr same) fun _ => .inl current.pending).told told
  | rejected _ _ _ _ saved _ _ emitted =>
    have status : next.approval.status = .rejected := saved.status
    exact (tells_other stays emitted (by decide) (.inl (by rw [status]; decide))
      (by rw [status]; exact nofun)).told told
  | withdrawn _ saved _ _ emitted =>
    have status : next.approval.status = .withdrawn := saved.status
    rw [← List.append_nil desk.eventNames] at emitted
    exact (tells_other stays emitted (by decide) (.inl (by rw [status]; decide))
      (by rw [status]; exact nofun)).told told
  | cancelled saved _ _ emitted =>
    have status : next.approval.status = .cancelled := saved.status
    rw [← List.append_nil desk.eventNames] at emitted
    exact (tells_other stays emitted (by decide) (.inl (by rw [status]; decide))
      (by rw [status]; exact nofun)).told told
  | reopened saved _ emitted =>
    have status : next.approval.status = .draft := saved.status
    rw [← List.append_nil desk.eventNames] at emitted
    exact (tells_other stays emitted (by decide) (.inl (by rw [status]; decide))
      (by rw [status]; exact nofun)).told told

/-- A call that raises announces nothing about the request. -/
theorem Raised.told {failed : Desk} (same : failed.approval = desk.approval)
    (raised : Raised desk failed) (told : Told desk) : Told failed := by
  have stays (approved : desk.approval.status = .approved) : failed.approval.status = .approved := by
    rw [same]
    exact approved
  have still (pending : failed.approval.status = .pending) : desk.approval.status = .pending := by
    rw [← same]
    exact pending
  have status : failed.approval.status = desk.approval.status := congrArg _ same
  rcases raised with emitted | emitted
  · rw [← List.append_nil desk.eventNames] at emitted
    exact (tells_other stays emitted (by decide) (.inr status) fun pending =>
      .inl (still pending)).told told
  · exact (tells_other stays emitted (by decide) (.inr status) fun pending =>
      .inl (still pending)).told told

end Step

/-- Every call keeps the announcements. -/
theorem Told.perform {desk : Desk} (told : Told desk) (call : Session × Action) :
    Told (desk.perform call) := by
  rcases perform_cases desk call with ⟨_, same, _, raised⟩ | ⟨_, took⟩
  · exact raised.told same told
  · exact took.told told

/-- The chain path leads from a draft or a pending request. -/
theorem routed_from {status : ApprovalStatus}
    (allowed : isValidApprovalTransition (some status) .pending = true) :
    status = .draft ∨ status = .pending := by
  revert allowed
  cases status <;> decide

/-- The steps of a resolved chain are not decided. -/
theorem routed_unsettled {session : Session} {approval stored saved : Approval}
    {specs : List StepSpec} {policy : ApprovalPolicy}
    (resolved : resolveApprovalChain approval.group approval.requestedBy policy
      (frappeApprovalChainGateway session.tables) = .ok specs)
    (held : Saved stored ((approval.submitted session).route specs) saved) :
    ∀ step ∈ saved.steps, ¬step.Settled := by
  intro step member settled
  rw [held.steps] at member
  obtain ⟨spec, given, same⟩ := List.mem_map.mp member
  obtain ⟨_, _, _, _, _, _, chain, _⟩ := resolveApprovalChain_ok resolved
  rw [chain] at given
  have status : step.stepStatus = spec.stepStatus := by rw [← same]; rfl
  rw [ApprovalStep.Settled, status] at settled
  rcases chainSteps_status given with other | other <;> rw [other] at settled <;>
    rcases settled with wrong | wrong <;> cases wrong

/-- Deciding the current step keeps the steps that were decided. -/
theorem decided_keeps {session : Session} {approval : Approval} {idx : Nat} {row : ApprovalStep}
    (current : MayDecide session approval idx row) (status : StepStatus) (comment : String)
    {step : ApprovalStep} (settled : step.Settled) (member : step ∈ approval.steps) :
    step ∈ (approval.decided session idx row status comment).steps := by
  obtain ⟨_, pending, _⟩ := currentStepIndex_eq_some.mp current.current
  have rowPending : row.stepStatus = .pending := by
    rw [Approval.statuses, List.getElem?_map, current.row] at pending
    exact Option.some.inj pending
  obtain ⟨place, found⟩ := List.mem_iff_getElem?.mp member
  have other : place ≠ idx := by
    intro same
    rw [same, current.row] at found
    rw [ApprovalStep.Settled, ← Option.some.inj found, rowPending] at settled
    rcases settled with wrong | wrong <;> cases wrong
  refine List.mem_of_getElem? ((List.getElem?_set_ne (Ne.symm other)).trans found)

/-- A decided step of a desk is kept by the call. -/
def KeepsDecided (desk : Desk) (call : Session × Action) : Prop :=
  ∀ step, Holds step desk → Holds step (desk.perform call)

section Call

variable {session : Session} {desk next : Desk}

/-- Every way but the chain path keeps the decided steps. -/
theorem Took.keeps {action : Action} (took : Took session desk next action)
    (unrouted : action = .submit → clearsFastPath session desk.approval = true)
    {step : ApprovalStep} (held : Holds step desk) : Holds step next := by
  refine ⟨held.1, ?_⟩
  cases took with
  | autoApproved _ _ saved _ _ => exact saved.steps ▸ held.2
  | routed _ large _ _ _ _ _ _ =>
    rw [unrouted rfl] at large
    cases large
  | advanced _ _ _ _ current _ saved _ _ =>
    exact saved.steps ▸ decided_keeps current .approved _ held.1 held.2
  | finalized _ _ _ current _ saved _ _ =>
    exact saved.steps ▸ decided_keeps current .approved _ held.1 held.2
  | rejected _ _ _ current saved _ _ _ =>
    exact saved.steps ▸ decided_keeps current .rejected _ held.1 held.2
  | withdrawn _ saved _ _ _ => exact saved.steps ▸ held.2
  | cancelled saved _ _ _ => exact saved.steps ▸ held.2
  | reopened saved _ _ => exact saved.steps ▸ held.2

/-- A submit on the chain path finds a draft or a pending request. -/
theorem Took.routed_from (took : Took session desk next .submit)
    (slow : ¬clearsFastPath session desk.approval = true) :
    desk.approval.status = .draft ∨ desk.approval.status = .pending := by
  cases took with
  | autoApproved _ small _ _ _ => exact absurd small slow
  | routed _ _ _ _ saved _ _ _ => exact EventApproval.routed_from saved.allowed

/-- A submit on the fast path announces the approval. -/
theorem Took.fast_emitted (took : Took session desk next .submit)
    (fast : clearsFastPath session desk.approval = true) :
    next.eventNames =
      desk.eventNames ++ [Events.registrationOpened, Events.approvalApproved] := by
  cases took with
  | autoApproved _ _ _ _ emitted => exact emitted
  | routed _ large _ _ _ _ _ _ =>
    rw [fast] at large
    cases large

/-- A fast path from another status than approved announces the approval for the first time. -/
theorem fastPath_announces (told : Told desk) (unapproved : desk.approval.status ≠ .approved)
    (emitted : next.eventNames =
      desk.eventNames ++ [Events.registrationOpened, Events.approvalApproved]) :
    ∀ name ∈ announcements, next.eventNames.count name = desk.eventNames.count name ∨
      (desk.eventNames.count name = 0 ∧ next.eventNames.count name = 1) := by
  have approval := List.count_eq_zero.mpr (told.unapproved unapproved)
  have opening := List.count_eq_zero.mpr (told.unopened unapproved)
  intro name member
  rw [emitted, List.count_append]
  rcases List.mem_cons.mp member with rfl | member
  · exact .inl rfl
  · rcases List.mem_cons.mp member with rfl | member
    · exact .inr ⟨approval, by rw [approval]; decide⟩
    · rw [List.mem_singleton.mp member]
      exact .inr ⟨opening, by rw [opening]; decide⟩

/-- A name that was announced and is announced by the call is announced a second time. -/
theorem announced_again {name : String} {names : List String}
    (before : name ∈ desk.eventNames) (emitted : next.eventNames = desk.eventNames ++ names)
    (now : name ∈ names) :
    ¬(next.eventNames.count name = desk.eventNames.count name ∨
      (desk.eventNames.count name = 0 ∧ next.eventNames.count name = 1)) := by
  have first := List.count_pos_iff.mpr before
  have second := List.count_pos_iff.mpr now
  rw [emitted, List.count_append]
  omega

end Call

/-- A call keeps the decided steps and announces once exactly when a submit that goes through
finds the request in a state that is made for it. -/
theorem keeps_and_announces_iff {desk : Desk} (told : Told desk) (call : Session × Action) :
    KeepsDecided desk call ∧ AnnouncesOnce desk call ↔ SubmitsOnce desk call := by
  obtain ⟨session, action⟩ := call
  rcases perform_cases desk (session, action) with ⟨raised, same, _, left⟩ | ⟨returned, took⟩
  · refine ⟨fun _ _ returned => absurd returned raised, fun _ => ⟨?_, ?_⟩⟩
    · intro step held
      exact ⟨held.1, same ▸ held.2⟩
    · intro _ _ name member
      left
      rcases left with emitted | emitted
      · rw [emitted]
      · have other : name ≠ Events.approvalStepApproved := by
          rintro rfl
          revert member
          decide
        rw [emitted, List.count_append, List.count_singleton]
        simp [Ne.symm other]
  · constructor
    · rintro ⟨keeps, announces⟩ rfl _
      generalize reached : desk.perform (session, .submit) = next at took
      rw [KeepsDecided, reached] at keeps
      rw [AnnouncesOnce, reached] at announces
      rw [Submittable]
      cases took with
      | autoApproved _ small saved _ emitted =>
        rw [if_pos small]
        intro approved
        exact announced_again (told.approved approved) emitted (by decide)
          (announces rfl (.inr approved) _ (by decide))
      | routed _ large specs resolved saved _ _ emitted =>
        rw [large, if_neg Bool.false_ne_true]
        constructor
        · intro pending
          exact announced_again (told.requested pending) emitted (by decide)
            (announces rfl (.inl pending) _ (by decide))
        · intro _ step member settled
          exact routed_unsettled resolved saved step (keeps step ⟨settled, member⟩).2 settled
    · intro once
      have state (submit : action = .submit) : Submittable session desk.approval :=
        once submit returned
      constructor
      · intro step held
        refine took.keeps (fun submit => ?_) held
        by_contra slow
        have allowed := state submit
        rw [Submittable, if_neg slow] at allowed
        rw [submit] at took
        rcases took.routed_from slow with draft | pending
        · exact allowed.2 draft step held.2 held.1
        · exact allowed.1 pending
      · intro submit status
        have allowed := state submit
        obtain rfl : action = .submit := submit
        by_cases fast : clearsFastPath session desk.approval = true
        · rw [Submittable, if_pos fast] at allowed
          exact fastPath_announces told allowed (took.fast_emitted fast)
        · rw [Submittable, if_neg fast] at allowed
          rcases took.routed_from fast with draft | pending
          · rw [draft] at status
            rcases status with wrong | wrong <;> cases wrong
          · exact absurd pending allowed.1

/-- In every run from a draft of which nothing was announced, what is decided at some point is
there unchanged at every later one and no submit announces a pending or approved request again,
exactly when every submit that goes through finds the request in a state made for it. -/
theorem decided_steps_survive_iff (start : Desk) (calls : List (Session × Action))
    (draft : start.approval.status = .draft) (unannounced : start.publishedEvents = []) :
    ((∀ first middle last, calls = first ++ middle ++ last →
        ∀ step ∈ (runAll Desk.perform start first).approval.steps,
          step.stepStatus = .approved ∨ step.stepStatus = .rejected →
          step ∈ (runAll Desk.perform start (first ++ middle)).approval.steps) ∧
      EveryCall Desk.perform AnnouncesOnce start calls) ↔
    EveryCall Desk.perform SubmitsOnce start calls := by
  have told : Told start := by
    have none : start.eventNames = [] := by rw [Desk.eventNames, unannounced, List.map_nil]
    refine ⟨?_, ?_, ?_, ?_⟩
    · intro _
      rw [none]
      exact List.not_mem_nil
    · intro _
      rw [none]
      exact List.not_mem_nil
    · intro approved
      rw [draft] at approved
      cases approved
    · intro pending
      rw [draft] at pending
      cases pending
  have survive : (∀ first middle last, calls = first ++ middle ++ last →
        ∀ step ∈ (runAll Desk.perform start first).approval.steps,
          step.stepStatus = .approved ∨ step.stepStatus = .rejected →
          step ∈ (runAll Desk.perform start (first ++ middle)).approval.steps) ↔
      EveryCall Desk.perform KeepsDecided start calls := by
    have split : EveryCall Desk.perform KeepsDecided start calls ↔ _ := everyCall_keeps_iff
    rw [split]
    constructor
    · intro kept first middle last same step held
      exact ⟨held.1, kept first middle last same step held.2 held.1⟩
    · intro kept first middle last same step member settled
      exact (kept first middle last same step ⟨settled, member⟩).2
  have free : EveryCall Desk.perform (fun _ _ => True) start calls :=
    everyCall_of_forall start fun _ _ => trivial
  rw [survive, ← everyCall_and_iff]
  exact everyCall_congr Told (fun _ call held => held.perform call)
    (fun _ call held _ => keeps_and_announces_iff held call) told free

/-- Bob rejects the camp, and Ann takes the request back to a draft. -/
def rejectedRun : List (Session × Action) :=
  [(campSession "ann@example.org" 1, .submit), (campSession "bob@example.org" 2, .reject "no room"),
    (campSession "ann@example.org" 3, .reopen)]

/-- The approval of the camp keeps Bob's decision. -/
theorem camp_keeps_bobs_decision :
    ((∀ first middle last, campRun = first ++ middle ++ last →
        ∀ step ∈ (runAll Desk.perform campDesk first).approval.steps,
          step.stepStatus = .approved ∨ step.stepStatus = .rejected →
          step ∈ (runAll Desk.perform campDesk (first ++ middle)).approval.steps) ∧
      EveryCall Desk.perform AnnouncesOnce campDesk campRun) ↔
    EveryCall Desk.perform SubmitsOnce campDesk campRun :=
  decided_steps_survive_iff campDesk campRun rfl rfl

/-- Ann's second submit erases Bob's rejection, and a submit of the pending request announces it
again. -/
theorem resubmit_erases_bobs_rejection :
    (∃ step ∈ (runAll Desk.perform campDesk rejectedRun).approval.steps,
      step.stepStatus = .rejected ∧ step ∉ (runAll Desk.perform campDesk
        (rejectedRun ++ [(campSession "ann@example.org" 4, .submit)])).approval.steps) ∧
    ((runAll Desk.perform campDesk (campRun.take 1)).approval.status = .pending ∧
      (runAll Desk.perform campDesk (campRun.take 1)).eventNames.count
        Events.approvalRequested = 1 ∧
      ((runAll Desk.perform campDesk (campRun.take 1)).perform
        (campSession "ann@example.org" 4, .submit)).eventNames.count
        Events.approvalRequested = 2) := by
  decide

end FlockOs.EventApproval
