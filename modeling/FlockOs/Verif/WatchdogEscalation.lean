import FlockOs.Verif.WatchdogSafety

/-!
# Escalation of the watchdog

A fire over a failing run ends recovered or before the board, unless an attempt that it reaches
has a release that raises other than as forbidden, or an invocation that raises: nobody catches
these exceptions. Which attempts a fire reaches is read off the answers of its ports.
-/

namespace FlockOs.Liveness

open Lib

variable {Value : Type} {config : WatchdogConfig Value} {ports : Ports Value} {owner : Value}
  {linkedId : Option Value} {prior : Int} {turn : Nat} {more : List (Call Value)}

/-- Probes return, and the actions raise only what `except RecoveryActionError` catches. -/
structure Ports.OnlyActionErrors (ports : Ports Value) : Prop where
  /-- Every probe returns. -/
  probes : ∀ number, ∃ probe, ports.probe number = .ok probe
  /-- What releases raise. -/
  releases : ∀ number raised, ports.releaseIssue number = .error raised → raised.caught.isSome
  /-- What invocations raise. -/
  invokes : ∀ number raised, ports.invokeHeartbeat number = .error raised → raised.caught.isSome
  /-- What requests to the board raise. -/
  approvals : ∀ number raised, ports.createBoardApproval number = .error raised →
    raised.caught.isSome
  /-- What comments raise. -/
  comments : ∀ number raised, ports.postComment number = .error raised → raised.caught.isSome

/-- What the board or a comment raises is caught. -/
theorem Ports.OnlyActionErrors.caught (only : ports.OnlyActionErrors) (raised : Fault) :
    ¬ Uncaught ports raised := by
  rintro ⟨free, ⟨number, asked⟩ | ⟨number, posted⟩⟩
  · have caught := only.approvals number raised asked
    rw [free] at caught
    cases caught
  · have caught := only.comments number raised posted
    rw [free] at caught
    cases caught

/-- A fire at the board has asked it. -/
theorem asked_of_escalated (calls comments : List (Call Value))
    (request : ApprovalRequest Value) :
    0 < made .approval (calls ++ .approval request :: comments) := by
  rw [made_append, made_cons, Call.kind, if_pos rfl]
  omega

/-- The fire returned an outcome: the agent recovered, or the board was asked. -/
def RecoveredOrEscalated
    (result : EStateM.Result Fault (Fire Value) (Option (WatchdogOutcome Value))) : Prop :=
  ∃ outcome fire, result = .ok (some outcome) fire ∧ (outcome.action = .recovered ∨
    outcome.action = .escalateBoard ∧ 0 < made .approval fire.calls)

/-- A fire whose loop was left ends recovered or before the board. -/
theorem Ends.recoveredOrEscalated {state : LoopEnd} {calls closing : List (Call Value)}
    {result : EStateM.Result Fault (Fire Value) (Option (WatchdogOutcome Value))}
    (only : ports.OnlyActionErrors) (closes : Closing state closing)
    (ends : Ends ports state.action (calls ++ closing) result) : RecoveredOrEscalated result := by
  cases ends with
  | raised raised audit uncaught => exact absurd uncaught (only.caught raised)
  | returned outcome audit same =>
    refine ⟨outcome, _, rfl, ?_⟩
    rw [same, LoopEnd.action]
    rw [Closing] at closes
    cases recovered : state.recovered with
    | true => exact .inl rfl
    | false =>
      rw [recovered, if_neg Bool.false_ne_true] at closes
      obtain ⟨request, comments, _, same⟩ := closes
      rw [same]
      exact .inr ⟨rfl, asked_of_escalated calls comments request⟩

variable [BEq Value] [Truth Value] {first current : RunVerdict Value}

/-- The verdict with which the loop goes on after a turn, if it does. -/
def turnVerdict (config : WatchdogConfig Value) (ports : Ports Value) (linkedId : Option Value)
    (prior : Int) (turn : Nat) (current : RunVerdict Value) : Option (RunVerdict Value) :=
  if (planFor config current (prior + turn)).action = .releaseRestart then
    match if linkedId.isSome then ports.releaseIssue turn else .ok (), ports.invokeHeartbeat turn,
        ports.probe (turn + 1) with
    | .ok _, .ok _, .ok probe => nextVerdict config probe (ports.clock (turn + 1))
    | _, _, _ => none
  else none

/-- The verdict with which a turn of the loop begins, if the fire comes to it. -/
def verdictAt (config : WatchdogConfig Value) (ports : Ports Value) (prior : Int)
    (first : RunVerdict Value) : Nat → Option (RunVerdict Value)
  | 0 => some first
  | turn + 1 => (verdictAt config ports prior first turn).bind
      (turnVerdict config ports first.linkedIssueId prior turn)

/-- The loop goes on only after an attempt that was planned, released and invoked. -/
theorem turnVerdict_some {next : RunVerdict Value}
    (goesOn : turnVerdict config ports linkedId prior turn current = some next) :
    (planFor config current (prior + turn)).action = .releaseRestart ∧
      Released ports linkedId turn ∧ ports.invokeHeartbeat turn = .ok () ∧
      ∃ probe, ports.probe (turn + 1) = .ok probe ∧
        nextVerdict config probe (ports.clock (turn + 1)) = some next := by
  rw [turnVerdict] at goesOn
  split at goesOn
  · rename_i planned
    split at goesOn
    · rename_i value invoked probe released invocation probing
      refine ⟨planned, ?_, invocation, probe, probing, goesOn⟩
      cases linkedId with
      | none => exact .inl rfl
      | some issueId => exact .inr released
    · cases goesOn
  · cases goesOn

/-- The loop does not go on after a turn that was not planned. -/
theorem turnVerdict_unplanned (unplanned : (planFor config current prior).action ≠ .releaseRestart) :
    turnVerdict config ports linkedId prior 0 current = none := by
  rw [turnVerdict, Nat.cast_zero, Int.add_zero, if_neg unplanned]

/-- A turn after which the loop goes on begins the next with its verdict. -/
theorem TurnDoes.turnVerdict {attempts : Int} {next : RunVerdict Value}
    (does : TurnDoes config ports owner linkedId prior turn current more
      (.ok (.goOn attempts next))) :
    Liveness.turnVerdict config ports linkedId prior turn current = some next := by
  cases does with
  | again planned released invoked probe probed next shows =>
    have answer : (if linkedId.isSome then ports.releaseIssue turn else .ok ()) = .ok () := by
      rcases released with unlinked | returned
      · rw [unlinked]
        rfl
      · rw [returned, ite_self]
    rw [Liveness.turnVerdict, if_pos planned, answer, invoked, probed]
    exact shows

/-- A turn that leaves the loop begins no other. -/
theorem TurnDoes.turnVerdict_none {state : LoopEnd}
    (does : TurnDoes config ports owner linkedId prior turn current more (.ok (.leave state))) :
    Liveness.turnVerdict config ports linkedId prior turn current = none := by
  by_contra goesOn
  obtain ⟨next, same⟩ := Option.ne_none_iff_exists'.mp goesOn
  obtain ⟨planned, released, invoked, probe, probed, shows⟩ := turnVerdict_some same
  cases does with
  | stopped unplanned => exact unplanned planned
  | forbidden planned linked message refused =>
    rw [released.returned linked] at refused
    cases refused
  | recovered _ _ _ other otherwise calm =>
    rw [probed] at otherwise
    cases otherwise
    rw [shows] at calm
    cases calm

/-- A fire that comes to a turn came to every turn before it. -/
theorem verdictAt_before {later : Nat} (ordered : turn ≤ later)
    (reached : (verdictAt config ports prior first later).isSome) :
    (verdictAt config ports prior first turn).isSome := by
  induction ordered with
  | refl => exact reached
  | step _ ih =>
    refine ih ?_
    rw [verdictAt] at reached
    exact Option.isSome_of_isSome_bind reached

/-- No attempt that a fire reaches has a release that raises other than as forbidden, or, released
or with nothing to release, an invocation that raises. -/
def Unbroken (config : WatchdogConfig Value) (ports : Ports Value) (prior : Int)
    (first : RunVerdict Value) : Prop :=
  (safeOwner config first).isSome → ∀ turn current,
    verdictAt config ports prior first turn = some current →
      (planFor config current (prior + turn)).action = .releaseRestart →
        (first.linkedIssueId.isSome →
          ∀ message, ports.releaseIssue turn ≠ .error (.recoveryAction message)) ∧
        (Released ports first.linkedIssueId turn →
          ∀ raised, ports.invokeHeartbeat turn ≠ .error raised)

/-- A turn that raises is broken. -/
theorem TurnDoes.broken {raised : Fault} {turn : Nat}
    (only : ports.OnlyActionErrors) (reached : verdictAt config ports prior first turn = some current)
    (owned : safeOwner config first = some owner)
    (does : TurnDoes config ports owner first.linkedIssueId prior turn current more
      (.error raised)) : ¬ Unbroken config ports prior first := by
  intro unbroken
  have fine := unbroken (by rw [owned]; rfl) turn current reached
  cases does with
  | unreleased planned linked raised failed unforbidden =>
    have caught := only.releases turn raised failed
    cases raised with
    | recoveryAction message => exact (fine planned).1 linked message failed
    | releaseForbidden message => exact unforbidden message rfl
    | other kind message => cases caught
  | uninvoked planned released raised failed => exact (fine planned).2 released raised failed
  | unprobed planned released invoked raised failed =>
    obtain ⟨probe, probed⟩ := only.probes (turn + 1)
    rw [probed] at failed
    cases failed

/-- A fire whose loop was left has had no broken attempt. -/
theorem TurnDoes.unbroken {state : LoopEnd} {last : Nat}
    (reached : verdictAt config ports prior first last = some current)
    (does : TurnDoes config ports owner first.linkedIssueId prior last current more
      (.ok (.leave state))) : Unbroken config ports prior first := by
  intro _ turn verdict begun planned
  rcases Nat.lt_trichotomy turn last with earlier | here | later
  · -- The loop went on after this turn.
    have next := verdictAt_before earlier (by rw [reached]; rfl)
    rw [verdictAt, begun, Option.bind_some] at next
    obtain ⟨following, goesOn⟩ := Option.isSome_iff_exists.mp next
    obtain ⟨_, released, invoked, _⟩ := turnVerdict_some goesOn
    constructor
    · intro linked message failed
      rw [released.returned linked] at failed
      cases failed
    · intro _ raised failed
      rw [invoked] at failed
      cases failed
  · -- The loop was left in this turn.
    rw [here, reached] at begun
    cases begun
    rw [here] at planned ⊢
    cases does with
    | stopped unplanned => exact absurd planned unplanned
    | forbidden _ linked message refused =>
      constructor
      · intro _ other failed
        rw [refused] at failed
        cases failed
      · intro released
        rw [released.returned linked] at refused
        cases refused
    | recovered _ released invoked probe probed shows =>
      constructor
      · intro linked message failed
        rw [released.returned linked] at failed
        cases failed
      · intro _ raised failed
        rw [invoked] at failed
        cases failed
  · -- The fire never came to this turn.
    have next := verdictAt_before later (by rw [begun]; rfl)
    rw [verdictAt, reached, Option.bind_some, does.turnVerdict_none] at next
    cases next

/-- A fire that goes straight to the board comes to no attempt. -/
theorem unbroken_of_untried
    (untried : (planFor config first prior).action ≠ .releaseRestart ∨
      safeOwner config first = none) : Unbroken config ports prior first := by
  intro owned turn current begun planned
  rcases untried with unplanned | unowned
  · cases turn with
    | zero =>
      cases begun
      rw [Nat.cast_zero, Int.add_zero] at planned
      exact absurd planned unplanned
    | succ turn =>
      have next := verdictAt_before (Nat.le_add_left 1 turn) (by rw [begun]; rfl)
      rw [verdictAt, verdictAt, Option.bind_some, turnVerdict_unplanned unplanned] at next
      cases next
  · rw [unowned] at owned
    cases owned

/-- A fire over a failing run ends recovered or before the board exactly when no attempt that it
reaches is broken. -/
theorem recovered_or_escalated_iff [ToString Value] (config : WatchdogConfig Value)
    (ports : Ports Value) (prior : Int) (only : ports.OnlyActionErrors)
    (first : RunVerdict Value) (judged : firstVerdict config ports = some first)
    (failing : first.Failing) (turns : Nat)
    (enough : (config.maxAttempts - prior).toNat < turns) :
    RecoveredOrEscalated (runWatchdog config ports turns prior false {}) ↔
      Unbroken config ports prior first := by
  have run := fire_rule config ports prior false enough
    (fun verdict _ turn current _ => verdictAt config ports prior verdict turn = some current)
    (fun _ _ _ _ => rfl)
    (fun verdict _ _ _ turn current _ _ next _ begun does => by
      rw [verdictAt, begun, Option.bind_some]
      exact does.turnVerdict)
  generalize runWatchdog config ports turns prior false {} = result at run
  cases run with
  | unprobed raised failed =>
    have ⟨probe, probed⟩ := only.probes 0
    rw [probed] at failed
    cases failed
  | calm idle action inaction comments just result ends =>
    rcases idle with dry | calm
    · cases dry
    · exact absurd failing (calm first judged)
  | escalated live verdict same _ untried request comments just result ends =>
    rw [judged] at same
    cases same
    refine iff_of_true ?_ (unbroken_of_untried untried)
    cases ends with
    | raised raised audit uncaught => exact absurd uncaught (only.caught raised)
    | returned outcome audit action =>
      exact ⟨outcome, _, rfl, .inr ⟨action, asked_of_escalated _ comments request⟩⟩
  | failed live verdict same owner planned owned last latest calls more before begun raised audit
      does =>
    rw [judged] at same
    cases same
    refine iff_of_false ?_ (does.broken only begun owned)
    rintro ⟨outcome, fire, returned, _⟩
    cases returned
  | left live verdict same owner planned owned last latest calls more before begun state does
      closing closes result ends =>
    rw [judged] at same
    cases same
    exact iff_of_true (ends.recoveredOrEscalated only closes) (does.unbroken begun)

/-- The actions of the clearing fire raise nothing. -/
theorem clearing_onlyActionErrors : clearingPorts.OnlyActionErrors :=
  ⟨fun _ => ⟨_, rfl⟩, nofun, nofun, nofun, nofun⟩

/-- The architect's run of 25 minutes is stuck. -/
theorem clearing_failing : ∃ first, firstVerdict architectWatch clearingPorts = some first ∧
    first.Failing := by
  have judged : ((firstVerdict architectWatch clearingPorts).any fun first =>
      first.Failing) = true := by decide +kernel
  obtain ⟨first, same, failing⟩ := (Option.any_eq_true _ _).mp judged
  exact ⟨first, same, of_decide_eq_true failing⟩

/-- The fire that clears the architect's run is unbroken. -/
theorem clearing_recovered : ∃ first, firstVerdict architectWatch clearingPorts = some first ∧
    first.Failing ∧ (RecoveredOrEscalated (runWatchdog architectWatch clearingPorts 4 0 false {}) ↔
      Unbroken architectWatch clearingPorts 0 first) := by
  have ⟨first, judged, failing⟩ := clearing_failing
  exact ⟨first, judged, failing, recovered_or_escalated_iff architectWatch clearingPorts 0
    clearing_onlyActionErrors first judged failing 4 (by decide)⟩

/-- The heartbeat cannot be invoked. -/
def unreachablePorts : Ports String :=
  { clearingPorts with
    invokeHeartbeat := fun _ => .error (.recoveryAction "POST -> HTTP 503: unavailable") }

/-- The failed invocation over the architect's stuck run leaves the fire, and nobody is asked. -/
theorem invocation_escapes : unreachablePorts.OnlyActionErrors ∧
    (∃ first, firstVerdict architectWatch unreachablePorts = some first ∧ first.Failing) ∧
    (∃ raised fire, runWatchdog architectWatch unreachablePorts 4 0 false {} = .error raised fire ∧
      made .approval fire.calls = 0) ∧
    ¬ RecoveredOrEscalated (runWatchdog architectWatch unreachablePorts 4 0 false {}) := by
  have only : unreachablePorts.OnlyActionErrors :=
    ⟨fun _ => ⟨_, rfl⟩, nofun, fun _ _ failed => by cases failed; rfl, nofun, nofun⟩
  have escaped : (match runWatchdog architectWatch unreachablePorts 4 0 false {} with
      | .ok _ _ => false
      | .error _ fire => made .approval fire.calls == 0) = true := by decide +kernel
  refine ⟨only, clearing_failing, ?_⟩
  generalize runWatchdog architectWatch unreachablePorts 4 0 false {} = result at escaped
  cases result with
  | ok outcome fire => cases escaped
  | error raised fire =>
    refine ⟨⟨raised, fire, rfl, of_decide_eq_true escaped⟩, ?_⟩
    rintro ⟨outcome, fire, returned, _⟩
    cases returned

end FlockOs.Liveness
