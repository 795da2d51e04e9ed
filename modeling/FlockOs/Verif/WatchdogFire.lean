import FlockOs.Verif.WatchdogLoop

/-!
# A fire of the watchdog

How a fire goes: it takes no action, goes straight to the board, or enters the loop and ends with
a comment or at the board. The rule of a fire carries an invariant of the loop to its end.
-/

namespace FlockOs.Liveness

open Lib

variable {Value : Type} {config : WatchdogConfig Value} {ports : Ports Value}
  {fire : Fire Value}

/-- The calls are comments. -/
def Comments (calls : List (Call Value)) : Prop := ∀ call ∈ calls, call.kind = .comment

/-- Comments are nothing else. -/
theorem Comments.made {calls : List (Call Value)} (comments : Comments calls) {kind : CallKind}
    (other : kind ≠ .comment) : made kind calls = 0 := by
  rw [made_eq_zero]
  intro call member same
  exact other (same.symm.trans (comments call member))

/-- The exception comes from asking the board or from a comment, and nobody catches it. -/
def Uncaught (ports : Ports Value) (raised : Fault) : Prop :=
  raised.caught = none ∧ ((∃ number, ports.createBoardApproval number = .error raised) ∨
    ∃ number, ports.postComment number = .error raised)

/-- A fire returns an outcome with an action, unless a call raises what nobody catches. -/
inductive Ends (ports : Ports Value) (action : Action) (calls : List (Call Value)) :
    EStateM.Result Fault (Fire Value) (Option (WatchdogOutcome Value)) → Prop
  /-- The outcome. -/
  | returned (outcome : WatchdogOutcome Value) (audit : List String)
    (same : outcome.action = action) : Ends ports action calls (.ok (some outcome) ⟨calls, audit⟩)
  /-- The exception. -/
  | raised (raised : Fault) (audit : List String) (uncaught : Uncaught ports raised) :
    Ends ports action calls (.error raised ⟨calls, audit⟩)

/-- A comment is posted, or skipped, or raises what nobody catches. -/
theorem post_run (config : WatchdogConfig Value) (ports : Ports Value) (body : String)
    (fire : Fire Value) : ∃ comments audit, Comments comments ∧
      (post config ports body fire = .ok () ⟨fire.calls ++ comments, audit⟩ ∨
        ∃ raised, Uncaught ports raised ∧
          post config ports body fire = .error raised ⟨fire.calls ++ comments, audit⟩) := by
  cases target : config.watchdogIssueId with
  | none =>
    have skipped : ∃ audit, post config ports body fire = .ok () ⟨fire.calls, audit⟩ := by
      rw [post, target]
      exact ⟨_, rfl⟩
    obtain ⟨audit, run⟩ := skipped
    refine ⟨[], audit, (by rintro _ ⟨⟩), .inl ?_⟩
    rw [run, List.append_nil]
  | some issueId =>
    have comment : Comments [Call.comment issueId body] := by
      intro call member
      rw [List.mem_singleton.mp member]
      rfl
    cases answer : ports.postComment (made .comment fire.calls) with
    | ok value =>
      refine ⟨_, fire.audit, comment, .inl ?_⟩
      rw [post, target]
      exact Exec.tryCatch_run_ok (ask_run_ok answer)
    | error raised =>
      cases caught : raised.caught with
      | some message =>
        have failed : post config ports body fire =
            note s!"warn: could not post comment: {message}"
              ⟨fire.calls ++ [Call.comment issueId body], fire.audit⟩ := by
          rw [post, target]
          refine (Exec.tryCatch_run_error (ask_run_error answer)).trans ?_
          rw [caught]
        exact ⟨_, _, comment, .inl failed⟩
      | none =>
        have failed : post config ports body fire =
            .error raised ⟨fire.calls ++ [Call.comment issueId body], fire.audit⟩ := by
          rw [post, target]
          refine (Exec.tryCatch_run_error (ask_run_error answer)).trans ?_
          rw [caught]
          rfl
        exact ⟨_, _, comment, .inr ⟨raised, ⟨caught, .inr ⟨_, answer⟩⟩, failed⟩⟩

/-- An outcome is returned as it is. -/
theorem outcome_run (action : Action) (verdict : Option (RunVerdict Value)) (attempts : Int)
    (recovered : Bool) (body : String) (fire : Fire Value) :
    ∃ result, outcome action verdict attempts recovered body fire = .ok result fire ∧
      result.action = action := ⟨_, rfl, rfl⟩

/-- A fire that ends with a comment. -/
theorem closing_ends (config : WatchdogConfig Value) (ports : Ports Value) (action : Action)
    (verdict : Option (RunVerdict Value)) (attempts : Int) (recovered : Bool) (body : String)
    (fire : Fire Value) : ∃ comments, Comments comments ∧
      Ends ports action (fire.calls ++ comments) ((some <$> do
        post config ports body
        outcome action verdict attempts recovered body) fire) := by
  obtain ⟨comments, audit, only, run⟩ := post_run config ports body fire
  refine ⟨comments, only, ?_⟩
  rcases run with posted | ⟨raised, uncaught, failed⟩
  · obtain ⟨result, returned, same⟩ := outcome_run action verdict attempts recovered body
      ⟨fire.calls ++ comments, audit⟩
    rw [Exec.map_run_ok some ((Exec.bind_run_ok posted _).trans returned)]
    exact .returned result audit same
  · rw [Exec.map_run_error some (Exec.bind_run_error failed _)]
    exact .raised raised audit uncaught

/-- A fire that only notes what it found. -/
theorem noted_ends (ports : Ports Value) (line : String) (action : Action)
    (verdict : Option (RunVerdict Value)) (body : String) (fire : Fire Value) :
    Ends ports action fire.calls
      ((note line >>= fun _ => some <$> outcome action verdict 0 false body) fire) := by
  rw [Exec.bind_run_ok (note_run line)]
  exact .returned _ _ rfl

/-- A dry run takes no action. -/
theorem finishDryRun_ends (config : WatchdogConfig Value) (ports : Ports Value)
    (verdict : Option (RunVerdict Value)) (fire : Fire Value) :
    Ends ports .dryRun fire.calls ((some <$> finishDryRun config verdict) fire) := by
  cases verdict with
  | none => exact .returned _ _ rfl
  | some verdict => exact .returned _ _ rfl

variable [ToString Value]

/-- A fire without an action. -/
theorem finishNoop_ends (config : WatchdogConfig Value) (ports : Ports Value)
    (verdict : RunVerdict Value) (fire : Fire Value) : ∃ comments, Comments comments ∧
      Ends ports .noop (fire.calls ++ comments) ((some <$> finishNoop config ports verdict) fire)
    := by
  rw [finishNoop]
  split
  · exact closing_ends config ports .noop _ _ _ _ fire
  · obtain ⟨result, returned, same⟩ := outcome_run .noop (some verdict) 0 false
      (commentHealthy config verdict) fire
    refine ⟨[], nofun, ?_⟩
    rw [Exec.map_run_ok some returned, List.append_nil]
    exact .returned result fire.audit same

variable [Truth Value]

/-- The board is asked once, and the fire goes on without its answer. -/
theorem escalate_run (config : WatchdogConfig Value) (ports : Ports Value)
    (verdict : RunVerdict Value) (attempts : Int) (reason : String) (fire : Fire Value) :
    ∃ request audit,
      (∃ approvalId, escalate config ports verdict attempts reason fire =
        .ok approvalId ⟨fire.calls ++ [.approval request], audit⟩) ∨
      ∃ raised, Uncaught ports raised ∧ escalate config ports verdict attempts reason fire =
        .error raised ⟨fire.calls ++ [.approval request], audit⟩ := by
  refine ⟨approvalRequest config verdict attempts reason, ?_⟩
  rw [escalate]
  cases answer : ports.createBoardApproval (made .approval fire.calls) with
  | ok approval =>
    have asked : ask (.approval (approvalRequest config verdict attempts reason))
        ports.createBoardApproval fire = .ok approval ⟨_, fire.audit⟩ := ask_run_ok answer
    cases approval with
    | document id =>
      exact ⟨_, .inl ⟨id, Exec.tryCatch_run_ok ((Exec.bind_run_ok asked _).trans rfl)⟩⟩
    | other =>
      exact ⟨_, .inl ⟨none, Exec.tryCatch_run_ok ((Exec.bind_run_ok asked _).trans rfl)⟩⟩
  | error raised =>
    have asked : ask (.approval (approvalRequest config verdict attempts reason))
        ports.createBoardApproval fire = .error raised ⟨_, fire.audit⟩ := ask_run_error answer
    rw [Exec.tryCatch_run_error (Exec.bind_run_error asked _)]
    cases caught : raised.caught with
    | some message => exact ⟨_, .inl ⟨none, rfl⟩⟩
    | none => exact ⟨_, .inr ⟨raised, ⟨caught, .inl ⟨_, answer⟩⟩, rfl⟩⟩

/-- A fire that escalates. -/
theorem escalateBoard_ends (config : WatchdogConfig Value) (ports : Ports Value)
    (verdict : RunVerdict Value) (attempts : Int) (reason : String) (forbidden : Bool)
    (extra : String) (fire : Fire Value) : ∃ request comments, Comments comments ∧
      Ends ports .escalateBoard (fire.calls ++ .approval request :: comments)
        ((some <$> escalateBoard config ports verdict attempts reason forbidden extra) fire) := by
  obtain ⟨request, audit, run⟩ := escalate_run config ports verdict attempts reason fire
  rw [escalateBoard]
  rcases run with ⟨approvalId, asked⟩ | ⟨raised, uncaught, failed⟩
  · obtain ⟨comments, only, ends⟩ := closing_ends config ports .escalateBoard (some verdict)
      attempts false (commentEscalate config verdict attempts approvalId forbidden extra)
      ⟨fire.calls ++ [.approval request], audit⟩
    refine ⟨request, comments, only, ?_⟩
    rw [List.append_cons, Exec.map_bind_run_ok some asked]
    exact ends
  · refine ⟨request, [], nofun, ?_⟩
    rw [Exec.map_run_error some (Exec.bind_run_error failed _)]
    exact .raised raised audit uncaught

/-- The action of a fire whose loop was left. -/
def LoopEnd.action (state : LoopEnd) : Action :=
  if state.recovered then .recovered else .escalateBoard

/-- The calls at the end of a fire whose loop was left: the board is asked unless the agent has
recovered. -/
def Closing (state : LoopEnd) (calls : List (Call Value)) : Prop :=
  if state.recovered then Comments calls
  else ∃ request comments, Comments comments ∧ calls = .approval request :: comments

/-- A fire whose loop was left. -/
theorem finishLoop_ends (config : WatchdogConfig Value) (ports : Ports Value) (owner : Value)
    (verdict : RunVerdict Value) (state : LoopEnd) (fire : Fire Value) :
    ∃ closing, Closing state closing ∧ Ends ports state.action (fire.calls ++ closing)
      ((some <$> finishLoop config ports owner verdict state) fire) := by
  rw [finishLoop, LoopEnd.action]
  unfold Closing
  split
  · exact closing_ends config ports .recovered _ _ _ _ fire
  · obtain ⟨request, comments, only, ends⟩ := escalateBoard_ends config ports verdict state.attempts
      (if state.forbidden then "release forbidden (403)"
        else s!"exhausted {state.attempts}/{config.maxAttempts} attempts") state.forbidden "" fire
    exact ⟨_, ⟨request, comments, only, rfl⟩, ends⟩

variable [BEq Value]

/-- The first verdict of a fire; none where the agent is not in the chain or has no run. -/
def firstVerdict (config : WatchdogConfig Value) (ports : Ports Value) :
    Option (RunVerdict Value) :=
  match ports.probe 0 with
  | .ok probe =>
    if (probe.chain.get config.watchedAgentId).isSome
    then classifyProbe config probe (ports.clock 0) else none
  | .error _ => none

/-- The owner that the loop recovers with: any but the watched agent. -/
def safeOwner (config : WatchdogConfig Value) (verdict : RunVerdict Value) : Option Value :=
  verdict.recoveryOwnerId.filter fun owner => !(owner == config.watchedAgentId)

/-- How a fire goes. -/
inductive FireRun (config : WatchdogConfig Value) (ports : Ports Value) (prior : Int)
    (dryRun : Bool)
    (Inv : RunVerdict Value → Value → Nat → RunVerdict Value → List (Call Value) → Prop) :
    EStateM.Result Fault (Fire Value) (Option (WatchdogOutcome Value)) → Prop
  /-- The first probe raises. -/
  | unprobed (raised : Fault) (failed : ports.probe 0 = .error raised) :
    FireRun config ports prior dryRun Inv (.error raised ⟨[.clock, .probe], []⟩)
  /-- No action is taken. -/
  | calm (idle : dryRun = true ∨ ∀ verdict ∈ firstVerdict config ports, ¬ verdict.Failing)
    (action : Action) (inaction : action = .noop ∨ action = .dryRun)
    (comments : List (Call Value)) (only : Comments comments)
    (result : EStateM.Result Fault (Fire Value) (Option (WatchdogOutcome Value)))
    (ends : Ends ports action ([.clock, .probe] ++ comments) result) :
    FireRun config ports prior dryRun Inv result
  /-- The board is asked at once. -/
  | escalated (live : dryRun = false) (verdict : RunVerdict Value)
    (first : firstVerdict config ports = some verdict) (failing : verdict.Failing)
    (untried : (planFor config verdict prior).action ≠ .releaseRestart ∨
      safeOwner config verdict = none)
    (request : ApprovalRequest Value) (comments : List (Call Value)) (only : Comments comments)
    (result : EStateM.Result Fault (Fire Value) (Option (WatchdogOutcome Value)))
    (ends : Ends ports .escalateBoard ([.clock, .probe] ++ .approval request :: comments)
      result) :
    FireRun config ports prior dryRun Inv result
  /-- A call of the loop raises. -/
  | failed (live : dryRun = false) (verdict : RunVerdict Value)
    (first : firstVerdict config ports = some verdict) (owner : Value)
    (planned : (planFor config verdict prior).action = .releaseRestart)
    (owned : safeOwner config verdict = some owner) (last : Nat) (latest : RunVerdict Value)
    (calls more : List (Call Value)) (before : Before verdict.linkedIssueId last calls)
    (inv : Inv verdict owner last latest calls) (raised : Fault) (audit : List String)
    (does : TurnDoes config ports owner verdict.linkedIssueId prior last latest more
      (.error raised)) :
    FireRun config ports prior dryRun Inv (.error raised ⟨calls ++ more, audit⟩)
  /-- The loop is left. -/
  | left (live : dryRun = false) (verdict : RunVerdict Value)
    (first : firstVerdict config ports = some verdict) (owner : Value)
    (planned : (planFor config verdict prior).action = .releaseRestart)
    (owned : safeOwner config verdict = some owner) (last : Nat) (latest : RunVerdict Value)
    (calls more : List (Call Value)) (before : Before verdict.linkedIssueId last calls)
    (inv : Inv verdict owner last latest calls) (state : LoopEnd)
    (does : TurnDoes config ports owner verdict.linkedIssueId prior last latest more
      (.ok (.leave state)))
    (closing : List (Call Value)) (closes : Closing state closing)
    (result : EStateM.Result Fault (Fire Value) (Option (WatchdogOutcome Value)))
    (ends : Ends ports state.action (calls ++ more ++ closing) result) :
    FireRun config ports prior dryRun Inv result

section Rule

variable {prior : Int} {verdict : RunVerdict Value}

/-- A fire without a safe owner escalates. -/
theorem carryOut_unowned (ports : Ports Value) (turns : Nat)
    (planned : (planFor config verdict prior).action = .releaseRestart)
    (unowned : safeOwner config verdict = none) (fire : Fire Value) :
    ∃ audit, carryOut config ports turns prior verdict fire =
      (some <$> escalateBoard config ports verdict 0 "no safe recovery owner" false
        "recovery owner could not be resolved safely") ⟨fire.calls, audit⟩ := by
  unfold safeOwner at unowned
  rw [carryOut, planned, unowned]
  exact ⟨_, Exec.bind_run_ok (note_run _) _⟩

/-- A fire with a safe owner enters the loop. -/
theorem carryOut_owned {turns : Nat} {owner : Value}
    (planned : (planFor config verdict prior).action = .releaseRestart)
    (owned : safeOwner config verdict = some owner) :
    carryOut config ports turns prior verdict =
      releaseRestartLoop config ports owner verdict.linkedIssueId turns verdict prior := by
  unfold safeOwner at owned
  rw [carryOut, planned, owned]
  rfl

/-- A fire carries out the plan for its first verdict. -/
theorem carryOut_run {turns : Nat} (enough : (config.maxAttempts - prior).toNat < turns)
    {Inv : RunVerdict Value → Value → Nat → RunVerdict Value → List (Call Value) → Prop}
    (first : firstVerdict config ports = some verdict)
    (initial : ∀ owner, safeOwner config verdict = some owner →
      Inv verdict owner 0 verdict [.clock, .probe])
    (kept : ∀ owner, safeOwner config verdict = some owner → ∀ turn current calls more next,
      Before verdict.linkedIssueId turn calls → Inv verdict owner turn current calls →
        TurnDoes config ports owner verdict.linkedIssueId prior turn current more
          (.ok (.goOn (prior + turn + 1) next)) →
        Inv verdict owner (turn + 1) next (calls ++ more)) (audit : List String) :
    FireRun config ports prior false Inv
      (carryOut config ports turns prior verdict ⟨[.clock, .probe], audit⟩) := by
  rcases planFor_cases config verdict prior with noop | board | planned
  · rw [carryOut, if_pos noop]
    obtain ⟨comments, only, ends⟩ :=
      finishNoop_ends config ports verdict ⟨[.clock, .probe], audit⟩
    refine .calm (.inr ?_) .noop (.inl rfl) comments only _ ends
    intro found same
    cases same.symm.trans first
    exact planFor_noop_iff.mp noop
  · have acting : (planFor config verdict prior).action ≠ .noop := by
      rw [board]
      exact nofun
    rw [carryOut, if_neg acting, if_pos board]
    obtain ⟨request, comments, only, ends⟩ := escalateBoard_ends config ports verdict 0
      (planFor config verdict prior).reason false "" ⟨[.clock, .probe], audit⟩
    refine .escalated rfl verdict first (not_not.mp (mt planFor_noop_iff.mpr acting)) (.inl ?_)
      request comments only _ ends
    rw [board]
    exact nofun
  · cases owned : safeOwner config verdict with
    | none =>
      obtain ⟨lines, run⟩ := carryOut_unowned ports turns planned owned
        ⟨[.clock, .probe], audit⟩
      obtain ⟨request, comments, only, ends⟩ := escalateBoard_ends config ports verdict 0
        "no safe recovery owner" false "recovery owner could not be resolved safely"
        ⟨[.clock, .probe], lines⟩
      rw [run]
      exact .escalated rfl verdict first (.inl (planned_stuck planned).1) (.inr owned)
        request comments only _ ends
    | some owner =>
      have start : Before verdict.linkedIssueId 0 [.clock, .probe] :=
        ⟨rfl, rfl, fun _ => rfl, rfl, rfl⟩
      have budget : (config.maxAttempts - (prior + (0 : Nat))).toNat < turns := by omega
      obtain ⟨last, latest, calls, more, before, inv, run⟩ := loop_rule (Inv verdict owner)
        (kept owner owned) turns 0 verdict ⟨[.clock, .probe], audit⟩ budget start
        (initial owner owned)
      rw [carryOut_owned planned owned, releaseRestartLoop]
      rw [show prior + (0 : Nat) = prior from Int.add_zero prior] at run
      generalize outcome : loop config ports owner verdict.linkedIssueId turns prior verdict
        ⟨[.clock, .probe], audit⟩ = result at run
      cases run with
      | left state lines does =>
        rw [Exec.bind_run_ok outcome]
        obtain ⟨closing, closes, ends⟩ := finishLoop_ends config ports owner verdict state
          ⟨calls ++ more, lines⟩
        exact .left rfl verdict first owner planned owned last latest calls more before inv state
          does closing closes _ ends
      | failed raised lines does =>
        rw [Exec.bind_run_error outcome]
        exact .failed rfl verdict first owner planned owned last latest calls more before inv
          raised lines does

/-- A fire goes one of the ways that a fire can go, with an invariant that the turns of its loop
keep. -/
theorem fire_rule (config : WatchdogConfig Value) (ports : Ports Value) (prior : Int)
    (dryRun : Bool) {turns : Nat} (enough : (config.maxAttempts - prior).toNat < turns)
    (Inv : RunVerdict Value → Value → Nat → RunVerdict Value → List (Call Value) → Prop)
    (initial : ∀ verdict owner, firstVerdict config ports = some verdict →
      safeOwner config verdict = some owner → Inv verdict owner 0 verdict [.clock, .probe])
    (kept : ∀ verdict owner, firstVerdict config ports = some verdict →
      safeOwner config verdict = some owner → ∀ turn current calls more next,
        Before verdict.linkedIssueId turn calls → Inv verdict owner turn current calls →
          TurnDoes config ports owner verdict.linkedIssueId prior turn current more
            (.ok (.goOn (prior + turn + 1) next)) →
          Inv verdict owner (turn + 1) next (calls ++ more)) :
    FireRun config ports prior dryRun Inv (runWatchdog config ports turns prior dryRun {}) := by
  have read : ask .clock (fun number => .ok (ports.clock number)) ({} : Fire Value) =
      .ok (ports.clock 0) ⟨[.clock], []⟩ := ask_run_ok rfl
  rw [runWatchdog, Exec.bind_run_ok read]
  cases probing : ports.probe 0 with
  | error raised =>
    have failed : ask .probe ports.probe (⟨[.clock], []⟩ : Fire Value) =
        .error raised ⟨[.clock, .probe], []⟩ := ask_run_error probing
    rw [Exec.bind_run_error failed]
    exact .unprobed raised probing
  | ok probe =>
    have probed : ask .probe ports.probe (⟨[.clock], []⟩ : Fire Value) =
        .ok probe ⟨[.clock, .probe], []⟩ := ask_run_ok probing
    rw [Exec.bind_run_ok probed]
    have calm {result : EStateM.Result Fault (Fire Value) (Option (WatchdogOutcome Value))}
        {action : Action} (inaction : action = .noop ∨ action = .dryRun)
        (idle : dryRun = true ∨ ∀ verdict ∈ firstVerdict config ports, ¬ verdict.Failing)
        (ends : Ends ports action [.clock, .probe] result) :
        FireRun config ports prior dryRun Inv result :=
      .calm idle action inaction [] nofun result ends
    cases node : probe.chain.get config.watchedAgentId with
    | none =>
      have unjudged : firstVerdict config ports = none := by
        rw [firstVerdict, probing]
        simp [node]
      refine calm (.inl rfl) (.inr ?_) (noted_ends ports _ .noop none _ ⟨_, _⟩)
      rw [unjudged]
      exact nofun
    | some agent =>
      have judged : firstVerdict config ports = classifyProbe config probe (ports.clock 0) := by
        rw [firstVerdict, probing]
        simp [node]
      dsimp only
      cases dryRun with
      | true =>
        rw [if_pos rfl]
        exact calm (.inr rfl) (.inl rfl) (finishDryRun_ends config ports _ ⟨_, _⟩)
      | false =>
        rw [if_neg Bool.false_ne_true]
        cases first : classifyProbe config probe (ports.clock 0) with
        | none =>
          refine calm (.inl rfl) (.inr ?_) (noted_ends ports _ .noop none _ ⟨_, _⟩)
          rw [judged, first]
          exact nofun
        | some verdict =>
          have same := judged.trans first
          dsimp only
          rw [Exec.bind_run_ok (note_run _)]
          exact carryOut_run enough same (fun owner => initial verdict owner same)
            (fun owner => kept verdict owner same) _

end Rule

end FlockOs.Liveness
