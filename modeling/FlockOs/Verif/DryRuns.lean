import FlockOs.Verif.WatchdogSafety

/-!
# What a dry run announces

A dry run writes down the action that it plans for the first verdict, and a live fire takes the
action that it plans. The dry run plans as if no attempt had been made, with the default age for
the board, and does not look at the owner; so the two agree on all verdicts but that of a stuck
run, and on that one exactly when both or neither go to the board.
-/

namespace FlockOs.Liveness

open Lib

variable {Value : Type}

/-- The action that a call of a fire takes. -/
def Call.action : Call Value → Option Action
  | .release _ _ => some .releaseRestart
  | .invoke _ => some .releaseRestart
  | .approval _ => some .escalateBoard
  | _ => none

/-- The first action that some calls take. -/
def firstAction (calls : List (Call Value)) : Action := (calls.findSome? Call.action).getD .noop

/-- Calls that take no action leave the first action to the calls after them. -/
theorem firstAction_append {calls : List (Call Value)} (idle : ∀ call ∈ calls, call.action = none)
    (more : List (Call Value)) : firstAction (calls ++ more) = firstAction more := by
  rw [firstAction, List.findSome?_append, List.findSome?_eq_none_iff.mpr idle, Option.none_or]
  rfl

/-- The first action is that of the first call that takes one. -/
theorem firstAction_cons {call : Call Value} {action : Action} (takes : call.action = some action)
    (more : List (Call Value)) : firstAction (call :: more) = action := by
  rw [firstAction, List.findSome?_cons, takes]
  rfl

/-- Comments take no action. -/
theorem Comments.idle {calls : List (Call Value)} (comments : Comments calls) :
    ∀ call ∈ calls, call.action = none := by
  intro call member
  have kind := comments call member
  cases call <;> first | rfl | cases kind

/-- Comments after the first probe take no action. -/
theorem Comments.firstAction {calls : List (Call Value)} (comments : Comments calls) :
    firstAction ([.clock, .probe] ++ calls) = .noop := by
  have idle : ∀ call ∈ ([.clock, .probe] : List (Call Value)), call.action = none := by
    intro call member
    rcases List.mem_pair.mp member with rfl | rfl <;> rfl
  rw [firstAction_append idle, ← List.append_nil calls, firstAction_append comments.idle]
  rfl

section Live

variable {config : WatchdogConfig Value} {ports : Ports Value} {prior : Int}

/-- An attempt begins with a release or an invocation. -/
theorem firstAction_releasing {owner : Value} {linkedId : Option Value}
    {current : RunVerdict Value} {attempts : Int} {rest : List (Call Value)}
    (begins : linkedId.isSome ∨ ∃ agentId later, rest = .invoke agentId :: later) :
    firstAction (releasing config owner linkedId current attempts ++ rest) = .releaseRestart := by
  have pause : ∀ call ∈ pauseCalls (planFor config current attempts), call.action = none := by
    intro call member
    obtain ⟨seconds, _, same⟩ := List.mem_map.mp member
    rw [← same]
    rfl
  rw [releasing, List.append_assoc, firstAction_append pause]
  cases linkedId with
  | some issueId => exact firstAction_cons rfl _
  | none =>
    rcases begins with linked | ⟨agentId, later, rfl⟩
    · cases linked
    · exact firstAction_cons rfl _

variable [BEq Value] [Truth Value]

/-- The first turn of a loop begins with a release or an invocation. -/
theorem TurnDoes.firstAction {owner : Value} {linkedId : Option Value} {turn : Nat}
    {current : RunVerdict Value} {more : List (Call Value)}
    {result : Except Fault (TurnEnd Value)}
    (does : TurnDoes config ports owner linkedId prior turn current more result)
    (planned : (planFor config current (prior + turn)).action = .releaseRestart) :
    firstAction more = .releaseRestart := by
  cases does with
  | stopped unplanned => exact absurd planned unplanned
  | forbidden _ linked =>
    rw [← List.append_nil (releasing ..)]
    exact firstAction_releasing (.inl linked)
  | unreleased _ linked =>
    rw [← List.append_nil (releasing ..)]
    exact firstAction_releasing (.inl linked)
  | uninvoked => exact firstAction_releasing (.inr ⟨_, _, rfl⟩)
  | unprobed => exact firstAction_releasing (.inr ⟨_, _, rfl⟩)
  | recovered => exact firstAction_releasing (.inr ⟨_, _, rfl⟩)
  | again => exact firstAction_releasing (.inr ⟨_, _, rfl⟩)

/-- The action that a fire takes first, given its first verdict. -/
def liveAction (config : WatchdogConfig Value) (prior : Int) :
    Option (RunVerdict Value) → Action
  | none => .noop
  | some verdict =>
    if (planFor config verdict prior).action = .releaseRestart ∧ safeOwner config verdict = none
    then .escalateBoard else (planFor config verdict prior).action

/-- The first attempt of a loop has been made. -/
def Attempted (calls : List (Call Value)) : Prop :=
  calls.findSome? Call.action = some .releaseRestart

omit [BEq Value] [Truth Value] in
/-- What comes after an attempt is not the first action. -/
theorem Attempted.firstAction {calls : List (Call Value)} (attempted : Attempted calls)
    (more : List (Call Value)) : firstAction (calls ++ more) = .releaseRestart := by
  rw [Attempted] at attempted
  rw [Liveness.firstAction, List.findSome?_append, attempted]
  rfl

omit [BEq Value] [Truth Value] in
/-- The first action is an attempt when there is one. -/
theorem attempted_of_firstAction {calls : List (Call Value)}
    (first : firstAction calls = .releaseRestart) : Attempted calls := by
  rw [firstAction] at first
  cases found : calls.findSome? Call.action with
  | none =>
    rw [found] at first
    cases first
  | some action =>
    rw [found] at first
    rw [Attempted, found]
    exact congrArg some first

/-- Before its first turn a loop has made no attempt, and afterwards one. -/
def Entered (config : WatchdogConfig Value) (prior : Int) (turn : Nat)
    (current : RunVerdict Value) (calls : List (Call Value)) : Prop :=
  (turn = 0 ∧ calls = [.clock, .probe] ∧
    (planFor config current prior).action = .releaseRestart) ∨ Attempted calls

/-- After a turn the first action is an attempt. -/
theorem Entered.attempted {owner : Value} {linkedId : Option Value} {turn : Nat}
    {current : RunVerdict Value} {calls more : List (Call Value)}
    {result : Except Fault (TurnEnd Value)} (entered : Entered config prior turn current calls)
    (does : TurnDoes config ports owner linkedId prior turn current more result) :
    Attempted (calls ++ more) := by
  rcases entered with ⟨rfl, rfl, planned⟩ | attempted
  · have first := does.firstAction (by rw [Nat.cast_zero, Int.add_zero]; exact planned)
    exact attempted_of_firstAction first
  · exact attempted_of_firstAction (attempted.firstAction more)

omit [BEq Value] [Truth Value] in
/-- The calls of a fire that ended. -/
theorem Ends.after {action : Action} {calls : List (Call Value)}
    {firing : Firing Value (Option (WatchdogOutcome Value))} {start : Fire Value}
    (ends : Ends ports action calls (firing start)) : (Exec.after firing start).calls = calls := by
  rw [Exec.after]
  generalize firing start = result at ends
  cases ends with
  | returned => rfl
  | raised => rfl

omit [BEq Value] [Truth Value] in
/-- A fire that goes straight to the board. -/
theorem firstAction_escalated (request : ApprovalRequest Value) (comments : List (Call Value)) :
    firstAction ([.clock, .probe] ++ .approval request :: comments) = .escalateBoard := rfl

variable (config) in
/-- A live fire first takes the action that it plans for its first verdict, or goes to the board
for want of a safe owner. -/
theorem live_firstAction [ToString Value] {probe : LivenessProbe Value}
    (probed : ports.probe 0 = .ok probe) {turns : Nat}
    (enough : (config.maxAttempts - prior).toNat < turns) :
    firstAction (Exec.after (runWatchdog config ports turns prior false) {}).calls =
      liveAction config prior (firstVerdict config ports) := by
  have run := fire_rule config ports prior false enough
    (fun verdict owner turn current calls =>
      (planFor config verdict prior).action = .releaseRestart →
        Entered config prior turn current calls)
    (fun _ _ _ _ planned => .inl ⟨rfl, rfl, planned⟩)
    (fun _ _ _ _ _ _ _ _ _ _ entered does planned => .inr ((entered planned).attempted does))
  generalize same : runWatchdog config ports turns prior false {} = result at run
  cases run with
  | unprobed raised failed =>
    rw [probed] at failed
    cases failed
  | calm idle action inaction comments only result ends =>
    rw [← same] at ends
    rw [ends.after, only.firstAction]
    rcases idle with dry | calm
    · cases dry
    · cases first : firstVerdict config ports with
      | none => rfl
      | some verdict =>
        have noop : (planFor config verdict prior).action = .noop :=
          planFor_noop_iff.mpr (calm verdict first)
        rw [liveAction, noop, if_neg (fun both => nomatch both.1)]
  | escalated live verdict first failing untried request comments only result ends =>
    rw [← same] at ends
    rw [ends.after, firstAction_escalated, first, liveAction]
    rcases planFor_cases config verdict prior with noop | board | planned
    · exact absurd failing (planFor_noop_iff.mp noop)
    · rw [board, if_neg (fun both => nomatch both.1)]
    · rw [if_pos ⟨planned, untried.resolve_left (not_not.mpr planned)⟩]
  | failed live verdict first owner planned owned last latest calls more before entered raised
      audit does =>
    have attempted := ((entered planned).attempted does).firstAction []
    rw [List.append_nil] at attempted
    rw [Exec.after, same, first, liveAction,
      if_neg (fun both => Option.some_ne_none owner (owned.symm.trans both.2)), planned]
    exact attempted
  | left live verdict first owner planned owned last latest calls more before entered state does
      closing closes result ends =>
    rw [← same] at ends
    rw [ends.after, ((entered planned).attempted does).firstAction closing, first, liveAction,
      if_neg (fun both => Option.some_ne_none owner (owned.symm.trans both.2)), planned]

end Live

/-- The texts of two actions do not begin alike. -/
theorem Action.text_inj {action other : Action} {rest more : String}
    (same : action.text ++ rest = other.text ++ more) : action = other := by
  have texts := congrArg String.toList same
  rw [String.toList_append, String.toList_append] at texts
  have starts := congrArg (List.take 3) texts
  cases action <;> cases other <;> first | rfl | cases starts

/-- The line of a dry run over a verdict, up to the action. -/
def dryFront (verdict : RunVerdict Value) : String :=
  s!"dry-run: verdict={verdict.verdict.text} age={fixed 1 verdict.ageMinutes}m " ++ "→ would "

/-- The line of a dry run over a verdict. -/
def dryLine (verdict : RunVerdict Value) (action : Action) (reason : String) : String :=
  dryFront verdict ++ (action.text ++ s!" ({reason})")

/-- The line of a dry run over a verdict is the one that it notes. -/
theorem dryLine_eq (verdict : RunVerdict Value) (action : Action) (reason : String) :
    s!"dry-run: verdict={verdict.verdict.text} age={fixed 1 verdict.ageMinutes}m " ++
      s!"→ would {action.text} ({reason})" = dryLine verdict action reason := by
  unfold dryLine dryFront
  generalize s!"dry-run: verdict={verdict.verdict.text} age={fixed 1 verdict.ageMinutes}m " = front
  show front ++ ("→ would " ++ action.text ++ " (" ++ reason ++ ")") =
    front ++ "→ would " ++ (action.text ++ (" (" ++ reason ++ ")"))
  simp only [String.append_assoc]

/-- A line over a verdict tells its action. -/
theorem dryLine_inj {verdict : RunVerdict Value} {action other : Action} {reason why : String}
    (same : dryLine verdict action reason = dryLine verdict other why) : action = other :=
  Action.text_inj ((String.append_right_inj _).mp same)

section Dry

variable [ToString Value]

/-- The line of a dry run over an agent that is not in the chain. -/
def unknownLine (agentId : Value) : String :=
  s!"unknown watched agent {agentId}; cannot resolve chain"

/-- The line of a dry run over an agent without a run. -/
def idleLine : String := "dry-run: no in-flight base run — would NOOP"

/-- A dry run announces an action: none where it found nothing to judge, and otherwise the one in
its line. -/
def Announces (config : WatchdogConfig Value) (outcome : WatchdogOutcome Value)
    (action : Action) : Prop :=
  match outcome.verdict with
  | none =>
    (outcome.audit = [unknownLine config.watchedAgentId] ∨ outcome.audit = [idleLine]) ∧
      action = .noop
  | some verdict => ∃ reason, outcome.audit = [dryLine verdict action reason]

/-- A dry run announces one action. -/
theorem Announces.unique {config : WatchdogConfig Value} {outcome : WatchdogOutcome Value}
    {action other : Action} (announces : Announces config outcome action)
    (again : Announces config outcome other) : other = action := by
  unfold Announces at announces again
  cases verdict : outcome.verdict with
  | none =>
    rw [verdict] at announces again
    exact again.2.trans announces.2.symm
  | some found =>
    rw [verdict] at announces again
    obtain ⟨_, line⟩ := announces
    obtain ⟨_, twin⟩ := again
    exact dryLine_inj (List.singleton_inj.mp (twin.symm.trans line))

variable [BEq Value] {config : WatchdogConfig Value} {ports : Ports Value}

/-- The action that a dry run announces, given the first verdict. -/
def dryAction (config : WatchdogConfig Value) : Option (RunVerdict Value) → Action
  | none => .noop
  | some verdict =>
    (planRecovery verdict 0 config.maxAttempts config.backoffSeconds defaultEscalateMinutes).action

variable (config) in
/-- A dry run announces what it plans. -/
theorem dryRun_announces [Truth Value] {probe : LivenessProbe Value}
    (probed : ports.probe 0 = .ok probe) (turns : Nat) (prior : Int) :
    ∃ outcome fire, runWatchdog config ports turns prior true {} = .ok (some outcome) fire ∧
      Announces config outcome (dryAction config (firstVerdict config ports)) := by
  have read : ask .clock (fun number => .ok (ports.clock number)) ({} : Fire Value) =
      .ok (ports.clock 0) ⟨[.clock], []⟩ := ask_run_ok rfl
  have asked : ask .probe ports.probe (⟨[.clock], []⟩ : Fire Value) =
      .ok probe ⟨[.clock, .probe], []⟩ := ask_run_ok probed
  rw [runWatchdog, Exec.bind_run_ok read, Exec.bind_run_ok asked]
  cases node : probe.chain.get config.watchedAgentId with
  | none =>
    have unjudged : firstVerdict config ports = none := by
      rw [firstVerdict, probed]
      simp [node]
    rw [unjudged]
    exact ⟨_, _, rfl, .inl rfl, rfl⟩
  | some agent =>
    have judged : firstVerdict config ports = classifyProbe config probe (ports.clock 0) := by
      rw [firstVerdict, probed]
      simp [node]
    rw [judged]
    cases classifyProbe config probe (ports.clock 0) with
    | none => exact ⟨_, _, rfl, .inr rfl, rfl⟩
    | some verdict => exact ⟨_, _, rfl, _, congrArg List.singleton (dryLine_eq verdict _ _)⟩

end Dry

section Agreement

variable [BEq Value]

/-- Over a stuck run the dry run goes to the board, for want of any attempts or at the default age,
exactly when the live fire does, for want of attempts left or a safe owner or at its own age. -/
def Foretold (config : WatchdogConfig Value) (prior : Int) (first : Option (RunVerdict Value)) :
    Prop :=
  ∀ verdict ∈ first, verdict.verdict = .stuck →
    ((config.maxAttempts ≤ 0 ∨ defaultEscalateMinutes ≤ verdict.ageMinutes) ↔
      (config.maxAttempts ≤ prior ∨ config.thresholds.escalateMinutes ≤ verdict.ageMinutes ∨
        safeOwner config verdict = none))

omit [BEq Value] in
/-- The action that a dry run announces over a verdict. -/
theorem dryAction_some (config : WatchdogConfig Value) (verdict : RunVerdict Value) :
    dryAction config (some verdict) =
      if verdict.verdict = .healthy ∨ verdict.verdict = .suspicious then .noop
      else if verdict.verdict = .abort ∨ 0 ≥ config.maxAttempts ∨
          verdict.ageMinutes ≥ defaultEscalateMinutes then .escalateBoard
      else .releaseRestart :=
  planFor_action { config with
    thresholds := { config.thresholds with escalateMinutes := defaultEscalateMinutes } } verdict 0

/-- The action of a live fire over a stuck run. -/
theorem liveAction_stuck (config : WatchdogConfig Value) (prior : Int)
    {verdict : RunVerdict Value} (stuck : verdict.verdict = .stuck) :
    liveAction config prior (some verdict) =
      if config.maxAttempts ≤ prior ∨ config.thresholds.escalateMinutes ≤ verdict.ageMinutes ∨
        safeOwner config verdict = none then .escalateBoard else .releaseRestart := by
  have planned := planFor_action config verdict prior
  rw [stuck] at planned
  simp only [reduceCtorEq, or_self, if_false, false_or, ge_iff_le] at planned
  rw [liveAction, planned]
  by_cases board : config.maxAttempts ≤ prior ∨
      config.thresholds.escalateMinutes ≤ verdict.ageMinutes
  · rw [if_pos board, if_neg (fun both => nomatch both.1),
      if_pos (board.imp_right Or.inl)]
  · rw [if_neg board]
    have same : (config.maxAttempts ≤ prior ∨
        config.thresholds.escalateMinutes ≤ verdict.ageMinutes ∨
          safeOwner config verdict = none) ↔ safeOwner config verdict = none := by
      rw [← or_assoc, or_iff_right board]
    by_cases unowned : safeOwner config verdict = none
    · rw [if_pos ⟨rfl, unowned⟩, if_pos (same.mpr unowned)]
    · rw [if_neg (fun both => unowned both.2), if_neg (mt same.mp unowned)]

/-- The announced action is the one taken exactly where it is foretold. -/
theorem dryAction_eq_iff (config : WatchdogConfig Value) (prior : Int)
    (first : Option (RunVerdict Value)) :
    dryAction config first = liveAction config prior first ↔ Foretold config prior first := by
  cases first with
  | none => exact iff_of_true rfl nofun
  | some verdict =>
    cases kind : verdict.verdict with
    | stuck =>
      have foretold : Foretold config prior (some verdict) ↔ _ :=
        ⟨fun all => all verdict rfl kind, fun here _ same _ => Option.some.inj same ▸ here⟩
      rw [foretold, dryAction_some, liveAction_stuck config prior kind, kind]
      simp only [reduceCtorEq, or_self, if_false, false_or, ge_iff_le]
      split
      next board =>
        split
        next taken => exact iff_of_true rfl (iff_of_true board taken)
        next taken => exact iff_of_false nofun fun both => taken (both.mp board)
      next board =>
        split
        next taken => exact iff_of_false nofun fun both => board (both.mpr taken)
        next taken => exact iff_of_true rfl (iff_of_false board taken)
    | _ =>
      have foretold : Foretold config prior (some verdict) := by
        rintro _ ⟨⟩ stuck
        cases kind.symm.trans stuck
      refine iff_of_true ?_ foretold
      have planned := planFor_action config verdict prior
      rw [kind] at planned
      rw [dryAction_some, liveAction, planned, kind]
      rfl

end Agreement

/-- What a dry run announces is the first action of a live fire on the same probe at the same time
exactly when it is foretold. -/
theorem dry_run_tells_iff [BEq Value] [Truth Value] [ToString Value]
    (config : WatchdogConfig Value) (prior : Int) (probe : LivenessProbe Value)
    (dry live : Ports Value) (dryProbe : dry.probe 0 = .ok probe)
    (liveProbe : live.probe 0 = .ok probe) (sameTime : live.clock 0 = dry.clock 0) (turns : Nat)
    (enough : (config.maxAttempts - prior).toNat < turns) :
    ∃ outcome fire announced,
      runWatchdog config dry turns prior true {} = .ok (some outcome) fire ∧
      (∀ action, Announces config outcome action ↔ action = announced) ∧
      (announced = firstAction (Exec.after (runWatchdog config live turns prior false) {}).calls ↔
        Foretold config prior (firstVerdict config dry)) := by
  have ⟨outcome, fire, returned, announces⟩ :=
    dryRun_announces config dryProbe turns prior
  have same : firstVerdict config live = firstVerdict config dry := by
    rw [firstVerdict, firstVerdict, dryProbe, liveProbe, sameTime]
  refine ⟨outcome, fire, dryAction config (firstVerdict config dry), returned, fun action => ?_, ?_⟩
  · constructor
    · exact announces.unique
    · rintro rfl
      exact announces
  · rw [live_firstAction config liveProbe enough, same]
    exact dryAction_eq_iff config prior _

/-- The dry run over the architect's stuck run tells of the release when no attempt was made. -/
theorem clearing_foretold : ∃ outcome fire announced,
    runWatchdog architectWatch clearingPorts 4 0 true {} = .ok (some outcome) fire ∧
      (∀ action, Announces architectWatch outcome action ↔ action = announced) ∧
      (announced =
          firstAction (Exec.after (runWatchdog architectWatch clearingPorts 4 0 false) {}).calls ↔
        Foretold architectWatch 0 (firstVerdict architectWatch clearingPorts)) :=
  dry_run_tells_iff architectWatch 0 (inFlight 25) clearingPorts clearingPorts rfl rfl rfl 4
    (by decide)

/-- After three attempts the dry run over the architect's stuck run announces one more, and the
live fire goes to the board. -/
theorem exhausted_misannounced : ∃ outcome fire,
    runWatchdog architectWatch clearingPorts 4 3 true {} = .ok (some outcome) fire ∧
      Announces architectWatch outcome .releaseRestart ∧
      firstAction (Exec.after (runWatchdog architectWatch clearingPorts 4 3 false) {}).calls =
        .escalateBoard := by
  have probed : clearingPorts.probe 0 = .ok (inFlight 25) := rfl
  have ⟨outcome, fire, returned, announces⟩ :=
    dryRun_announces architectWatch probed 4 3
  have announced : dryAction architectWatch (firstVerdict architectWatch clearingPorts) =
      .releaseRestart := by decide +kernel
  have taken : liveAction architectWatch 3 (firstVerdict architectWatch clearingPorts) =
      .escalateBoard := by decide +kernel
  rw [announced] at announces
  exact ⟨outcome, fire, returned, announces,
    (live_firstAction architectWatch probed (by decide)).trans taken⟩

end FlockOs.Liveness
