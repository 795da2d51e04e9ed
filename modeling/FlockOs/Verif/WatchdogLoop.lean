import FlockOs.Watchdog

/-!
# The loop of the watchdog

What a turn of the loop can do, as a relation on the calls that it makes, and the rule of the
loop: within its budget of attempts it is left by a turn in a state that the invariant describes.
-/

namespace FlockOs.Liveness

open Lib

variable {Value : Type} {config : WatchdogConfig Value} {ports : Ports Value} {owner : Value}
  {linkedId : Option Value} {fire : Fire Value}

@[simp] theorem made_nil (kind : CallKind) : made kind ([] : List (Call Value)) = 0 := rfl

@[simp] theorem made_append (kind : CallKind) (calls more : List (Call Value)) :
    made kind (calls ++ more) = made kind calls + made kind more := List.countP_append

@[simp] theorem made_cons (kind : CallKind) (call : Call Value) (calls : List (Call Value)) :
    made kind (call :: calls) = made kind calls + if call.kind = kind then 1 else 0 := by
  simp [made, List.countP_cons]

/-- Calls of other kinds are not counted. -/
theorem made_eq_zero {kind : CallKind} {calls : List (Call Value)} :
    made kind calls = 0 ↔ ∀ call ∈ calls, call.kind ≠ kind := by
  simp [made, List.countP_eq_zero]

/-- A call of two lists of calls is in the first, or behind it in the second. -/
theorem split_of_append {first second before after : List (Call Value)} {call : Call Value}
    (split : first ++ second = before ++ call :: after) :
    (∃ rest, first = before ++ call :: rest) ∨
      ∃ inside, before = first ++ inside ∧ second = inside ++ call :: after := by
  rcases List.append_eq_append_iff.mp split with behind | ⟨rest, earlier, same⟩
  · exact .inr behind
  · cases rest with
    | nil =>
      rw [List.append_nil] at earlier
      exact .inr ⟨[], by rw [earlier, List.append_nil], same.symm⟩
    | cons other rest =>
      cases (List.cons.inj same).1
      exact .inl ⟨rest, earlier⟩

/-- A port that returns. -/
theorem ask_run_ok {α : Type} {call : Call Value} {answer : Nat → Except Fault α} {value : α}
    (returned : answer (made call.kind fire.calls) = .ok value) :
    ask call answer fire = .ok value ⟨fire.calls ++ [call], fire.audit⟩ := by
  rw [ask, returned]

/-- A port that raises. -/
theorem ask_run_error {α : Type} {call : Call Value} {answer : Nat → Except Fault α}
    {raised : Fault} (failed : answer (made call.kind fire.calls) = .error raised) :
    ask call answer fire = .error raised ⟨fire.calls ++ [call], fire.audit⟩ := by
  rw [ask, failed]

@[simp] theorem note_run (line : String) :
    note line fire = .ok () ⟨fire.calls, fire.audit ++ [line]⟩ := rfl

@[simp] theorem sleep_run (seconds : Rat) :
    sleep seconds fire = .ok () ⟨fire.calls ++ [.sleep seconds], fire.audit⟩ := rfl

section Plans

variable {verdict : RunVerdict Value} {attempts : Int}

/-- The run is stuck or to be aborted. -/
def RunVerdict.Failing (verdict : RunVerdict Value) : Prop :=
  verdict.verdict = .stuck ∨ verdict.verdict = .abort

instance (verdict : RunVerdict Value) : Decidable verdict.Failing :=
  inferInstanceAs (Decidable (_ ∨ _))

/-- Nothing is planned for a healthy or suspicious run; a run that is to be aborted, has no
attempts left or is too old is brought before the board; else an attempt is planned. -/
theorem planFor_action (config : WatchdogConfig Value) (verdict : RunVerdict Value)
    (attempts : Int) : (planFor config verdict attempts).action =
      if verdict.verdict = .healthy ∨ verdict.verdict = .suspicious then .noop
      else if verdict.verdict = .abort ∨ attempts ≥ config.maxAttempts ∨
          verdict.ageMinutes ≥ config.thresholds.escalateMinutes then .escalateBoard
      else .releaseRestart := by
  rw [planFor, planRecovery]
  split
  · rfl
  · split
    · rfl
    · rfl

/-- One of three actions is planned. -/
theorem planFor_cases (config : WatchdogConfig Value) (verdict : RunVerdict Value)
    (attempts : Int) : (planFor config verdict attempts).action = .noop ∨
      (planFor config verdict attempts).action = .escalateBoard ∨
      (planFor config verdict attempts).action = .releaseRestart := by
  rw [planFor_action]
  split
  · exact .inl rfl
  · split
    · exact .inr (.inl rfl)
    · exact .inr (.inr rfl)

/-- An attempt is planned only with attempts left, and for a stuck run. -/
theorem planned_stuck (planned : (planFor config verdict attempts).action = .releaseRestart) :
    verdict.verdict = .stuck ∧ attempts < config.maxAttempts := by
  rw [planFor_action] at planned
  split at planned
  · cases planned
  · rename_i working
    split at planned
    · cases planned
    · rename_i within
      rw [not_or] at working within
      rw [not_or] at within
      refine ⟨?_, Int.not_le.mp within.2.1⟩
      cases kind : verdict.verdict with
      | healthy => exact absurd kind working.1
      | suspicious => exact absurd kind working.2
      | stuck => rfl
      | abort => exact absurd kind within.1

/-- Nothing is planned exactly for a run that is not failing. -/
theorem planFor_noop_iff :
    (planFor config verdict attempts).action = .noop ↔ ¬ verdict.Failing := by
  rw [planFor_action, RunVerdict.Failing]
  cases verdict.verdict with
  | healthy => simp
  | suspicious => simp
  | stuck =>
    simp only [reduceCtorEq, or_self, if_false, true_or, not_true_eq_false, iff_false]
    split
    · exact nofun
    · exact nofun
  | abort => simp

end Plans

/-- The calls of the wait before an attempt. -/
def pauseCalls (plan : RecoveryPlan Value) : List (Call Value) :=
  (plan.nextBackoffSeconds.filter (· ≠ 0)).toList.map fun seconds => .sleep seconds

/-- The calls of the release of an attempt. -/
def releaseCalls (owner : Value) (linkedId : Option Value) : List (Call Value) :=
  linkedId.toList.map fun issueId => .release issueId owner

/-- The calls of a release. -/
theorem made_releaseCalls (owner : Value) (linked : linkedId.isSome) :
    made .release (releaseCalls owner linkedId) = 1 := by
  cases linkedId with
  | none => cases linked
  | some issueId => rfl

/-- Without an issue there is nothing to release. -/
theorem made_releaseCalls_le (owner : Value) (linkedId : Option Value) :
    made .release (releaseCalls owner linkedId) ≤ 1 := by
  cases linkedId with
  | none => exact Nat.zero_le 1
  | some issueId => exact Nat.le_refl 1

/-- The wait before an attempt. -/
theorem backOff_run (plan : RecoveryPlan Value) (attempts : Int) (fire : Fire Value) :
    ∃ audit, backOff plan attempts fire = .ok () ⟨fire.calls ++ pauseCalls plan, audit⟩ := by
  rw [backOff, pauseCalls]
  cases plan.nextBackoffSeconds.filter (· ≠ 0) with
  | none => exact ⟨fire.audit, by simp⟩
  | some seconds => exact ⟨_, rfl⟩

/-- A wait is neither a release nor anything else that is counted. -/
theorem made_pauseCalls {kind : CallKind} (other : kind ≠ .sleep) (plan : RecoveryPlan Value) :
    made kind (pauseCalls plan) = 0 := by
  rw [made_eq_zero]
  intro call member
  obtain ⟨seconds, _, same⟩ := List.mem_map.mp member
  rw [← same]
  exact Ne.symm other

/-- The calls between an attempt's release and its probe. -/
def waiting (config : WatchdogConfig Value) : List (Call Value) :=
  [.invoke config.watchedAgentId, .sleep config.admitWaitSeconds]

/-- Waiting is an invocation and a pause. -/
theorem made_waiting {kind : CallKind} (config : WatchdogConfig Value)
    (uncounted : kind ≠ .invoke ∧ kind ≠ .sleep) : made kind (waiting config) = 0 := by
  rw [made_eq_zero]
  intro call member
  rcases List.mem_pair.mp member with same | same
  · rw [same]
    exact Ne.symm uncounted.1
  · rw [same]
    exact Ne.symm uncounted.2

/-- The calls of an attempt up to its release. -/
def releasing (config : WatchdogConfig Value) (owner : Value) (linkedId : Option Value)
    (current : RunVerdict Value) (attempts : Int) : List (Call Value) :=
  pauseCalls (planFor config current attempts) ++ releaseCalls owner linkedId

/-- Up to its release an attempt waits and releases. -/
theorem made_releasing {kind : CallKind} (uncounted : kind ≠ .release ∧ kind ≠ .sleep)
    (current : RunVerdict Value) (attempts : Int) :
    made kind (releasing config owner linkedId current attempts) = 0 := by
  rw [releasing, made_append, made_pauseCalls uncounted.2, Nat.zero_add, made_eq_zero]
  intro call member
  obtain ⟨issueId, _, same⟩ := List.mem_map.mp member
  rw [← same]
  exact Ne.symm uncounted.1

/-- Up to its release an attempt has one release at most. -/
theorem made_release_releasing (current : RunVerdict Value) (attempts : Int) :
    made .release (releasing config owner linkedId current attempts) =
      made .release (releaseCalls owner linkedId) := by
  rw [releasing, made_append, made_pauseCalls (by decide), Nat.zero_add]

/-- The owner of an attempt owns its release. -/
theorem owner_of_mem_releasing {current : RunVerdict Value} {attempts : Int}
    {issueId ownerId : Value}
    (member : .release issueId ownerId ∈ releasing config owner linkedId current attempts) :
    ownerId = owner := by
  rcases List.mem_append.mp member with paused | released
  · obtain ⟨seconds, _, same⟩ := List.mem_map.mp paused
    cases same
  · obtain ⟨linked, _, same⟩ := List.mem_map.mp released
    cases same
    rfl

section Release

variable [ToString Value] (owner issueId : Value) (fire : Fire Value)

/-- Nothing is released without an issue. -/
theorem release_skipped (ports : Ports Value) :
    ∃ audit, releaseLinked ports owner none fire =
      .ok false ⟨fire.calls ++ releaseCalls owner none, audit⟩ := by
  have skipped : ∃ audit, releaseLinked ports owner none fire = .ok false ⟨fire.calls, audit⟩ :=
    ⟨_, rfl⟩
  rw [releaseCalls, Option.toList_none, List.map_nil, List.append_nil]
  exact skipped

/-- A release that returns. -/
theorem release_returned (answer : ports.releaseIssue (made .release fire.calls) = .ok ()) :
    ∃ audit, releaseLinked ports owner (some issueId) fire =
      .ok false ⟨fire.calls ++ releaseCalls owner (some issueId), audit⟩ :=
  ⟨_, Exec.tryCatch_run_ok ((Exec.bind_run_ok (ask_run_ok answer) _).trans rfl)⟩

/-- A release that is forbidden. -/
theorem release_forbidden {message : String}
    (answer : ports.releaseIssue (made .release fire.calls) =
      .error (.releaseForbidden message)) :
    ∃ audit, releaseLinked ports owner (some issueId) fire =
      .ok true ⟨fire.calls ++ releaseCalls owner (some issueId), audit⟩ :=
  ⟨_, (Exec.tryCatch_run_error (Exec.bind_run_error (ask_run_error answer) _)).trans rfl⟩

/-- A release that raises anything else. -/
theorem release_raised {raised : Fault}
    (answer : ports.releaseIssue (made .release fire.calls) = .error raised)
    (unforbidden : ∀ message, raised ≠ .releaseForbidden message) :
    ∃ audit, releaseLinked ports owner (some issueId) fire =
      .error raised ⟨fire.calls ++ releaseCalls owner (some issueId), audit⟩ := by
  refine ⟨fire.audit, ?_⟩
  rw [releaseLinked, Exec.tryCatch_run_error (Exec.bind_run_error (ask_run_error answer) _)]
  cases raised with
  | releaseForbidden message => exact absurd rfl (unforbidden message)
  | recoveryAction message => rfl
  | other kind message => rfl

end Release

variable [BEq Value] [Truth Value]

/-- A probe shows that the agent has recovered: its run is cleared, the linked issue terminal, the
verdict healthy or the run superseded. -/
def LivenessProbe.Recovered (config : WatchdogConfig Value) (probe : LivenessProbe Value)
    (now : Rat) : Prop :=
  probe.run = none ∨ probe.linkedIssueIsTerminal = true ∨
    (∃ verdict, classifyProbe config probe now = some verdict ∧ verdict.verdict = .healthy) ∨
    ∃ run, probe.run = some run ∧ isSupersededByNewerBaseRun run probe.allRuns = true

/-- The verdict with which the loop goes on after a probe; none where the agent has recovered. -/
def nextVerdict (config : WatchdogConfig Value) (probe : LivenessProbe Value) (now : Rat) :
    Option (RunVerdict Value) :=
  match probe.run with
  | none => none
  | some run =>
    if probe.linkedIssueIsTerminal then none
    else (classifyProbe config probe now).filter fun verdict =>
      ¬ (verdict.verdict = .healthy ∨ isSupersededByNewerBaseRun run probe.allRuns)

/-- The loop is left after a probe that shows the agent recovered. -/
theorem nextVerdict_eq_none {probe : LivenessProbe Value} {now : Rat} :
    nextVerdict config probe now = none ↔ probe.Recovered config now := by
  rw [nextVerdict, LivenessProbe.Recovered, classifyProbe]
  cases probe.run with
  | none => simp
  | some run =>
    cases probe.linkedIssueIsTerminal with
    | true => simp
    | false => simp [or_iff_not_imp_left]

/-- The loop goes on with the verdict on the probe, which is not healthy. -/
theorem nextVerdict_some {probe : LivenessProbe Value} {now : Rat} {next : RunVerdict Value}
    (goesOn : nextVerdict config probe now = some next) :
    classifyProbe config probe now = some next ∧ next.verdict ≠ .healthy := by
  rw [nextVerdict] at goesOn
  cases held : probe.run with
  | none => simp [held] at goesOn
  | some run =>
    rw [held] at goesOn
    cases terminal : probe.linkedIssueIsTerminal with
    | true => simp [terminal] at goesOn
    | false =>
      simp only [terminal, Bool.false_eq_true, if_false, Option.filter_eq_some_iff,
        decide_eq_true_eq, not_or] at goesOn
      exact ⟨goesOn.1, goesOn.2.1⟩

/-- The loop is left, or goes on with the next verdict. -/
def turnEnd (attempts : Int) : Option (RunVerdict Value) → TurnEnd Value
  | none => .leave ⟨attempts, true, false⟩
  | some next => .goOn attempts next

/-- The loop goes on exactly with the next verdict. -/
theorem judgeProbe_run (config : WatchdogConfig Value) (attempts : Int) (current : RunVerdict Value)
    (probe : LivenessProbe Value) (now : Rat) (fire : Fire Value) :
    ∃ audit, judgeProbe config attempts current probe now fire =
      .ok (turnEnd attempts (nextVerdict config probe now)) ⟨fire.calls, audit⟩ := by
  rw [judgeProbe, nextVerdict, classifyProbe]
  cases probe.run with
  | none => exact ⟨_, rfl⟩
  | some run =>
    dsimp only
    cases probe.linkedIssueIsTerminal with
    | true => exact ⟨_, rfl⟩
    | false =>
      rw [if_neg Bool.false_ne_true, if_neg Bool.false_ne_true, Option.map_some,
        Option.filter_some]
      dsimp only
      split
      · rename_i settled
        rw [if_neg (by rw [decide_eq_true_iff, not_not]; exact settled)]
        exact ⟨_, rfl⟩
      · rename_i unsettled
        rw [if_pos (decide_eq_true_iff.mpr unsettled)]
        exact ⟨_, rfl⟩

/-- The release of an attempt returned, or there was nothing to release. -/
def Released (ports : Ports Value) (linkedId : Option Value) (turn : Nat) : Prop :=
  linkedId = none ∨ ports.releaseIssue turn = .ok ()

omit [BEq Value] [Truth Value] in
theorem Released.returned {ports : Ports Value} {linkedId : Option Value} {turn : Nat}
    (released : Released ports linkedId turn) (linked : linkedId.isSome) :
    ports.releaseIssue turn = .ok () := by
  rcases released with unlinked | returned
  · rw [unlinked] at linked
    cases linked
  · exact returned

/-- What the loop does in a turn: the calls that it makes, and how it ends. -/
inductive TurnDoes (config : WatchdogConfig Value) (ports : Ports Value) (owner : Value)
    (linkedId : Option Value) (prior : Int) (turn : Nat) (current : RunVerdict Value) :
    List (Call Value) → Except Fault (TurnEnd Value) → Prop
  /-- No attempt is planned. -/
  | stopped (unplanned : (planFor config current (prior + turn)).action ≠ .releaseRestart) :
    TurnDoes config ports owner linkedId prior turn current []
      (.ok (.leave ⟨prior + turn, false, false⟩))
  /-- The release is forbidden. -/
  | forbidden (planned : (planFor config current (prior + turn)).action = .releaseRestart)
    (linked : linkedId.isSome) (message : String)
    (refused : ports.releaseIssue turn = .error (.releaseForbidden message)) :
    TurnDoes config ports owner linkedId prior turn current
      (releasing config owner linkedId current (prior + turn))
      (.ok (.leave ⟨prior + turn + 1, false, true⟩))
  /-- The release raises. -/
  | unreleased (planned : (planFor config current (prior + turn)).action = .releaseRestart)
    (linked : linkedId.isSome) (raised : Fault)
    (failed : ports.releaseIssue turn = .error raised)
    (unforbidden : ∀ message, raised ≠ .releaseForbidden message) :
    TurnDoes config ports owner linkedId prior turn current
      (releasing config owner linkedId current (prior + turn)) (.error raised)
  /-- The invocation raises. -/
  | uninvoked (planned : (planFor config current (prior + turn)).action = .releaseRestart)
    (released : Released ports linkedId turn) (raised : Fault)
    (failed : ports.invokeHeartbeat turn = .error raised) :
    TurnDoes config ports owner linkedId prior turn current
      (releasing config owner linkedId current (prior + turn) ++ [.invoke config.watchedAgentId])
      (.error raised)
  /-- The probe raises. -/
  | unprobed (planned : (planFor config current (prior + turn)).action = .releaseRestart)
    (released : Released ports linkedId turn) (invoked : ports.invokeHeartbeat turn = .ok ())
    (raised : Fault) (failed : ports.probe (turn + 1) = .error raised) :
    TurnDoes config ports owner linkedId prior turn current
      (releasing config owner linkedId current (prior + turn) ++
        (waiting config ++ [.probe]))
      (.error raised)
  /-- The agent has recovered. -/
  | recovered (planned : (planFor config current (prior + turn)).action = .releaseRestart)
    (released : Released ports linkedId turn) (invoked : ports.invokeHeartbeat turn = .ok ())
    (probe : LivenessProbe Value) (probed : ports.probe (turn + 1) = .ok probe)
    (shows : nextVerdict config probe (ports.clock (turn + 1)) = none) :
    TurnDoes config ports owner linkedId prior turn current
      (releasing config owner linkedId current (prior + turn) ++
        (waiting config ++ [.probe, .clock]))
      (.ok (.leave ⟨prior + turn + 1, true, false⟩))
  /-- The agent has not recovered. -/
  | again (planned : (planFor config current (prior + turn)).action = .releaseRestart)
    (released : Released ports linkedId turn) (invoked : ports.invokeHeartbeat turn = .ok ())
    (probe : LivenessProbe Value) (probed : ports.probe (turn + 1) = .ok probe)
    (next : RunVerdict Value)
    (shows : nextVerdict config probe (ports.clock (turn + 1)) = some next) :
    TurnDoes config ports owner linkedId prior turn current
      (releasing config owner linkedId current (prior + turn) ++
        (waiting config ++ [.probe, .clock]))
      (.ok (.goOn (prior + turn + 1) next))

/-- The calls made before a turn. -/
structure Before (linkedId : Option Value) (turn : Nat) (calls : List (Call Value)) : Prop where
  /-- A probe for each turn and the first. -/
  probes : made .probe calls = turn + 1
  /-- A clock reading for each probe. -/
  clocks : made .clock calls = turn + 1
  /-- A release for each turn, where there is something to release. -/
  releases : linkedId.isSome → made .release calls = turn
  /-- An invocation for each turn. -/
  invokes : made .invoke calls = turn
  /-- The board has not been asked. -/
  approvals : made .approval calls = 0

/-- A turn after which the loop goes on makes one call of each kind, up to the board. -/
theorem Before.again {prior attempts : Int} {turn : Nat} {current next : RunVerdict Value}
    {calls more : List (Call Value)}
    (before : Before linkedId turn calls)
    (does : TurnDoes config ports owner linkedId prior turn current more
      (.ok (.goOn attempts next))) : Before linkedId (turn + 1) (calls ++ more) := by
  cases does with
  | again planned released invoked probe probed next shows =>
    have counted (kind : CallKind) (uncounted : kind ≠ .release ∧ kind ≠ .sleep) :
        made kind (calls ++ (releasing config owner linkedId current (prior + turn) ++
          (waiting config ++ [.probe, .clock]))) =
            made kind calls + made kind (waiting config ++ [.probe, .clock]) := by
      rw [made_append, made_append, made_releasing uncounted, Nat.zero_add]
    constructor
    · rw [counted .probe (by decide), before.probes]
      rfl
    · rw [counted .clock (by decide), before.clocks]
      rfl
    · intro linked
      have rest : made .release (waiting config ++ [.probe, .clock]) = 0 := rfl
      rw [made_append, made_append, rest, releasing, made_append, made_pauseCalls (by decide),
        made_releaseCalls owner linked, before.releases linked]
    · rw [counted .invoke (by decide), before.invokes]
      rfl
    · rw [counted .approval (by decide), before.approvals]
      rfl

section Effects

variable {prior : Int} {turn : Nat} {current : RunVerdict Value} {more : List (Call Value)}
  {result : Except Fault (TurnEnd Value)}

/-- A turn makes no call, or it was planned, and releases and then makes calls of other kinds, with
one invocation at most. -/
theorem TurnDoes.calls (does : TurnDoes config ports owner linkedId prior turn current more
    result) :
    more = [] ∨ (planFor config current (prior + turn)).action = .releaseRestart ∧ ∃ rest,
      more = releasing config owner linkedId current (prior + turn) ++ rest ∧
      made .release rest = 0 ∧ made .invoke rest ≤ 1 ∧ made .approval rest = 0 := by
  have none : made .release ([] : List (Call Value)) = 0 ∧
      made .invoke ([] : List (Call Value)) ≤ 1 ∧ made .approval ([] : List (Call Value)) = 0 :=
    ⟨rfl, Nat.zero_le 1, rfl⟩
  cases does with
  | stopped unplanned => exact .inl rfl
  | forbidden planned => exact .inr ⟨planned, [], (List.append_nil _).symm, none⟩
  | unreleased planned => exact .inr ⟨planned, [], (List.append_nil _).symm, none⟩
  | uninvoked planned => exact .inr ⟨planned, _, rfl, rfl, Nat.le_refl 1, rfl⟩
  | unprobed planned => exact .inr ⟨planned, _, rfl, rfl, Nat.le_refl 1, rfl⟩
  | recovered planned => exact .inr ⟨planned, _, rfl, rfl, Nat.le_refl 1, rfl⟩
  | again planned => exact .inr ⟨planned, _, rfl, rfl, Nat.le_refl 1, rfl⟩

end Effects

/-- How a loop ends: its last turn leaves it, or raises. -/
inductive LoopRun (config : WatchdogConfig Value) (ports : Ports Value) (owner : Value)
    (linkedId : Option Value) (prior : Int) (turn : Nat) (current : RunVerdict Value)
    (calls more : List (Call Value)) :
    EStateM.Result Fault (Fire Value) (Option LoopEnd) → Prop
  /-- The loop is left. -/
  | left (state : LoopEnd) (audit : List String)
    (does : TurnDoes config ports owner linkedId prior turn current more (.ok (.leave state))) :
    LoopRun config ports owner linkedId prior turn current calls more
      (.ok (some state) ⟨calls ++ more, audit⟩)
  /-- A call raises. -/
  | failed (raised : Fault) (audit : List String)
    (does : TurnDoes config ports owner linkedId prior turn current more (.error raised)) :
    LoopRun config ports owner linkedId prior turn current calls more
      (.error raised ⟨calls ++ more, audit⟩)

variable [ToString Value]

section Redetection

variable (config : WatchdogConfig Value) (attempts : Int) (current : RunVerdict Value)
  (fire : Fire Value) {raised : Fault} {probe : LivenessProbe Value}

/-- An invocation that raises. -/
theorem invoke_raised
    (answer : ports.invokeHeartbeat (made .invoke fire.calls) = .error raised) :
    ∃ audit, invokeAndRedetect config ports attempts current fire =
      .error raised ⟨fire.calls ++ [.invoke config.watchedAgentId], audit⟩ :=
  ⟨_, Exec.bind_run_error (ask_run_error answer) _⟩

/-- After an invocation the fire waits. -/
theorem invoke_returned
    (answer : ports.invokeHeartbeat (made .invoke fire.calls) = .ok ()) :
    ∃ audit, invokeAndRedetect config ports attempts current fire =
      (do
        let probe ← ask .probe ports.probe
        let now ← ask .clock fun number => .ok (ports.clock number)
        judgeProbe config attempts current probe now)
      ⟨fire.calls ++ waiting config, audit⟩ := by
  have joined : fire.calls ++ waiting config =
      fire.calls ++ [.invoke config.watchedAgentId] ++ [.sleep config.admitWaitSeconds] :=
    List.append_cons _ _ _
  rw [joined]
  exact ⟨_, (Exec.bind_run_ok (ask_run_ok answer) _).trans rfl⟩

/-- A probe that raises. -/
theorem probe_raised (invoked : ports.invokeHeartbeat (made .invoke fire.calls) = .ok ())
    (answer : ports.probe (made .probe fire.calls) = .error raised) :
    ∃ audit, invokeAndRedetect config ports attempts current fire =
      .error raised ⟨fire.calls ++ (waiting config ++ [.probe]), audit⟩ := by
  obtain ⟨audit, waited⟩ := invoke_returned config attempts current fire invoked
  have same : made .probe (fire.calls ++ waiting config) = made .probe fire.calls := by
    rw [made_append, made_waiting config (by decide), Nat.add_zero]
  rw [← same] at answer
  rw [← List.append_assoc]
  exact ⟨audit, waited.trans (Exec.bind_run_error (ask_run_error answer) _)⟩

/-- A probe that returns. -/
theorem probe_returned (invoked : ports.invokeHeartbeat (made .invoke fire.calls) = .ok ())
    (answer : ports.probe (made .probe fire.calls) = .ok probe) :
    ∃ audit, invokeAndRedetect config ports attempts current fire =
      .ok (turnEnd attempts
          (nextVerdict config probe (ports.clock (made .clock fire.calls))))
        ⟨fire.calls ++ (waiting config ++ [.probe, .clock]), audit⟩ := by
  obtain ⟨audit, waited⟩ := invoke_returned config attempts current fire invoked
  have same : made .probe (fire.calls ++ waiting config) = made .probe fire.calls := by
    rw [made_append, made_waiting config (by decide), Nat.add_zero]
  rw [← same] at answer
  have probed : ask .probe ports.probe ⟨fire.calls ++ waiting config, audit⟩ =
      .ok probe ⟨fire.calls ++ waiting config ++ [.probe], audit⟩ := ask_run_ok answer
  have now : made .clock (fire.calls ++ waiting config ++ [.probe]) = made .clock fire.calls := by
    rw [made_append, made_append, made_waiting config (by decide)]
    rfl
  have read : ask .clock (fun number => .ok (ports.clock number))
      ⟨fire.calls ++ waiting config ++ [.probe], audit⟩ =
        .ok (ports.clock (made .clock fire.calls))
          ⟨fire.calls ++ waiting config ++ [.probe] ++ [.clock], audit⟩ := by
    rw [← now]
    exact ask_run_ok rfl
  obtain ⟨last, judged⟩ := judgeProbe_run config attempts current probe
    (ports.clock (made .clock fire.calls))
    ⟨fire.calls ++ waiting config ++ [.probe] ++ [.clock], audit⟩
  refine ⟨last, ?_⟩
  rw [waited, Exec.bind_run_ok probed, Exec.bind_run_ok read, judged]
  simp only [List.append_assoc, List.cons_append, List.nil_append]

end Redetection

section Turns

variable {prior : Int} {turn : Nat} {current : RunVerdict Value}

/-- The turn after a release that returned or was skipped. -/
theorem released_run {calls : List (Call Value)} {audit : List String}
    (before : Before linkedId turn calls)
    (planned : (planFor config current (prior + turn)).action = .releaseRestart)
    (released : Released ports linkedId turn) :
    ∃ more last result, TurnDoes config ports owner linkedId prior turn current more result ∧
      invokeAndRedetect config ports (prior + turn + 1) current
          ⟨calls ++ releasing config owner linkedId current (prior + turn), audit⟩ =
        Exec.ofExcept result ⟨calls ++ more, last⟩ := by
  have counted (kind : CallKind) (uncounted : kind ≠ .release ∧ kind ≠ .sleep) :
      made kind (calls ++ releasing config owner linkedId current (prior + turn)) =
        made kind calls := by
    rw [made_append, made_releasing uncounted, Nat.add_zero]
  have invokes := (counted .invoke (by decide)).trans before.invokes
  have probes := (counted .probe (by decide)).trans before.probes
  have clocks := (counted .clock (by decide)).trans before.clocks
  cases invocation : ports.invokeHeartbeat turn with
  | error raised =>
    rw [← invokes] at invocation
    obtain ⟨last, run⟩ := invoke_raised config (prior + turn + 1) current ⟨_, audit⟩ invocation
    rw [List.append_assoc] at run
    rw [invokes] at invocation
    exact ⟨_, last, .error raised, .uninvoked planned released raised invocation, run⟩
  | ok value =>
    have invoked := invocation
    rw [← invokes] at invoked
    cases probing : ports.probe (turn + 1) with
    | error raised =>
      rw [← probes] at probing
      obtain ⟨last, run⟩ :=
        probe_raised config (prior + turn + 1) current ⟨_, audit⟩ invoked probing
      rw [List.append_assoc] at run
      rw [probes] at probing
      exact ⟨_, last, .error raised, .unprobed planned released invocation raised probing, run⟩
    | ok probe =>
      rw [← probes] at probing
      obtain ⟨last, run⟩ :=
        probe_returned config (prior + turn + 1) current ⟨_, audit⟩ invoked probing
      rw [List.append_assoc, clocks] at run
      rw [probes] at probing
      cases shows : nextVerdict config probe (ports.clock (turn + 1)) with
      | none =>
        rw [shows] at run
        exact ⟨_, last, .ok _, .recovered planned released invocation probe probing shows, run⟩
      | some next =>
        rw [shows] at run
        exact ⟨_, last, .ok _, .again planned released invocation probe probing next shows, run⟩

/-- The turn in which no attempt is planned. -/
theorem stopped_run (config : WatchdogConfig Value) (ports : Ports Value) (owner : Value)
    (linkedId : Option Value) (fire : Fire Value) {attempts : Int}
    (unplanned : (planFor config current attempts).action ≠ .releaseRestart) :
    ∃ audit, loopTurn config ports owner linkedId attempts current fire =
      .ok (.leave ⟨attempts, false, false⟩) ⟨fire.calls, audit⟩ := by
  rw [loopTurn, if_pos unplanned]
  exact ⟨_, rfl⟩

/-- A turn does one of the things that a turn can do. -/
theorem loopTurn_run (config : WatchdogConfig Value) (ports : Ports Value) (owner : Value)
    (prior : Int) (before : Before linkedId turn fire.calls) (current : RunVerdict Value) :
    ∃ more audit result, TurnDoes config ports owner linkedId prior turn current more result ∧
      loopTurn config ports owner linkedId (prior + turn) current fire =
        Exec.ofExcept result ⟨fire.calls ++ more, audit⟩ := by
  by_cases planned : (planFor config current (prior + turn)).action = .releaseRestart
  · rw [loopTurn, if_neg (not_not.mpr planned)]
    obtain ⟨paused, backedOff⟩ := backOff_run (planFor config current (prior + turn)) (prior + turn)
      fire
    rw [Exec.bind_run_ok backedOff]
    have all : fire.calls ++ pauseCalls (planFor config current (prior + turn)) ++
        releaseCalls owner linkedId =
          fire.calls ++ releasing config owner linkedId current (prior + turn) :=
      List.append_assoc _ _ _
    have counted : linkedId.isSome →
        made .release (fire.calls ++ pauseCalls (planFor config current (prior + turn))) = turn := by
      intro linked
      rw [made_append, made_pauseCalls (by decide), Nat.add_zero]
      exact before.releases linked
    cases linkedId with
    | none =>
      obtain ⟨audit, skipped⟩ := release_skipped owner
        ⟨fire.calls ++ pauseCalls (planFor config current (prior + turn)), paused⟩ ports
      rw [all] at skipped
      rw [Exec.bind_run_ok skipped]
      exact released_run before planned (.inl rfl)
    | some issueId =>
      cases answer : ports.releaseIssue turn with
      | ok value =>
        have returned := answer
        rw [← counted rfl] at answer
        obtain ⟨audit, run⟩ := release_returned owner issueId ⟨_, paused⟩ answer
        rw [all] at run
        rw [Exec.bind_run_ok run]
        exact released_run before planned (.inr returned)
      | error raised =>
        have refused := answer
        rw [← counted rfl] at answer
        by_cases forbidden : ∃ message, raised = .releaseForbidden message
        · obtain ⟨message, rfl⟩ := forbidden
          obtain ⟨audit, run⟩ := release_forbidden owner issueId ⟨_, paused⟩ answer
          rw [all] at run
          rw [Exec.bind_run_ok run]
          exact ⟨_, audit, .ok _, .forbidden planned rfl message refused, rfl⟩
        · have unforbidden (message : String) : raised ≠ .releaseForbidden message :=
            fun same => forbidden ⟨message, same⟩
          obtain ⟨audit, run⟩ := release_raised owner issueId ⟨_, paused⟩ answer unforbidden
          rw [all] at run
          rw [Exec.bind_run_error run]
          exact ⟨_, audit, .error raised,
            .unreleased planned rfl raised refused unforbidden, rfl⟩
  · obtain ⟨audit, stopped⟩ := stopped_run config ports owner linkedId fire planned
    refine ⟨[], audit, .ok _, .stopped planned, ?_⟩
    rw [stopped, List.append_nil]
    rfl

/-- With more turns than attempts are left the loop ends, in a turn before which the invariant
holds if the turns keep it. -/
theorem loop_rule (Inv : Nat → RunVerdict Value → List (Call Value) → Prop)
    (kept : ∀ turn current calls more next, Before linkedId turn calls → Inv turn current calls →
      TurnDoes config ports owner linkedId prior turn current more
        (.ok (.goOn (prior + turn + 1) next)) → Inv (turn + 1) next (calls ++ more)) :
    ∀ (turns turn : Nat) (current : RunVerdict Value) (fire : Fire Value),
      (config.maxAttempts - (prior + turn)).toNat < turns → Before linkedId turn fire.calls →
      Inv turn current fire.calls →
      ∃ last latest calls more, Before linkedId last calls ∧ Inv last latest calls ∧
        LoopRun config ports owner linkedId prior last latest calls more
          (loop config ports owner linkedId turns (prior + turn) current fire) := by
  intro turns
  induction turns with
  | zero =>
    intro turn current fire enough
    exact absurd enough (Nat.not_lt_zero _)
  | succ turns ih =>
    intro turn current fire enough before inv
    obtain ⟨more, audit, result, does, run⟩ := loopTurn_run config ports owner prior before current
    rw [loop]
    cases result with
    | error raised =>
      rw [Exec.bind_run_error run]
      exact ⟨turn, current, fire.calls, more, before, inv, .failed raised audit does⟩
    | ok ended =>
      rw [Exec.bind_run_ok run]
      cases ended with
      | leave state =>
        exact ⟨turn, current, fire.calls, more, before, inv, .left state audit does⟩
      | goOn attempts next =>
        have later := before.again does
        cases does with
        | again planned released invoked probe probed next shows =>
          have left := (planned_stuck planned).2
          have same : prior + turn + 1 = prior + (turn + 1 : Nat) := by omega
          have goesOn := kept turn current fire.calls _ next before inv
            (.again planned released invoked probe probed next shows)
          dsimp only
          rw [same]
          exact ih (turn + 1) next ⟨_, audit⟩ (by omega) later goesOn

end Turns

end FlockOs.Liveness
