import FlockOs.Verif.WatchdogFire

/-!
# Safety of the watchdog

A fire whose actions raise nothing but a forbidden release returns. It stays within its budget of
attempts, never has the watched agent recover itself, stops acting at a forbidden release, asks the
board exactly when it escalates, and reports a recovery only that a probe has shown.
-/

namespace FlockOs.Liveness

open Lib

variable {Value : Type} {config : WatchdogConfig Value} {ports : Ports Value} {owner : Value}
  {linkedId : Option Value} {prior : Int} {turn : Nat} {calls more : List (Call Value)}

/-- Probes return, and no action raises, but for forbidden releases. -/
structure Ports.OnlyForbidden (ports : Ports Value) : Prop where
  /-- Every probe returns. -/
  probes : ∀ number, ∃ probe, ports.probe number = .ok probe
  /-- Every release returns or is forbidden. -/
  releases : ∀ number, ports.releaseIssue number = .ok () ∨
    ∃ message, ports.releaseIssue number = .error (.releaseForbidden message)
  /-- Every invocation returns. -/
  invokes : ∀ number, ports.invokeHeartbeat number = .ok ()
  /-- The board's approval is opened. -/
  approvals : ∀ number, ∃ approval, ports.createBoardApproval number = .ok approval
  /-- Every comment is posted. -/
  comments : ∀ number, ports.postComment number = .ok ()

/-- The release of this number is forbidden. -/
def ForbiddenAt (ports : Ports Value) (number : Nat) : Prop :=
  ∃ message, ports.releaseIssue number = .error (.releaseForbidden message)

/-- A call of a kind that is not among the calls is none of them. -/
theorem not_mem_of_made {call : Call Value} (none : made call.kind calls = 0) : call ∉ calls :=
  fun member => made_eq_zero.mp none call member rfl

/-- The release of an attempt is the one with the number of its turn. -/
theorem made_releasing_linked (before : Before linkedId turn calls)
    {current : RunVerdict Value} {attempts : Int} {number : Nat}
    (later : made .release calls ≤ number)
    (below : number < made .release calls +
      made .release (releasing config owner linkedId current attempts)) :
    linkedId.isSome ∧ number = turn := by
  rw [made_release_releasing] at below
  cases linkedId with
  | none => exact absurd below (Nat.not_lt.mpr later)
  | some issueId =>
    have counted := before.releases rfl
    have one := made_releaseCalls_le owner (some issueId)
    exact ⟨rfl, by omega⟩

/-- A fire that is closed asks the board once unless the agent has recovered. -/
theorem Closing.counts {state : LoopEnd} {closing : List (Call Value)}
    (closes : Closing state closing) : made .release closing = 0 ∧ made .invoke closing = 0 ∧
      made .approval closing = if state.action = .escalateBoard then 1 else 0 := by
  rw [Closing] at closes
  rw [LoopEnd.action]
  split at closes
  · rename_i recovered
    rw [if_pos recovered]
    exact ⟨closes.made (by decide), closes.made (by decide), closes.made (by decide)⟩
  · rename_i unrecovered
    obtain ⟨request, comments, only, same⟩ := closes
    rw [if_neg unrecovered, same, made_cons, made_cons, made_cons, only.made (by decide),
      only.made (by decide), only.made (by decide)]
    exact ⟨rfl, rfl, rfl⟩

/-- No exception leaves a fire whose actions raise nothing but a forbidden release. -/
theorem Ports.OnlyForbidden.caught (quiet : ports.OnlyForbidden) (raised : Fault) :
    ¬ Uncaught ports raised := by
  rintro ⟨_, ⟨number, asked⟩ | ⟨number, posted⟩⟩
  · obtain ⟨approval, opened⟩ := quiet.approvals number
    rw [opened] at asked
    cases asked
  · rw [quiet.comments number] at posted
    cases posted

variable [BEq Value] [Truth Value] {current : RunVerdict Value}

/-- What holds of a fire that returns. -/
structure Safe (config : WatchdogConfig Value) (ports : Ports Value) (prior : Int)
    (outcome : WatchdogOutcome Value) (calls : List (Call Value)) : Prop where
  /-- The releases are within the budget. -/
  releases : (made .release calls : Int) ≤ max 0 (config.maxAttempts - prior)
  /-- The invocations are within the budget. -/
  invokes : (made .invoke calls : Int) ≤ max 0 (config.maxAttempts - prior)
  /-- The watched agent owns no release. -/
  owners : ∀ issueId ownerId, .release issueId ownerId ∈ calls →
    (ownerId == config.watchedAgentId) = false
  /-- Nothing is released or invoked after a forbidden release. -/
  halts : ∀ before issueId ownerId after, calls = before ++ .release issueId ownerId :: after →
    ForbiddenAt ports (made .release before) →
      made .release after = 0 ∧ made .invoke after = 0
  /-- The board is asked once when the fire escalates, and never else. -/
  approvals : made .approval calls = if outcome.action = .escalateBoard then 1 else 0
  /-- A recovery was shown by a probe after an invocation. -/
  recovered : outcome.action = .recovered → ∃ before after probe,
    calls = before ++ .probe :: after ∧ 0 < made .invoke before ∧
      ports.probe (made .probe before) = .ok probe ∧
      probe.Recovered config (ports.clock (made .clock before))

/-- What holds before every turn of a loop that releases in the name of an owner. -/
structure Steady (config : WatchdogConfig Value) (ports : Ports Value) (prior : Int)
    (owner : Value) (turn : Nat) (calls : List (Call Value)) : Prop where
  /-- The turns are within the budget. -/
  turns : (turn : Int) ≤ max 0 (config.maxAttempts - prior)
  /-- There was at most one release in each turn. -/
  releases : made .release calls ≤ turn
  /-- The owner owns every release. -/
  owners : ∀ issueId ownerId, .release issueId ownerId ∈ calls → ownerId = owner
  /-- No release was forbidden. -/
  granted : ∀ number < made .release calls, ports.releaseIssue number = .ok ()

/-- A turn releases and invokes once at most, and does not ask the board. -/
theorem TurnDoes.bounded {result : Except Fault (TurnEnd Value)}
    (does : TurnDoes config ports owner linkedId prior turn current more result) :
    made .release more ≤ 1 ∧ made .invoke more ≤ 1 ∧ made .approval more = 0 := by
  rcases does.calls with rfl | ⟨_, rest, rfl, unreleased, invoked, unasked⟩
  · exact ⟨Nat.zero_le 1, Nat.zero_le 1, rfl⟩
  · rw [made_append, made_append, made_append, made_release_releasing,
      made_releasing (by decide), made_releasing (by decide), unreleased, unasked]
    refine ⟨made_releaseCalls_le owner linkedId, ?_, rfl⟩
    rw [Nat.zero_add]
    exact invoked

/-- The owner of the loop owns the releases of a turn. -/
theorem TurnDoes.owners {result : Except Fault (TurnEnd Value)}
    (does : TurnDoes config ports owner linkedId prior turn current more result)
    {issueId ownerId : Value} (member : .release issueId ownerId ∈ more) : ownerId = owner := by
  rcases does.calls with rfl | ⟨_, rest, rfl, unreleased, _⟩
  · cases member
  · rcases List.mem_append.mp member with released | later
    · exact owner_of_mem_releasing released
    · exact absurd later (not_mem_of_made unreleased)

/-- The calls of a turn are within the budget. -/
theorem Steady.within {result : Except Fault (TurnEnd Value)}
    (steady : Steady config ports prior owner turn calls)
    (does : TurnDoes config ports owner linkedId prior turn current more result) :
    ((turn + made .release more : Nat) : Int) ≤ max 0 (config.maxAttempts - prior) ∧
      ((turn + made .invoke more : Nat) : Int) ≤ max 0 (config.maxAttempts - prior) := by
  have turns := steady.turns
  obtain ⟨releases, invokes, _⟩ := does.bounded
  rcases does.calls with rfl | ⟨planned, _⟩
  · exact ⟨turns, turns⟩
  · have left := (planned_stuck planned).2
    constructor
    · omega
    · omega

/-- A turn after which the loop goes on leaves it steady. -/
theorem Steady.again {attempts : Int} {next : RunVerdict Value}
    (steady : Steady config ports prior owner turn calls) (before : Before linkedId turn calls)
    (does : TurnDoes config ports owner linkedId prior turn current more
      (.ok (.goOn attempts next))) :
    Steady config ports prior owner (turn + 1) (calls ++ more) := by
  have bounded := does.bounded
  have turns := steady.turns
  have releases := steady.releases
  have owners (issueId ownerId : Value) (member : .release issueId ownerId ∈ more) :
      ownerId = owner := does.owners member
  cases does with
  | again planned released invoked probe probed next shows =>
    have left := (planned_stuck planned).2
    refine ⟨by omega, ?_, ?_, ?_⟩
    · rw [made_append]
      omega
    · intro issueId ownerId member
      rcases List.mem_append.mp member with earlier | now
      · exact steady.owners issueId ownerId earlier
      · exact owners issueId ownerId now
    · intro number below
      by_cases earlier : number < made .release calls
      · exact steady.granted number earlier
      · have rest : made .release (waiting config ++ [.probe, .clock]) = 0 := rfl
        rw [made_append, made_append, rest] at below
        obtain ⟨linked, same⟩ := made_releasing_linked before (Nat.not_lt.mp earlier) below
        rw [same]
        exact released.returned linked

/-- After a forbidden release a fire neither releases nor invokes. -/
theorem Steady.halts {state : LoopEnd} {closing : List (Call Value)}
    (steady : Steady config ports prior owner turn calls) (before : Before linkedId turn calls)
    (does : TurnDoes config ports owner linkedId prior turn current more (.ok (.leave state)))
    (quiet : made .release closing = 0 ∧ made .invoke closing = 0)
    {first after : List (Call Value)} {issueId ownerId : Value}
    (split : calls ++ more ++ closing = first ++ .release issueId ownerId :: after)
    (forbidden : ForbiddenAt ports (made .release first)) :
    made .release after = 0 ∧ made .invoke after = 0 := by
  obtain ⟨message, refused⟩ := forbidden
  -- The releases before the turn were granted, so this one is a call of the turn.
  have later : made .release calls ≤ made .release first := by
    by_contra earlier
    have granted := steady.granted _ (Nat.not_le.mp earlier)
    rw [refused] at granted
    cases granted
  obtain ⟨middle, same, rest⟩ : ∃ middle, first = calls ++ middle ∧
      more ++ closing = middle ++ .release issueId ownerId :: after := by
    rw [List.append_assoc] at split
    rcases split_of_append split with ⟨behind, earlier⟩ | within
    · rw [earlier, made_append, made_cons, Call.kind, if_pos rfl] at later
      omega
    · exact within
  have releases := congrArg (made .release) rest
  have invokes := congrArg (made .invoke) rest
  have bounded := does.bounded.1
  simp only [made_append, made_cons, Call.kind, if_true, reduceCtorEq, if_false, quiet.1,
    quiet.2] at releases invokes
  refine ⟨by omega, ?_⟩
  have number : made .release first = made .release calls := by
    rw [same, made_append]
    omega
  cases does with
  | stopped unplanned =>
    rw [made_nil] at releases
    omega
  | forbidden planned linked message refused =>
    rw [made_releasing (by decide)] at invokes
    omega
  | recovered planned released invoked probe probed shows =>
    have none : made .release (waiting config ++ [.probe, .clock]) = 0 := rfl
    rw [made_append, none] at releases
    have below : made .release calls < made .release calls +
        made .release (releasing config owner linkedId current (prior + turn)) := by omega
    obtain ⟨linked, here⟩ := made_releasing_linked before (Nat.le_refl _) below
    rw [number, here] at refused
    rw [released.returned linked] at refused
    cases refused

/-- A recovery is reported after the probe that showed it. -/
theorem Before.shown {state : LoopEnd} (before : Before linkedId turn calls)
    (does : TurnDoes config ports owner linkedId prior turn current more (.ok (.leave state)))
    (recovered : state.recovered = true) (closing : List (Call Value)) :
    ∃ first after probe, calls ++ more ++ closing = first ++ .probe :: after ∧
      0 < made .invoke first ∧ ports.probe (made .probe first) = .ok probe ∧
      probe.Recovered config (ports.clock (made .clock first)) := by
  cases does with
  | stopped unplanned => cases recovered
  | forbidden planned linked message refused => cases recovered
  | recovered planned released invoked probe probed shows =>
    have counted (kind : CallKind) (uncounted : kind ≠ .release ∧ kind ≠ .sleep) :
        made kind (calls ++ releasing config owner linkedId current (prior + turn) ++
          waiting config) = made kind calls + made kind (waiting config) := by
      rw [made_append, made_append, made_releasing uncounted, Nat.add_zero]
    refine ⟨calls ++ releasing config owner linkedId current (prior + turn) ++ waiting config,
      .clock :: closing, probe, ?_, ?_, ?_, ?_⟩
    · simp only [List.append_assoc, List.cons_append, List.nil_append]
    · rw [counted .invoke (by decide)]
      exact Nat.succ_pos _
    · rw [counted .probe (by decide), before.probes]
      exact probed
    · rw [counted .clock (by decide), before.clocks]
      exact nextVerdict_eq_none.mp shows

/-- A fire that makes no attempt is safe. -/
theorem safe_of_idle {outcome : WatchdogOutcome Value} {closing : List (Call Value)}
    (unreleased : made .release closing = 0) (uninvoked : made .invoke closing = 0)
    (asked : made .approval closing = if outcome.action = .escalateBoard then 1 else 0)
    (unrecovered : outcome.action ≠ .recovered) :
    Safe config ports prior outcome ([.clock, .probe] ++ closing) := by
  have none : made .release ([.clock, .probe] ++ closing) = 0 := by
    rw [made_append, unreleased]
    rfl
  constructor
  · rw [none]
    exact Int.le_max_left 0 _
  · rw [made_append, uninvoked]
    exact Int.le_max_left 0 _
  · intro issueId ownerId member
    exact absurd member (not_mem_of_made none)
  · intro before issueId ownerId after split forbidden
    have member : .release issueId ownerId ∈ [.clock, .probe] ++ closing := by
      rw [split]
      exact List.mem_append_right before List.mem_cons_self
    exact absurd member (not_mem_of_made none)
  · rw [made_append, asked]
    exact Nat.zero_add _
  · intro recovered
    exact absurd recovered unrecovered

/-- A fire whose loop was left is safe. -/
theorem Steady.safe {state : LoopEnd} {closing : List (Call Value)}
    {outcome : WatchdogOutcome Value} (steady : Steady config ports prior owner turn calls)
    (before : Before linkedId turn calls)
    (does : TurnDoes config ports owner linkedId prior turn current more (.ok (.leave state)))
    (safe : (owner == config.watchedAgentId) = false) (closes : Closing state closing)
    (same : outcome.action = state.action) :
    Safe config ports prior outcome (calls ++ more ++ closing) := by
  obtain ⟨unreleased, uninvoked, asked⟩ := closes.counts
  obtain ⟨_, _, unasked⟩ := does.bounded
  have within := steady.within does
  have releases := steady.releases
  have invokes := before.invokes
  constructor
  · rw [made_append, made_append, unreleased]
    omega
  · rw [made_append, made_append, uninvoked]
    omega
  · intro issueId ownerId member
    rcases List.mem_append.mp member with acted | closed
    · rcases List.mem_append.mp acted with earlier | now
      · rw [steady.owners issueId ownerId earlier]
        exact safe
      · rw [does.owners now]
        exact safe
    · exact absurd closed (not_mem_of_made unreleased)
  · intro first issueId ownerId after split forbidden
    exact steady.halts before does ⟨unreleased, uninvoked⟩ split forbidden
  · rw [made_append, made_append, before.approvals, unasked, asked, same]
    exact Nat.zero_add _
  · intro recovered
    refine before.shown does ?_ closing
    rw [same, LoopEnd.action] at recovered
    by_contra unrecovered
    rw [if_neg unrecovered] at recovered
    cases recovered

/-- No turn raises where the actions raise nothing but a forbidden release. -/
theorem Ports.OnlyForbidden.turns (quiet : ports.OnlyForbidden) (raised : Fault) :
    ¬ TurnDoes config ports owner linkedId prior turn current more (.error raised) := by
  intro does
  cases does with
  | unreleased planned linked raised failed unforbidden =>
    rcases quiet.releases turn with returned | ⟨message, refused⟩
    · rw [returned] at failed
      cases failed
    · rw [refused] at failed
      cases failed
      exact unforbidden message rfl
  | uninvoked planned released raised failed =>
    rw [quiet.invokes turn] at failed
    cases failed
  | unprobed planned released invoked raised failed =>
    obtain ⟨probe, probed⟩ := quiet.probes (turn + 1)
    rw [probed] at failed
    cases failed

/-- A fire whose actions raise nothing but a forbidden release ends, whatever its probes and clock
show, and has acted safely. -/
theorem fire_safe [ToString Value] (config : WatchdogConfig Value) (ports : Ports Value)
    (prior : Int) (dryRun : Bool) (quiet : ports.OnlyForbidden) (turns : Nat)
    (enough : (config.maxAttempts - prior).toNat < turns) :
    ∃ outcome fire, runWatchdog config ports turns prior dryRun {} = .ok (some outcome) fire ∧
      Safe config ports prior outcome fire.calls := by
  have run := fire_rule config ports prior dryRun enough
    (fun _ owner turn _ calls => Steady config ports prior owner turn calls)
    (fun _ _ _ _ => ⟨Int.le_max_left 0 _, Nat.le_refl 0, by simp, nofun⟩)
    (fun _ _ _ _ _ _ _ _ _ before steady does => steady.again before does)
  generalize runWatchdog config ports turns prior dryRun {} = result at run
  cases run with
  | unprobed raised failed =>
    have ⟨probe, probed⟩ := quiet.probes 0
    rw [probed] at failed
    cases failed
  | calm idle action inaction comments only result ends =>
    cases ends with
    | raised raised audit uncaught => exact absurd uncaught (quiet.caught raised)
    | returned outcome audit same =>
      refine ⟨outcome, _, rfl, safe_of_idle (only.made (by decide)) (only.made (by decide)) ?_ ?_⟩
      · rw [only.made (by decide), same]
        rcases inaction with rfl | rfl <;> rfl
      · rw [same]
        rcases inaction with rfl | rfl <;> exact nofun
  | escalated live verdict first failing untried request comments only result ends =>
    cases ends with
    | raised raised audit uncaught => exact absurd uncaught (quiet.caught raised)
    | returned outcome audit same =>
      refine ⟨outcome, _, rfl, safe_of_idle ?_ ?_ ?_ ?_⟩
      · rw [made_cons, only.made (by decide)]
        rfl
      · rw [made_cons, only.made (by decide)]
        rfl
      · rw [made_cons, only.made (by decide), same]
        rfl
      · rw [same]
        exact nofun
  | failed live verdict first owner planned owned last latest calls more before inv raised audit
      does =>
    exact absurd does (quiet.turns raised)
  | left live verdict first owner planned owned last latest calls more before inv state does
      closing closes result ends =>
    cases ends with
    | raised raised audit uncaught => exact absurd uncaught (quiet.caught raised)
    | returned outcome audit same =>
      have safe := (Option.filter_eq_some_iff.mp owned).2
      rw [Bool.not_eq_true'] at safe
      exact ⟨outcome, _, rfl, inv.safe before does safe closes same⟩

/-- The chain of command of an executive and an architect. -/
def twoChain : ChainOfCommand String := ⟨[⟨"ceo", "CEO", none⟩, ⟨"architect", "Architect", "ceo"⟩]⟩

/-- The architect is watched. -/
def architectWatch : WatchdogConfig String where
  watchedAgentId := "architect"
  watchdogIssueId := "watch"

/-- A run of the architect, of an age in minutes at the time 6000. -/
def architectRun (age : Rat) : HeartbeatRun String where
  id := "run"
  status := "running"
  triggeredAtEpoch := 6000 - 60 * age
  completedAtEpoch := none
  linkedIssueId := "issue"

/-- The architect's run is in flight. -/
def inFlight (age : Rat) : LivenessProbe String :=
  ⟨some (architectRun age), [architectRun age], twoChain, false, false⟩

/-- The architect has no run. -/
def cleared : LivenessProbe String := ⟨none, [], twoChain, false, false⟩

/-- The architect's run is stuck, and is cleared by one attempt. -/
def clearingPorts : Ports String where
  probe number := .ok (if number = 0 then inFlight 25 else cleared)
  clock _ := 6000
  releaseIssue _ := .ok ()
  invokeHeartbeat _ := .ok ()
  createBoardApproval _ := .ok (.document (some "approval"))
  postComment _ := .ok ()

/-- The architect's run is released and restarted. -/
theorem clearing_safe : ∃ outcome fire,
    runWatchdog architectWatch clearingPorts 4 0 false {} = .ok (some outcome) fire ∧
      Safe architectWatch clearingPorts 0 outcome fire.calls :=
  fire_safe architectWatch clearingPorts 0 false
    ⟨fun _ => ⟨_, rfl⟩, fun _ => .inl rfl, fun _ => rfl, fun _ => ⟨_, rfl⟩, fun _ => rfl⟩ 4
    (by decide)

end FlockOs.Liveness
