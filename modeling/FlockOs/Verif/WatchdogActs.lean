import FlockOs.Verif.WatchdogEscalation

/-!
# The actions of the watchdog

In which turns a fire releases, invokes or asks the board. A turn is known by the number of the
last probe before its actions: a fire acts in every turn that it comes to with a failing verdict,
or with a verdict of its loop, and in no other.
-/

namespace FlockOs.Liveness

open Lib

variable {Value : Type} {calls chunk : List (Call Value)} {turn : Nat}

/-- Releases, invocations and requests to the board. -/
def actionKinds : List CallKind := [.release, .invoke, .approval]

/-- The call is an action. -/
def Call.Acts (call : Call Value) : Prop := call.kind ∈ actionKinds

/-- The probe of this number, and the reading of the clock, are the last among the calls. -/
structure LastProbe (number : Nat) (calls : List (Call Value)) : Prop where
  /-- The probes up to this one. -/
  probes : made .probe calls = number + 1
  /-- The readings of the clock up to this one. -/
  clocks : made .clock calls = number + 1

/-- Among the calls there are actions in these turns, and in no others. -/
structure ActsIn (turns : Nat → Prop) (calls : List (Call Value)) : Prop where
  /-- An action is in one of the turns. -/
  within : ∀ before call after, calls = before ++ call :: after → call.Acts →
    ∃ number, turns number ∧ LastProbe number before
  /-- Each of the turns has an action. -/
  each : ∀ number, turns number → ∃ before call after, calls = before ++ call :: after ∧
    call.Acts ∧ LastProbe number before

/-- The calls of a turn: it acts, and not after its probe. -/
def Stage (chunk : List (Call Value)) : Prop :=
  ∃ acting tail, chunk = acting ++ tail ∧ made .probe acting = 0 ∧ made .clock acting = 0 ∧
    (∃ call ∈ acting, call.Acts) ∧ ∀ call ∈ tail, ¬ call.Acts

/-- A comment is no action. -/
theorem Comments.quiet {comments : List (Call Value)} (only : Comments comments) :
    ∀ call ∈ comments, ¬ call.Acts := by
  intro call member
  rw [Call.Acts, only call member]
  decide

/-- The same turns. -/
theorem ActsIn.congr {turns others : Nat → Prop} (same : ∀ number, turns number ↔ others number)
    (acts : ActsIn turns calls) : ActsIn others calls := by
  have equal : turns = others := funext fun number => propext (same number)
  rw [← equal]
  exact acts

/-- Calls without an action act in no turn. -/
theorem ActsIn.of_quiet (quiet : ∀ call ∈ calls, ¬ call.Acts) :
    ActsIn (fun _ => False) calls := by
  constructor
  · intro before call after split acts
    refine absurd acts (quiet call ?_)
    rw [split]
    exact List.mem_append_right before List.mem_cons_self
  · intro number reached
    exact reached.elim

/-- A fire that has acted in the turns before this one acts in this turn as well. -/
theorem ActsIn.stage (acts : ActsIn (· < turn) calls) (last : LastProbe turn calls)
    (stage : Stage chunk) : ActsIn (· < turn + 1) (calls ++ chunk) := by
  obtain ⟨acting, tail, same, unprobed, unread, ⟨action, member, actual⟩, quiet⟩ := stage
  have here {inside rest : List (Call Value)} (split : acting = inside ++ rest) :
      LastProbe turn (calls ++ inside) := by
    rw [split, made_append] at unprobed unread
    constructor
    · rw [made_append, last.probes]
      omega
    · rw [made_append, last.clocks]
      omega
  constructor
  · intro before call after split actual
    rcases split_of_append split with ⟨rest, earlier⟩ | ⟨inside, ahead, now⟩
    · obtain ⟨number, below, probed⟩ := acts.within before call rest earlier actual
      exact ⟨number, Nat.lt_succ_of_lt below, probed⟩
    · rw [same] at now
      rcases split_of_append now with ⟨rest, acted⟩ | ⟨behind, _, later⟩
      · rw [ahead]
        exact ⟨turn, Nat.lt_succ_self turn, here acted⟩
      · refine absurd actual (quiet call ?_)
        rw [later]
        exact List.mem_append_right behind List.mem_cons_self
  · intro number reached
    rcases Nat.lt_succ_iff_lt_or_eq.mp reached with below | equal
    · obtain ⟨before, call, after, split, actual, probed⟩ := acts.each number below
      refine ⟨before, call, after ++ chunk, ?_, actual, probed⟩
      rw [split, List.append_assoc, List.cons_append]
    · obtain ⟨inside, rest, split⟩ := List.append_of_mem member
      rw [equal]
      refine ⟨calls ++ inside, action, rest ++ tail, ?_, actual, here split⟩
      rw [same, split]
      simp only [List.append_assoc, List.cons_append]

/-- Asking the board is a stage. -/
theorem Stage.asked {first comments : List (Call Value)} (request : ApprovalRequest Value)
    (only : Comments comments) (unprobed : made .probe first = 0) (unread : made .clock first = 0) :
    Stage (first ++ .approval request :: comments) := by
  refine ⟨first ++ .approval request :: comments, [], (List.append_nil _).symm, ?_, ?_,
    ⟨.approval request, List.mem_append_right first List.mem_cons_self,
      (by decide : CallKind.approval ∈ actionKinds)⟩, nofun⟩
  · rw [made_append, made_cons, unprobed, only.made (by decide)]
    rfl
  · rw [made_append, made_cons, unread, only.made (by decide)]
    rfl

variable {config : WatchdogConfig Value} {owner : Value} {linkedId : Option Value}
  {current : RunVerdict Value} {attempts : Int}

/-- A release alone is a stage. -/
theorem Stage.released (linked : linkedId.isSome) :
    Stage (releasing config owner linkedId current attempts) := by
  refine ⟨_, [], (List.append_nil _).symm, made_releasing (by decide) current attempts,
    made_releasing (by decide) current attempts, ?_, nofun⟩
  cases linkedId with
  | none => cases linked
  | some issueId =>
    exact ⟨.release issueId owner, List.mem_append_right _ List.mem_cons_self,
      (by decide : CallKind.release ∈ actionKinds)⟩

/-- A release and an invocation are a stage, with calls that do not act after them. -/
theorem Stage.invoked {tail : List (Call Value)} (quiet : ∀ call ∈ tail, ¬ call.Acts) :
    Stage (releasing config owner linkedId current attempts ++
      .invoke config.watchedAgentId :: tail) := by
  refine ⟨releasing config owner linkedId current attempts ++ [.invoke config.watchedAgentId],
    tail, List.append_cons _ _ _, ?_, ?_,
    ⟨.invoke config.watchedAgentId, List.mem_append_right _ List.mem_cons_self,
      (by decide : CallKind.invoke ∈ actionKinds)⟩, quiet⟩
  · rw [made_append, made_releasing (by decide)]
    rfl
  · rw [made_append, made_releasing (by decide)]
    rfl

/-- The wait behind an invocation is no action. -/
theorem quiet_sleep {tail : List (Call Value)} (quiet : ∀ call ∈ tail, ¬ call.Acts) :
    ∀ call ∈ .sleep config.admitWaitSeconds :: tail, ¬ call.Acts :=
  List.forall_mem_cons.mpr ⟨(by decide : CallKind.sleep ∉ actionKinds), quiet⟩

/-- Nor is the probe. -/
theorem quiet_probe {tail : List (Call Value)} (quiet : ∀ call ∈ tail, ¬ call.Acts) :
    ∀ call ∈ .probe :: tail, ¬ call.Acts :=
  List.forall_mem_cons.mpr ⟨(by decide : CallKind.probe ∉ actionKinds), quiet⟩

/-- Nor is the reading of the clock. -/
theorem quiet_clock {tail : List (Call Value)} (quiet : ∀ call ∈ tail, ¬ call.Acts) :
    ∀ call ∈ .clock :: tail, ¬ call.Acts :=
  List.forall_mem_cons.mpr ⟨(by decide : CallKind.clock ∉ actionKinds), quiet⟩

variable [BEq Value] [Truth Value] {ports : Ports Value} {prior : Int} {more : List (Call Value)}

/-- A turn after which the loop goes on is a stage. -/
theorem TurnDoes.stage_again {next : RunVerdict Value}
    (does : TurnDoes config ports owner linkedId prior turn current more
      (.ok (.goOn attempts next))) : Stage more := by
  cases does with
  | again planned => exact Stage.invoked (quiet_sleep (quiet_probe (quiet_clock nofun)))

/-- A turn that raises is a stage. -/
theorem TurnDoes.stage_failed {raised : Fault}
    (does : TurnDoes config ports owner linkedId prior turn current more (.error raised)) :
    Stage more := by
  cases does with
  | unreleased planned linked => exact Stage.released linked
  | uninvoked planned => exact Stage.invoked (List.forall_mem_nil _)
  | unprobed planned =>
    exact Stage.invoked (quiet_sleep (quiet_probe (List.forall_mem_nil _)))

/-- A turn that leaves the loop is a stage, with the end of the fire. -/
theorem TurnDoes.stage_left {state : LoopEnd} {closing : List (Call Value)}
    (does : TurnDoes config ports owner linkedId prior turn current more (.ok (.leave state)))
    (closes : Closing state closing) : Stage (more ++ closing) := by
  rw [Closing] at closes
  cases does with
  | stopped unplanned =>
    obtain ⟨request, comments, only, same⟩ := closes
    rw [same]
    exact Stage.asked request only rfl rfl
  | forbidden planned linked message refused =>
    obtain ⟨request, comments, only, same⟩ := closes
    rw [same]
    exact Stage.asked request only (made_releasing (by decide) current _)
      (made_releasing (by decide) current _)
  | recovered planned =>
    have only : Comments closing := closes
    rw [List.append_assoc]
    exact Stage.invoked (quiet_sleep (quiet_probe (quiet_clock only.quiet)))

/-- The verdict on which a fire acts in a turn: failing in the first one; in the others, which it
comes to with a safe owner, the verdict that its loop goes on with. -/
def actedVerdict (config : WatchdogConfig Value) (ports : Ports Value) (prior : Int)
    (dryRun : Bool) (turn : Nat) : Option (RunVerdict Value) :=
  if dryRun then none
  else ((firstVerdict config ports).filter fun first => first.Failing).bind fun first =>
    if turn = 0 ∨ (safeOwner config first).isSome
    then verdictAt config ports prior first turn else none

/-- The turns of a fire whose first verdict is failing. -/
theorem actedVerdict_failing {first : RunVerdict Value}
    (judged : firstVerdict config ports = some first) (failing : first.Failing) (turn : Nat) :
    actedVerdict config ports prior false turn =
      if turn = 0 ∨ (safeOwner config first).isSome
      then verdictAt config ports prior first turn else none := by
  rw [actedVerdict, if_neg Bool.false_ne_true, judged, Option.filter_some,
    if_pos (decide_eq_true failing), Option.bind_some]

/-- A turn that raises begins no other. -/
theorem TurnDoes.turnVerdict_failed {raised : Fault}
    (does : TurnDoes config ports owner linkedId prior turn current more (.error raised)) :
    Liveness.turnVerdict config ports linkedId prior turn current = none := by
  by_contra goesOn
  obtain ⟨next, same⟩ := Option.ne_none_iff_exists'.mp goesOn
  obtain ⟨_, released, invoked, probe, probed, _⟩ := turnVerdict_some same
  cases does with
  | unreleased planned linked raised failed =>
    rw [released.returned linked] at failed
    cases failed
  | uninvoked planned released raised failed =>
    rw [failed] at invoked
    cases invoked
  | unprobed planned released invoked raised failed =>
    rw [failed] at probed
    cases probed

/-- A fire comes to the turns up to its last one. -/
theorem verdictAt_isSome_iff {first : RunVerdict Value} {last : Nat}
    (reached : verdictAt config ports prior first last = some current)
    (ended : turnVerdict config ports first.linkedIssueId prior last current = none)
    (turn : Nat) : (verdictAt config ports prior first turn).isSome ↔ turn < last + 1 := by
  constructor
  · intro begun
    by_contra later
    have next := verdictAt_before (Nat.not_lt.mp later) begun
    rw [verdictAt, reached, Option.bind_some, ended] at next
    cases next
  · intro below
    exact verdictAt_before (Nat.le_of_lt_succ below) (by rw [reached]; rfl)

/-- The turns in which a fire acts that enters the loop. -/
theorem actedVerdict_isSome_iff {first : RunVerdict Value} {last : Nat}
    (judged : firstVerdict config ports = some first) (failing : first.Failing)
    (owned : safeOwner config first = some owner)
    (reached : verdictAt config ports prior first last = some current)
    (ended : turnVerdict config ports first.linkedIssueId prior last current = none)
    (turn : Nat) :
    turn < last + 1 ↔ (actedVerdict config ports prior false turn).isSome := by
  rw [actedVerdict_failing judged failing, if_pos (.inr (by rw [owned]; rfl))]
  exact (verdictAt_isSome_iff reached ended turn).symm

/-- A fire that goes straight to the board acts in its first turn only. -/
theorem actedVerdict_untried {first : RunVerdict Value}
    (judged : firstVerdict config ports = some first) (failing : first.Failing)
    (untried : (planFor config first prior).action ≠ .releaseRestart ∨
      safeOwner config first = none) (turn : Nat) :
    turn < 0 + 1 ↔ (actedVerdict config ports prior false turn).isSome := by
  rw [actedVerdict_failing judged failing]
  cases turn with
  | zero => simp [verdictAt]
  | succ turn =>
    refine iff_of_false (by omega) ?_
    rcases untried with unplanned | unowned
    · split
      · intro begun
        have next := verdictAt_before (Nat.le_add_left 1 turn) begun
        rw [verdictAt, verdictAt, Option.bind_some, turnVerdict_unplanned unplanned] at next
        cases next
      · rintro ⟨⟩
    · rw [unowned, if_neg (by simp)]
      rintro ⟨⟩

/-- A fire acts exactly in the turns that it comes to with a verdict to act on. -/
theorem fire_actsIn [ToString Value] (config : WatchdogConfig Value) (ports : Ports Value)
    (prior : Int) (dryRun : Bool) {turns : Nat}
    (enough : (config.maxAttempts - prior).toNat < turns) :
    ActsIn (fun turn => (actedVerdict config ports prior dryRun turn).isSome)
      (Exec.after (runWatchdog config ports turns prior dryRun) {}).calls := by
  have start : ActsIn (· < 0) ([.clock, .probe] : List (Call Value)) := by
    refine (ActsIn.of_quiet (quiet_clock (quiet_probe (List.forall_mem_nil _)))).congr ?_
    intro number
    exact iff_of_false id (Nat.not_lt_zero number)
  have run := fire_rule config ports prior dryRun enough
    (fun verdict _ turn current calls =>
      verdictAt config ports prior verdict turn = some current ∧ ActsIn (· < turn) calls)
    (fun _ _ _ _ => ⟨rfl, start⟩)
    (fun verdict _ _ _ turn current calls more next before ⟨begun, acts⟩ does => by
      rw [verdictAt, begun, Option.bind_some]
      exact ⟨does.turnVerdict, acts.stage ⟨before.probes, before.clocks⟩ does.stage_again⟩)
  rw [Exec.after]
  generalize runWatchdog config ports turns prior dryRun {} = result at run
  cases run with
  | unprobed raised failed =>
    refine start.congr fun number => iff_of_false (Nat.not_lt_zero number) ?_
    simp [actedVerdict, firstVerdict, failed]
  | calm idle action inaction comments only result ends =>
    have quiet : ActsIn (fun _ => False) ([.clock, .probe] ++ comments) :=
      ActsIn.of_quiet (quiet_clock (quiet_probe only.quiet))
    have none (number : Nat) : ¬ (actedVerdict config ports prior dryRun number).isSome := by
      rw [actedVerdict]
      rcases idle with dry | calm
      · rw [dry, if_pos rfl]
        rintro ⟨⟩
      · have filtered : (firstVerdict config ports).filter (fun first => first.Failing) = none := by
          rw [Option.filter_eq_none_iff]
          intro first judged
          exact decide_eq_true_iff.not.mpr (calm first judged)
        rw [filtered]
        split <;> rintro ⟨⟩
    have acts := quiet.congr fun number => iff_of_false id (none number)
    cases ends with
    | returned outcome audit same => exact acts
    | raised raised audit uncaught => exact acts
  | escalated live first judged failing untried request comments only result ends =>
    rw [live]
    have board : Stage ([] ++ .approval request :: comments) := Stage.asked request only rfl rfl
    have acts := (start.stage ⟨rfl, rfl⟩ board).congr
      (actedVerdict_untried judged failing untried)
    cases ends with
    | returned outcome audit same => exact acts
    | raised raised audit uncaught => exact acts
  | failed live first judged owner planned owned last latest calls more before inv raised audit
      does =>
    rw [live]
    exact (inv.2.stage ⟨before.probes, before.clocks⟩ does.stage_failed).congr
      (actedVerdict_isSome_iff judged (.inl (planned_stuck planned).1) owned inv.1
        does.turnVerdict_failed)
  | left live first judged owner planned owned last latest calls more before inv state does
      closing closes result ends =>
    rw [live]
    have acts := (inv.2.stage ⟨before.probes, before.clocks⟩ (does.stage_left closes)).congr
      (actedVerdict_isSome_iff judged (.inl (planned_stuck planned).1) owned inv.1
        does.turnVerdict_none)
    rw [← List.append_assoc] at acts
    cases ends with
    | returned outcome audit same => exact acts
    | raised raised audit uncaught => exact acts

/-- The first verdict is that on the first probe. -/
theorem firstVerdict_some {first : RunVerdict Value}
    (judged : firstVerdict config ports = some first) :
    ∃ probe, ports.probe 0 = .ok probe ∧ classifyProbe config probe (ports.clock 0) = some first := by
  rw [firstVerdict] at judged
  cases probing : ports.probe 0 with
  | error raised =>
    rw [probing] at judged
    cases judged
  | ok probe =>
    rw [probing] at judged
    dsimp only at judged
    split at judged
    · exact ⟨probe, rfl, judged⟩
    · cases judged

/-- A fire acts on the verdict on the probe of its turn, which is not healthy. -/
theorem actedVerdict_some {dryRun : Bool}
    (acted : actedVerdict config ports prior dryRun turn = some current) :
    ∃ probe, ports.probe turn = .ok probe ∧
      classifyProbe config probe (ports.clock turn) = some current ∧
      current.verdict ≠ .healthy := by
  rw [actedVerdict] at acted
  split at acted
  · cases acted
  · obtain ⟨first, judged, reached⟩ := Option.bind_eq_some_iff.mp acted
    obtain ⟨same, failing⟩ := Option.filter_eq_some_iff.mp judged
    split at reached
    · cases turn with
      | zero =>
        cases reached
        obtain ⟨probe, probed, classified⟩ := firstVerdict_some same
        refine ⟨probe, probed, classified, ?_⟩
        rcases of_decide_eq_true failing with stuck | abort
        · rw [stuck]
          exact nofun
        · rw [abort]
          exact nofun
      | succ turn =>
        obtain ⟨before, _, goesOn⟩ := Option.bind_eq_some_iff.mp reached
        obtain ⟨_, _, _, probe, probed, shows⟩ := turnVerdict_some goesOn
        obtain ⟨classified, unhealthy⟩ := nextVerdict_some shows
        exact ⟨probe, probed, classified, unhealthy⟩
    · cases reached

end FlockOs.Liveness
