import FlockOs.Verif.ApprovalRun
import FlockOs.Verif.ChainSpecification

/-!
# The previewed chain and the submitted one

The preview resolves the chain of a group under the default policy, the submit under the one of the
approval. They show the same steps exactly where the policy changes nothing: it keeps the Branch
Admin who is there, its cap lets through everybody who is asked, and it lets nobody on the path
decide an own request.
-/

namespace FlockOs.Approvals

open Lib

section Preview

variable {group requestedBy : String} {policy : ApprovalPolicy} {gateway : ApprovalChainGateway}
  {nodes : List ChainNode}

/-- A budget that is enough keeps every step, and only such a budget does. -/
theorem keepWithin_eq_self_iff {budget : Int} {steps : List StepSpec} (positive : 0 ≤ budget) :
    keepWithin budget steps = steps ↔
      (steps.filter fun step => step.stepStatus ≠ .skipped).length ≤ budget.toNat := by
  have unskipped := keepWithin_unskipped budget steps positive
  constructor
  · intro all
    rw [all] at unskipped
    rw [unskipped, List.length_take]
    exact Nat.min_le_left _ _
  · intro enough
    have skipped := keepWithin_skipped budget steps
    rw [List.take_of_length_le enough] at unskipped
    have count (all : List StepSpec) : all.length =
        (all.filter fun step => step.stepStatus = .skipped).length +
          (all.filter fun step => step.stepStatus ≠ .skipped).length := by
      have split := List.length_eq_length_filter_add (l := all)
        (fun step => decide (step.stepStatus = .skipped))
      simpa using split
    have same : (keepWithin budget steps).length = steps.length := by
      rw [count, skipped, unskipped, ← count]
    exact (keepWithin_sublist budget steps).eq_of_length same

variable (requestedBy policy gateway nodes) in
/-- The members of the leader steps are the leaders on the path. -/
theorem leaderSteps_members :
    (leaderSteps requestedBy policy gateway nodes).map (·.approverMember) =
      (pathLeaders nodes).map some :=
  (walkLeaders_tracks nodes).members

/-- A leader step has the status of its leader. -/
theorem leaderSteps_status {step : StepSpec}
    (member : step ∈ leaderSteps requestedBy policy gateway nodes) :
    ∃ leader ∈ offered nodes, step.approverMember = some leader ∧
      step.stepStatus = leaderStatus requestedBy policy leader := by
  obtain ⟨_, leader, led⟩ := (walkLeaders_tracks nodes).steps step member
  have own : some leader ∈ (pathLeaders nodes).map some := by
    rw [← leaderSteps_members requestedBy policy gateway nodes, ← led.member]
    exact List.mem_map_of_mem member
  obtain ⟨other, listed, same⟩ := List.mem_map.mp own
  cases same
  exact ⟨leader, mem_of_mem_firstPerKey listed, led.member, led.status⟩

variable (requestedBy policy gateway) in
/-- A leader on the path has a step. -/
theorem exists_leaderStep {leader : String} (offers : leader ∈ offered nodes) :
    ∃ step ∈ leaderSteps requestedBy policy gateway nodes, step.approverMember = some leader := by
  obtain ⟨first, listed, same⟩ := exists_mem_firstPerKey id offers
  have own : some leader ∈
      (leaderSteps requestedBy policy gateway nodes).map (·.approverMember) := by
    rw [leaderSteps_members]
    exact List.mem_map.mpr ⟨first, listed, congrArg some same⟩
  obtain ⟨step, member, named⟩ := List.mem_map.mp own
  exact ⟨step, member, named⟩

/-- Under the default policy everybody but the requester is asked. -/
theorem asked_count : ((leaderSteps requestedBy defaultPolicy gateway nodes).filter
    fun step => step.stepStatus ≠ .skipped).length =
      (pathLeaders nodes).countP fun leader => leader ≠ requestedBy := by
  have members := congrArg (List.countP fun member => decide (member ≠ some requestedBy))
    (leaderSteps_members requestedBy defaultPolicy gateway nodes)
  rw [List.countP_map, List.countP_map] at members
  have asked : ∀ step ∈ leaderSteps requestedBy defaultPolicy gateway nodes,
      (decide (step.stepStatus ≠ .skipped)) = true ↔
        (decide (step.approverMember ≠ some requestedBy)) = true := by
    intro step member
    obtain ⟨leader, _, named, status⟩ := leaderSteps_status member
    rw [named, status, leaderStatus]
    by_cases own : leader = requestedBy
    · simp [own, defaultPolicy]
    · simp [own]
  rw [← List.countP_eq_length_filter, List.countP_congr asked]
  rw [show (fun step : StepSpec => decide (step.approverMember ≠ some requestedBy)) =
    (fun member => decide (member ≠ some requestedBy)) ∘ fun step => step.approverMember from rfl,
    members]
  apply List.countP_congr
  intro leader _
  simp

/-- The policies that let nobody on the path decide an own request have the same leader steps. -/
theorem leaderSteps_default
    (others : policy.allowSelfApproval = false ∨ requestedBy ∉ offered nodes) :
    leaderSteps requestedBy policy gateway nodes =
      leaderSteps requestedBy defaultPolicy gateway nodes := by
  rw [leaderSteps_eq, leaderSteps_eq]
  apply List.map_congr_left
  intro met placed
  have offers : met.1.leader ∈ offered nodes := by
    rw [← occurrences_leaders]
    exact List.mem_map_of_mem (mem_of_mem_firstPerKey (List.fst_mem_of_mem_zipIdx placed))
  have status : leaderStatus requestedBy policy met.1.leader =
      leaderStatus requestedBy defaultPolicy met.1.leader := by
    rw [leaderStatus, leaderStatus]
    cases others with
    | inl off => simp [off, defaultPolicy]
    | inr absent =>
      have apart : met.1.leader ≠ requestedBy := by
        intro same
        exact absent (same ▸ offers)
      simp [apart]
  rw [Occurrence.step, Occurrence.step, status]

/-- Without a Branch Admin there is no terminator. -/
theorem terminator_none_iff {idx : Nat} :
    terminator group policy gateway idx = [] ↔ terminatorMember group policy gateway = none := by
  have either : (terminatorMember group policy gateway = none ∧
      terminator group policy gateway idx = []) ∨ _ := terminator_eq idx
  cases either with
  | inl none => exact iff_of_true none.2 none.1
  | inr some =>
    obtain ⟨admin, branch, acting, _, one⟩ := some
    rw [one, acting]
    simp

/-- A policy that asks for the Branch Admin ends the chain as the default policy does. -/
theorem terminator_default (final : policy.requireBranchAdminFinal = true) (idx : Nat) :
    terminator group policy gateway idx = terminator group defaultPolicy gateway idx := by
  simp [terminator, final, defaultPolicy]

variable (group requestedBy policy gateway nodes) in
/-- A policy changes nothing of a chain: it keeps the Branch Admin, its cap lets through everybody
who is asked, and it lets nobody on the path decide an own request. -/
structure Unnoticed : Prop where
  /-- The Branch Admin, where there is one, ends the chain. -/
  final : policy.requireBranchAdminFinal = true ∨
    terminatorMember group defaultPolicy gateway = none
  /-- The cap is enough. -/
  cap : ∀ levels, policy.maxApprovalLevels = some levels → 0 ≤ levels →
    ((pathLeaders nodes).countP fun leader => leader ≠ requestedBy) ≤ levels.toNat
  /-- No own request on the path is decided. -/
  others : policy.allowSelfApproval = false ∨ requestedBy ∉ offered nodes

/-- The default policy has no cap. -/
theorem keptSteps_default (steps : List StepSpec) : keptSteps defaultPolicy steps = steps := rfl

/-- The steps that a policy keeps are all of the default ones exactly where its cap is enough and it
lets nobody on the path decide an own request. -/
theorem keptSteps_default_iff :
    (keptSteps policy (leaderSteps requestedBy policy gateway nodes)).map StepSpec.unplaced =
        (leaderSteps requestedBy defaultPolicy gateway nodes).map StepSpec.unplaced ↔
      (∀ levels, policy.maxApprovalLevels = some levels → 0 ≤ levels →
        ((pathLeaders nodes).countP fun leader => leader ≠ requestedBy) ≤ levels.toNat) ∧
      (policy.allowSelfApproval = false ∨ requestedBy ∉ offered nodes) := by
  have enough_iff (others : policy.allowSelfApproval = false ∨ requestedBy ∉ offered nodes)
      {levels : Int} (positive : 0 ≤ levels) :
      keepWithin levels (leaderSteps requestedBy policy gateway nodes) =
          leaderSteps requestedBy policy gateway nodes ↔
        ((pathLeaders nodes).countP fun leader => leader ≠ requestedBy) ≤ levels.toNat := by
    rw [keepWithin_eq_self_iff positive, leaderSteps_default others, asked_count]
  constructor
  · intro same
    have whole : keptSteps policy (leaderSteps requestedBy policy gateway nodes) =
        leaderSteps requestedBy policy gateway nodes := by
      apply (keptSteps_sublist policy _).eq_of_length
      have lengths := congrArg List.length same
      rw [List.length_map, List.length_map] at lengths
      rw [lengths, leaderSteps_eq, leaderSteps_eq, List.length_map, List.length_map]
    have others : policy.allowSelfApproval = false ∨ requestedBy ∉ offered nodes := by
      by_contra both
      rw [not_or, not_not, Bool.not_eq_false] at both
      obtain ⟨step, member, named⟩ := exists_leaderStep requestedBy defaultPolicy gateway
        both.2
      obtain ⟨leader, _, own, status⟩ := leaderSteps_status member
      have requester : leader = requestedBy := Option.some.inj (own.symm.trans named)
      have skipped : step.unplaced.stepStatus = .skipped := by
        rw [StepSpec.unplaced, status, leaderStatus, requester]
        simp [defaultPolicy]
      have kept : step.unplaced ∈
          (leaderSteps requestedBy policy gateway nodes).map StepSpec.unplaced := by
        rw [← whole, same]
        exact List.mem_map_of_mem member
      obtain ⟨other, there, alike⟩ := List.mem_map.mp kept
      obtain ⟨_, _, _, asked⟩ := leaderSteps_status there
      have pending : step.unplaced.stepStatus = .pending := by
        rw [← alike, StepSpec.unplaced, asked, leaderStatus]
        simp [both.1]
      rw [skipped] at pending
      cases pending
    refine ⟨fun levels limit positive => (enough_iff others positive).mp ?_, others⟩
    rw [keptSteps, limit] at whole
    simpa [positive] using whole
  · intro both
    have whole : keptSteps policy (leaderSteps requestedBy policy gateway nodes) =
        leaderSteps requestedBy policy gateway nodes := by
      rw [keptSteps]
      cases limit : policy.maxApprovalLevels with
      | none => rfl
      | some levels =>
        dsimp only
        split
        · next positive => exact (enough_iff both.2 positive).mpr (both.1 levels limit positive)
        · rfl
    rw [whole, leaderSteps_default both.2]

/-- A chain is that of the default policy exactly where its policy changes nothing of it. -/
theorem chainSteps_default_iff :
    chainSteps group requestedBy policy gateway nodes =
        chainSteps group requestedBy defaultPolicy gateway nodes ↔
      Unnoticed group requestedBy policy gateway nodes := by
  have lengths : (leaderSteps requestedBy policy gateway nodes).length =
      (leaderSteps requestedBy defaultPolicy gateway nodes).length := by
    rw [leaderSteps_eq, leaderSteps_eq, List.length_map, List.length_map]
  have left := chainSteps_unplaced group requestedBy policy gateway nodes
  have right := chainSteps_unplaced group requestedBy defaultPolicy gateway nodes
  rw [List.map_append] at left right
  rw [keptSteps_default, ← lengths] at right
  constructor
  · intro same
    have kept : (keptSteps policy (leaderSteps requestedBy policy gateway nodes)).map
        StepSpec.unplaced =
          (leaderSteps requestedBy defaultPolicy gateway nodes).map StepSpec.unplaced := by
      rw [← chainSteps_leads group, same, chainSteps_leads, keptSteps_default]
    obtain ⟨cap, others⟩ := keptSteps_default_iff.mp kept
    refine ⟨?_, cap, others⟩
    rw [← same, left, kept] at right
    have ends := List.append_cancel_left right
    by_cases final : policy.requireBranchAdminFinal = true
    · exact .inl final
    · have nothing : terminator group policy gateway
          (leaderSteps requestedBy policy gateway nodes).length = [] := by
        rw [terminator, if_pos final]
      rw [nothing, List.map_nil] at ends
      exact .inr (terminator_none_iff.mp (List.map_eq_nil_iff.mp ends.symm))
  · intro unnoticed
    have kept : (keptSteps policy (leaderSteps requestedBy policy gateway nodes)).map
        StepSpec.unplaced =
          (leaderSteps requestedBy defaultPolicy gateway nodes).map StepSpec.unplaced :=
      keptSteps_default_iff.mpr ⟨unnoticed.cap, unnoticed.others⟩
    have ends : terminator group policy gateway
        (leaderSteps requestedBy policy gateway nodes).length =
          terminator group defaultPolicy gateway
            (leaderSteps requestedBy policy gateway nodes).length := by
      by_cases final : policy.requireBranchAdminFinal = true
      · exact terminator_default final _
      · have nobody := unnoticed.final.resolve_left final
        rw [terminator_none_iff.mpr nobody, terminator, if_pos final]
    apply eq_of_placed placed_chainSteps placed_chainSteps
    rw [left, right, kept, ends]

end Preview

end FlockOs.Approvals

namespace FlockOs.EventApproval

open Lib Approvals

/-- The step of a row, without its place. -/
def ApprovalStep.spec (row : ApprovalStep) : StepSpec :=
  ⟨0, row.approverLevel, row.approverMember, row.approverUser, row.approverGroup, row.stepStatus⟩

/-- Numbered steps are materialized alike only when they are the same. -/
theorem materialized_inj {specs others : List StepSpec} (placed : Placed specs)
    (placedOthers : Placed others) (same : specs.map materialized = others.map materialized) :
    specs = others := by
  apply eq_of_placed placed placedOthers
  have rows := congrArg (List.map ApprovalStep.spec) same
  rw [List.map_map, List.map_map] at rows
  exact rows

/-- A submit that takes the chain path stores the chain of the policy. -/
theorem submit_routed {session : Session} {desk next : Desk} {status : ApprovalStatus}
    (large : clearsFastPath session desk.approval = false)
    (submitted : submitForApproval session desk = .ok status next) :
    desk.approval.requestedBy = session.member ∧ ∃ specs,
      resolveApprovalChain desk.approval.group desk.approval.requestedBy
        (approvalPolicyFromRow session desk.approval.approvalPolicy)
        (frappeApprovalChainGateway session.tables) = .ok specs ∧
      next.approval.steps = specs.map materialized := by
  cases submit_ends session desk with
  | inl took =>
    obtain ⟨_, after, ran, way⟩ := took
    rw [Action.body, submitted] at ran
    cases ran
    cases way with
    | autoApproved requester small =>
      rw [large] at small
      cases small
    | routed requester large specs resolved saved =>
      obtain ⟨organization, written⟩ := saved.written
      refine ⟨requester, specs, resolved, ?_⟩
      rw [written]
      rfl
  | inr raised =>
    obtain ⟨_, _, ran, _⟩ := raised
    rw [Action.body, submitted] at ran
    cases ran

/-- The requester's preview shows the steps that a submit to the chain stores exactly where the
policy of the approval keeps the Branch Admin who is there, has a cap that lets through everybody
who is asked, and lets no requester on the path decide. -/
theorem preview_shown_iff (session : Session) (desk next : Desk) (status : ApprovalStatus)
    (large : clearsFastPath session desk.approval = false)
    (submitted : submitForApproval session desk = .ok status next) :
    (∃ specs, previewApprovalChain session desk.approval.group none = .ok specs ∧
      next.approval.steps = specs.map materialized) ↔
    ∀ group requester nodes, truthy desk.approval.group = some group →
      truthy desk.approval.requestedBy = some requester →
      chainNodesForGroup session.tables group = .ok nodes →
      Unnoticed group requester (approvalPolicyFromRow session desk.approval.approvalPolicy)
        (frappeApprovalChainGateway session.tables) nodes := by
  obtain ⟨own, specs, resolved, stored⟩ := submit_routed large submitted
  obtain ⟨group, requester, nodes, anchored, requesting, read, chain, asked⟩ :=
    resolveApprovalChain_ok resolved
  have preview : previewApprovalChain session desk.approval.group none =
      resolveApprovalChain desk.approval.group desk.approval.requestedBy defaultPolicy
        (frappeApprovalChainGateway session.tables) := by
    rw [previewApprovalChain, anchored, truthy_none, Option.none_or, ← own]
    have given : desk.approval.group = some group := truthy_eq_some anchored
    rw [given]
  rw [preview]
  constructor
  · intro shown group' requester' nodes' anchored' requesting' read'
    obtain ⟨previewed, resolvedPreview, same⟩ := shown
    obtain ⟨group₂, requester₂, nodes₂, anchored₂, requesting₂, read₂, chain₂, _⟩ :=
      resolveApprovalChain_ok resolvedPreview
    rw [anchored] at anchored' anchored₂
    rw [requesting] at requesting' requesting₂
    cases anchored'
    cases anchored₂
    cases requesting'
    cases requesting₂
    have sameNodes : nodes = nodes' := Except.ok.inj (read.symm.trans read')
    have sameNodes₂ : nodes = nodes₂ := Except.ok.inj (read.symm.trans read₂)
    rw [stored] at same
    rw [← sameNodes]
    apply chainSteps_default_iff.mp
    rw [chain, chain₂, ← sameNodes₂] at same
    exact materialized_inj placed_chainSteps placed_chainSteps same
  · intro unnoticed
    have same := chainSteps_default_iff.mpr (unnoticed group requester nodes anchored requesting read)
    refine ⟨specs, ?_, stored⟩
    rw [← resolved]
    rw [resolveApprovalChain, resolveApprovalChain, anchored, requesting]
    dsimp only
    rw [read]
    dsimp only
    rw [same]

/-- Ann's preview of the camp shows the chain that her submit stores. -/
theorem camp_previewed :
    (∃ specs, previewApprovalChain (campSession "ann@example.org" 1) (some "North-Youth") none =
      .ok specs ∧ (campDesk.perform (campSession "ann@example.org" 1, .submit)).approval.steps =
        specs.map materialized) ↔
    ∀ group requester nodes, truthy (some "North-Youth") = some group →
      truthy (some "MEM-00001") = some requester →
      chainNodesForGroup campTables group = .ok nodes →
      Unnoticed group requester defaultPolicy (frappeApprovalChainGateway campTables) nodes :=
  preview_shown_iff (campSession "ann@example.org" 1) campDesk
    (campDesk.perform (campSession "ann@example.org" 1, .submit)) .pending (by decide) (by rfl)

end FlockOs.EventApproval
