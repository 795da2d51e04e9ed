import FlockOs.EventApproval
import Mathlib.Data.List.Nodup

/-!
# The resolved chain

What the steps of a resolved chain are: one for each leader on the path, in the order of the
walk and cut by the depth cap, and the Branch Admin behind them. Each is pending, or skipped
because its leader is the requester.
-/

namespace FlockOs.Approvals

open Lib

/-- The leaders that the walk is offered, without the empty ones. -/
def offered (nodes : List ChainNode) : List String :=
  (nodes.flatMap (·.leaders)).filter (· ≠ "")

/-- The leaders on a path, each once, in the order of the walk. -/
def pathLeaders (nodes : List ChainNode) : List String := firstPerKey id (offered nodes)

/-- The level of a depth is one of the group tree. -/
theorem levelForDepth_ne (depth : Nat) : levelForDepth depth ≠ .branchAdmin := by
  rw [levelForDepth]
  split <;> decide

section Walk

variable (requestedBy : String) (policy : ApprovalPolicy) (gateway : ApprovalChainGateway)

/-- A step is that of a leader of one of the nodes. -/
structure LeaderStep (nodes : List ChainNode) (step : StepSpec) (group leader : String) :
    Prop where
  /-- The leader leads the group of a node. -/
  led : ∃ leaders, leader ∈ leaders ∧ ⟨group, leaders⟩ ∈ nodes
  /-- The approver is the leader. -/
  member : step.approverMember = some leader
  /-- The approver's user is the leader's. -/
  user : step.approverUser = gateway.userForMember leader
  /-- The step is one of the group tree. -/
  level : step.approverLevel ≠ .branchAdmin
  /-- The step is skipped for the requester, and pending else. -/
  status : step.stepStatus = leaderStatus requestedBy policy leader

/-- The walk after the given leaders: a step for each, in order, and each one seen. -/
structure Tracks (nodes : List ChainNode) (done : List String) (walk : Walk) : Prop where
  /-- The approvers. -/
  members : walk.specs.map (·.approverMember) = (firstPerKey id done).map some
  /-- The leaders seen. -/
  seen : ∀ leader, leader ∈ walk.seen ↔ leader ∈ done
  /-- The steps. -/
  steps : ∀ step ∈ walk.specs, ∃ group leader,
    LeaderStep requestedBy policy gateway nodes step group leader

variable {requestedBy policy gateway} {nodes : List ChainNode}

/-- A leader where the walk meets it. -/
structure Occurrence where
  /-- The leader. -/
  leader : String
  /-- The group that it leads. -/
  group : String
  /-- The depth of the group on the path. -/
  depth : Nat
deriving DecidableEq, Repr

/-- Leaders of a group at a depth, without the empty ones. -/
def metAt (group : String) (depth : Nat) (leaders : List String) : List Occurrence :=
  (leaders.filter (· ≠ "")).map fun leader => ⟨leader, group, depth⟩

/-- The leaders along a path, in the order of the walk. -/
def occurrences (nodes : List ChainNode) : List Occurrence :=
  nodes.zipIdx.flatMap fun node => metAt node.1.group node.2 node.1.leaders

/-- Each leader along a path where the walk meets it first. -/
def firstOccurrences (nodes : List ChainNode) : List Occurrence :=
  firstPerKey Occurrence.leader (occurrences nodes)

variable (requestedBy policy gateway) in
/-- The step of an occurrence at a place. -/
def Occurrence.step (met : Occurrence) (idx : Nat) : StepSpec where
  idx := idx
  approverLevel := levelForDepth met.depth
  approverMember := some met.leader
  approverUser := gateway.userForMember met.leader
  approverGroup := some met.group
  stepStatus := leaderStatus requestedBy policy met.leader

variable (requestedBy policy gateway) in
/-- The walk after the given occurrences: a step for the first of each leader, and each leader
seen. -/
structure Walked (done : List Occurrence) (walk : Walk) : Prop where
  /-- The steps. -/
  specs : walk.specs = (firstPerKey Occurrence.leader done).zipIdx.map fun met =>
    met.1.step requestedBy policy gateway met.2
  /-- The leaders seen. -/
  seen : ∀ leader, leader ∈ walk.seen ↔ leader ∈ done.map Occurrence.leader

/-- A visit adds the occurrence. -/
theorem Walked.visit {done : List Occurrence} {walk : Walk}
    (walked : Walked requestedBy policy gateway done walk) (depth : Nat) (group leader : String) :
    Walked requestedBy policy gateway
      (done ++ metAt group depth [leader])
      (walk.visit requestedBy policy gateway (levelForDepth depth) group leader) := by
  rw [Walk.visit]
  by_cases empty : leader = ""
  · rw [if_pos (.inl empty), empty]
    simpa [metAt] using walked
  · have kept : metAt group depth [leader] = [⟨leader, group, depth⟩] := by simp [metAt, empty]
    rw [kept]
    by_cases again : leader ∈ walk.seen
    · have member := (walked.seen leader).mp again
      rw [if_pos (.inr again)]
      constructor
      · rw [firstPerKey_concat, if_pos member, List.append_nil]
        exact walked.specs
      · intro other
        rw [walked.seen, List.map_append, List.mem_append, List.map_singleton, List.mem_singleton]
        constructor
        · exact Or.inl
        · rintro (before | rfl)
          · exact before
          · exact member
    · have fresh := (walked.seen leader).not.mp again
      rw [if_neg (not_or.mpr ⟨empty, again⟩)]
      constructor
      · rw [firstPerKey_concat, if_neg fresh, List.zipIdx_append, List.map_append, walked.specs,
          List.length_map, List.length_zipIdx]
        simp [Occurrence.step]
      · intro other
        rw [List.mem_cons, walked.seen, List.map_append, List.mem_append, List.map_singleton,
          List.mem_singleton, or_comm]

/-- The visits of a node add its occurrences. -/
theorem Walked.visits (depth : Nat) (group : String) : ∀ (leaders : List String)
    {done : List Occurrence} {walk : Walk}, Walked requestedBy policy gateway done walk →
      Walked requestedBy policy gateway
        (done ++ metAt group depth leaders)
        (leaders.foldl (Walk.visit requestedBy policy gateway (levelForDepth depth) group) walk)
  | [], done, walk, walked => by simpa [metAt] using walked
  | leader :: rest, done, walk, walked => by
    have next := Walked.visits depth group rest (walked.visit depth group leader)
    rw [List.append_assoc, metAt, metAt, ← List.map_append, ← List.filter_append] at next
    exact next

/-- The walk adds the occurrences of the nodes it passes. -/
theorem Walked.path : ∀ (rest : List (ChainNode × Nat)) {done : List Occurrence} {walk : Walk},
    Walked requestedBy policy gateway done walk →
      Walked requestedBy policy gateway
        (done ++ rest.flatMap fun node => metAt node.1.group node.2 node.1.leaders)
        (rest.foldl (fun walk node => node.1.leaders.foldl
          (Walk.visit requestedBy policy gateway (levelForDepth node.2) node.1.group) walk) walk)
  | [], done, walk, walked => by simpa using walked
  | node :: rest, done, walk, walked => by
    have next := Walked.path rest (walked.visits node.2 node.1.group node.1.leaders)
    rw [List.flatMap_cons, ← List.append_assoc]
    exact next

/-- The walk makes a step of the first occurrence of each leader on the path. -/
theorem walkLeaders_walked (nodes : List ChainNode) :
    Walked requestedBy policy gateway (occurrences nodes)
      (walkLeaders requestedBy policy gateway nodes) := by
  have start : Walked requestedBy policy gateway [] {} := ⟨rfl, fun _ => Iff.rfl⟩
  exact Walked.path nodes.zipIdx start

/-- The leaders that the walk meets. -/
theorem occurrences_leaders (nodes : List ChainNode) :
    (occurrences nodes).map Occurrence.leader = offered nodes := by
  have inner : ∀ node : ChainNode × Nat,
      (metAt node.1.group node.2 node.1.leaders).map Occurrence.leader =
        node.1.leaders.filter (· ≠ "") := by
    intro node
    rw [metAt, List.map_map]
    exact List.map_id _
  rw [occurrences, List.map_flatMap, offered, List.filter_flatMap]
  simp only [inner]
  conv_rhs => rw [← List.zipIdx_map_fst 0 nodes, List.flatMap_map]

/-- An occurrence is that of a leader of one of the nodes. -/
theorem mem_occurrences {met : Occurrence} (member : met ∈ occurrences nodes) :
    met.leader ≠ "" ∧ ∃ leaders, met.leader ∈ leaders ∧ ⟨met.group, leaders⟩ ∈ nodes := by
  obtain ⟨node, passed, here⟩ := List.mem_flatMap.mp member
  obtain ⟨leader, leads, same⟩ := List.mem_map.mp here
  obtain ⟨among, named⟩ := List.mem_filter.mp leads
  rw [← same]
  exact ⟨of_decide_eq_true named, node.1.leaders, among, List.fst_mem_of_mem_zipIdx passed⟩

/-- The walk tracks all leaders on the path. -/
theorem walkLeaders_tracks (nodes : List ChainNode) :
    Tracks requestedBy policy gateway nodes (offered nodes)
      (walkLeaders requestedBy policy gateway nodes) := by
  have walked : Walked requestedBy policy gateway (occurrences nodes)
      (walkLeaders requestedBy policy gateway nodes) := walkLeaders_walked nodes
  refine ⟨?_, fun leader => ?_, fun step member => ?_⟩
  · have firsts : (firstPerKey Occurrence.leader (occurrences nodes)).map Occurrence.leader =
        firstPerKey id (offered nodes) := by
      rw [← occurrences_leaders, firstPerKey_map]
      rfl
    rw [walked.specs, List.map_map, ← firsts, List.map_map]
    conv_rhs => rw [← List.zipIdx_map_fst 0 (firstPerKey _ _), List.map_map]
    rfl
  · rw [walked.seen, occurrences_leaders]
  · rw [walked.specs] at member
    obtain ⟨met, passed, same⟩ := List.mem_map.mp member
    obtain ⟨_, led⟩ := mem_occurrences (mem_of_mem_firstPerKey (List.fst_mem_of_mem_zipIdx passed))
    rw [← same]
    exact ⟨met.1.group, met.1.leader, led, rfl, rfl, levelForDepth_ne met.1.depth, rfl⟩

end Walk

/-- A step without its place. -/
def StepSpec.unplaced (step : StepSpec) : StepSpec := { step with idx := 0 }

/-- The leader steps that the cap of the policy keeps. -/
def keptSteps (policy : ApprovalPolicy) (steps : List StepSpec) : List StepSpec :=
  match policy.maxApprovalLevels with
  | none => steps
  | some levels => if 0 ≤ levels then keepWithin levels steps else steps

/-- Reindexing changes the places only. -/
theorem reindexed_unplaced (steps : List StepSpec) :
    (reindexed steps).map StepSpec.unplaced = steps.map StepSpec.unplaced := by
  have same : StepSpec.unplaced ∘ (fun step : StepSpec × Nat => { step.1 with idx := step.2 }) =
      StepSpec.unplaced ∘ Prod.fst := rfl
  rw [reindexed, List.map_map, same, ← List.map_map, List.zipIdx_map_fst]

/-- The cap leaves the terminator behind the leader steps that it keeps. -/
theorem capped_unplaced (policy : ApprovalPolicy) {leaders admins : List StepSpec}
    (led : ∀ step ∈ leaders, step.approverLevel ≠ .branchAdmin)
    (terminal : ∀ step ∈ admins, step.approverLevel = .branchAdmin) :
    (capped policy (leaders ++ admins)).map StepSpec.unplaced =
      (keptSteps policy leaders ++ admins).map StepSpec.unplaced := by
  have noAdmin : (leaders ++ admins).filter (fun step => step.approverLevel ≠ .branchAdmin) =
      leaders := by
    rw [List.filter_append, List.filter_eq_self.mpr fun step member =>
      decide_eq_true (led step member), List.filter_eq_nil_iff.mpr, List.append_nil]
    intro step member
    simpa using terminal step member
  have noLeader : (leaders ++ admins).filter (fun step => step.approverLevel = .branchAdmin) =
      admins := by
    rw [List.filter_append, List.filter_eq_nil_iff.mpr, List.nil_append,
      List.filter_eq_self.mpr fun step member => decide_eq_true (terminal step member)]
    intro step member
    simpa using led step member
  rw [capped, keptSteps]
  cases policy.maxApprovalLevels with
  | none => rfl
  | some levels =>
    by_cases positive : 0 ≤ levels
    · simp only [if_pos positive]
      rw [reindexed_unplaced, noAdmin, noLeader]
    · simp only [if_neg positive]

/-- The budget keeps steps in their order. -/
theorem keepWithin_sublist : ∀ (budget : Int) (steps : List StepSpec),
    (keepWithin budget steps).Sublist steps
  | _, [] => List.Sublist.slnil
  | budget, step :: rest => by
    rw [keepWithin]
    split
    · exact (keepWithin_sublist budget rest).cons_cons step
    · split
      · exact (keepWithin_sublist (budget - 1) rest).cons_cons step
      · exact (keepWithin_sublist budget rest).cons step

/-- The cap keeps steps in their order. -/
theorem keptSteps_sublist (policy : ApprovalPolicy) (steps : List StepSpec) :
    (keptSteps policy steps).Sublist steps := by
  rw [keptSteps]
  split
  · exact List.Sublist.refl steps
  · split
    · exact keepWithin_sublist _ steps
    · exact List.Sublist.refl steps

/-- The budget spares the skipped steps. -/
theorem keepWithin_skipped : ∀ (budget : Int) (steps : List StepSpec),
    (keepWithin budget steps).filter (fun step => step.stepStatus = .skipped) =
      steps.filter fun step => step.stepStatus = .skipped
  | budget, [] => by rw [keepWithin]
  | budget, step :: rest => by
    rw [keepWithin]
    by_cases skipped : step.stepStatus = .skipped
    · rw [if_pos skipped, List.filter_cons_of_pos (by simp [skipped]),
        List.filter_cons_of_pos (by simp [skipped]), keepWithin_skipped budget rest]
    · rw [if_neg skipped, List.filter_cons_of_neg (by simp [skipped])]
      split
      · rw [List.filter_cons_of_neg (by simp [skipped]), keepWithin_skipped (budget - 1) rest]
      · exact keepWithin_skipped budget rest

/-- The budget counts the steps that are not skipped, and keeps the first ones. -/
theorem keepWithin_unskipped : ∀ (budget : Int) (steps : List StepSpec), 0 ≤ budget →
    (keepWithin budget steps).filter (fun step => step.stepStatus ≠ .skipped) =
      (steps.filter fun step => step.stepStatus ≠ .skipped).take budget.toNat
  | budget, [], _ => by rw [keepWithin, List.filter_nil, List.take_nil]
  | budget, step :: rest, positive => by
    rw [keepWithin]
    by_cases skipped : step.stepStatus = .skipped
    · rw [if_pos skipped, List.filter_cons_of_neg (by simp [skipped]),
        List.filter_cons_of_neg (by simp [skipped])]
      exact keepWithin_unskipped budget rest positive
    · rw [if_neg skipped, List.filter_cons_of_pos (by simp [skipped])]
      by_cases left : 0 < budget
      · have turns : budget.toNat = (budget - 1).toNat + 1 := by omega
        rw [if_pos left, List.filter_cons_of_pos (by simp [skipped]), turns, List.take_succ_cons,
          keepWithin_unskipped (budget - 1) rest (by omega)]
      · have spent : budget.toNat = 0 := by omega
        rw [if_neg left, keepWithin_unskipped budget rest positive, spent, List.take_zero,
          List.take_zero]

section Chain

variable {group requestedBy : String} {policy : ApprovalPolicy} {gateway : ApprovalChainGateway}
  {nodes : List ChainNode}

/-- The member whom the policy puts at the end of the chain. -/
def terminatorMember (group : String) (policy : ApprovalPolicy) (gateway : ApprovalChainGateway) :
    Option String :=
  if policy.requireBranchAdminFinal then
    (truthy (gateway.groupBranch group)).bind fun branch =>
      truthy (gateway.branchAdminMember branch)
  else none

/-- The terminator is the pending step of that member. -/
theorem terminator_eq (idx : Nat) :
    (terminatorMember group policy gateway = none ∧ terminator group policy gateway idx = []) ∨
    ∃ admin branch, terminatorMember group policy gateway = some admin ∧
      truthy (gateway.groupBranch group) = some branch ∧
      terminator group policy gateway idx =
        [⟨idx, .branchAdmin, some admin, gateway.branchAdminUser branch, none, .pending⟩] := by
  rw [terminatorMember, terminator]
  cases policy.requireBranchAdminFinal with
  | false => exact .inl ⟨rfl, rfl⟩
  | true =>
    cases truthy (gateway.groupBranch group) with
    | none => exact .inl ⟨rfl, rfl⟩
    | some branch =>
      cases acting : truthy (gateway.branchAdminMember branch) with
      | none =>
        left
        simp [acting]
      | some admin =>
        right
        exact ⟨admin, branch, by simp [acting], rfl, by simp [acting]⟩

/-- The leader steps of the walk. -/
def leaderSteps (requestedBy : String) (policy : ApprovalPolicy) (gateway : ApprovalChainGateway)
    (nodes : List ChainNode) : List StepSpec :=
  (walkLeaders requestedBy policy gateway nodes).specs

/-- The chain is the kept leader steps with the terminator behind them, up to the places. -/
theorem chainSteps_unplaced (group requestedBy : String) (policy : ApprovalPolicy)
    (gateway : ApprovalChainGateway) (nodes : List ChainNode) :
    (chainSteps group requestedBy policy gateway nodes).map StepSpec.unplaced =
      (keptSteps policy (leaderSteps requestedBy policy gateway nodes) ++
        terminator group policy gateway
          (leaderSteps requestedBy policy gateway nodes).length).map StepSpec.unplaced := by
  have leaders : ∀ step ∈ leaderSteps requestedBy policy gateway nodes,
      step.approverLevel ≠ .branchAdmin := by
    intro step member
    obtain ⟨_, _, led⟩ := (walkLeaders_tracks nodes).steps step member
    exact led.level
  have admins : ∀ step ∈ terminator group policy gateway
      (leaderSteps requestedBy policy gateway nodes).length,
      step.approverLevel = .branchAdmin := by
    intro step member
    rcases terminator_eq (leaderSteps requestedBy policy gateway nodes).length with
      ⟨_, none⟩ | ⟨_, _, _, _, one⟩
    · rw [none] at member
      cases member
    · rw [one] at member
      rw [List.mem_singleton.mp member]
  exact capped_unplaced policy leaders admins

/-- A step is the Branch Admin's at the end of the chain. -/
structure TerminalStep (group : String) (policy : ApprovalPolicy) (gateway : ApprovalChainGateway)
    (step : StepSpec) (admin branch : String) : Prop where
  /-- The policy puts the member there. -/
  member : terminatorMember group policy gateway = some admin
  /-- The branch is that of the group. -/
  anchored : truthy (gateway.groupBranch group) = some branch
  /-- The level. -/
  level : step.approverLevel = .branchAdmin
  /-- The approver. -/
  approver : step.approverMember = some admin
  /-- The approver's user. -/
  user : step.approverUser = gateway.branchAdminUser branch
  /-- The status. -/
  status : step.stepStatus = .pending

/-- A step without its place determines everything else of it. -/
theorem unplaced_fields {step original : StepSpec} (same : step.unplaced = original.unplaced) :
    step = { original with idx := step.idx } := by
  cases step
  cases original
  simp only [StepSpec.unplaced, StepSpec.mk.injEq] at same
  simp [same]

/-- Every step of a chain is a leader's or the terminator. -/
theorem mem_chainSteps {step : StepSpec}
    (member : step ∈ chainSteps group requestedBy policy gateway nodes) :
    (∃ led leader, LeaderStep requestedBy policy gateway nodes step led leader) ∨
      ∃ admin branch, TerminalStep group policy gateway step admin branch := by
  have placed : step.unplaced ∈
      (chainSteps group requestedBy policy gateway nodes).map StepSpec.unplaced :=
    List.mem_map_of_mem member
  rw [chainSteps_unplaced] at placed
  obtain ⟨original, kept, same⟩ := List.mem_map.mp placed
  rw [unplaced_fields same.symm]
  rcases List.mem_append.mp kept with leads | ends
  · left
    have walked := (keptSteps_sublist policy _).subset leads
    obtain ⟨led, leader, found⟩ := (walkLeaders_tracks nodes).steps original walked
    exact ⟨led, leader, found.led, found.member, found.user, found.level, found.status⟩
  · right
    rcases terminator_eq (leaderSteps requestedBy policy gateway nodes).length with
      ⟨_, none⟩ | ⟨admin, branch, acting, anchored, one⟩
    · rw [none] at ends
      cases ends
    · rw [one] at ends
      rw [List.mem_singleton.mp ends]
      exact ⟨admin, branch, acting, anchored, rfl, rfl, rfl, rfl⟩

/-- Every step of a chain is pending or skipped. -/
theorem chainSteps_status {step : StepSpec}
    (member : step ∈ chainSteps group requestedBy policy gateway nodes) :
    step.stepStatus = .pending ∨ step.stepStatus = .skipped := by
  rcases mem_chainSteps member with ⟨_, leader, led⟩ | ⟨_, _, terminal⟩
  · rw [led.status, leaderStatus]
    split
    · exact .inr rfl
    · exact .inl rfl
  · exact .inl terminal.status

/-- What a resolved chain is. -/
theorem resolveApprovalChain_ok {group requestedBy : Option String} {specs : List StepSpec}
    (resolved : resolveApprovalChain group requestedBy policy gateway = .ok specs) :
    ∃ anchor requester nodes, truthy group = some anchor ∧ truthy requestedBy = some requester ∧
      gateway.chainNodesForGroup anchor = .ok nodes ∧
      specs = chainSteps anchor requester policy gateway nodes ∧
      ∃ step ∈ specs, step.stepStatus = .pending := by
  rw [resolveApprovalChain] at resolved
  split at resolved
  · cases resolved
  · cases resolved
  · rename_i anchor requester anchored requesting
    split at resolved
    · cases resolved
    · rename_i nodes read
      split at resolved
      · rename_i approver
        obtain ⟨step, member, pending⟩ := List.any_eq_true.mp approver
        cases resolved
        exact ⟨anchor, requester, nodes, anchored, requesting, read, rfl, step, member,
          of_decide_eq_true pending⟩
      · cases resolved

end Chain

end FlockOs.Approvals

namespace FlockOs.EventApproval

open Lib Directory

/-- A member's user is the one in its row. -/
theorem userForMember_eq_some {tables : Tables} {member user : String} :
    userForMember tables member = some user ↔
      ∃ row ∈ tables.members.rows, row.name = member ∧ row.linkedUser = some user := by
  rw [userForMember]
  constructor
  · intro linked
    split at linked
    · cases linked
    · obtain ⟨row, found, own⟩ := Option.bind_eq_some_iff.mp linked
      obtain ⟨inside, same⟩ := (Table.find?_eq_some tables.members).mp found
      exact ⟨row, inside, same, own⟩
  · rintro ⟨row, inside, rfl, own⟩
    rw [if_neg row.named, (Table.find?_eq_some tables.members).mpr ⟨inside, rfl⟩]
    exact own

/-- A user resolves to a member that it is linked to. -/
theorem userForMember_of_resolved {tables : Tables} {user member : String}
    (resolved : tables.resolveMemberForUser user = some member) :
    userForMember tables member = some user := by
  rw [Tables.resolveMemberForUser] at resolved
  split at resolved
  · cases resolved
  · obtain ⟨row, found, same⟩ := Option.map_eq_some_iff.mp resolved
    have linked : row.linkedUser = some user := by simpa using List.find?_some found
    exact userForMember_eq_some.mpr ⟨row, List.mem_of_find?_eq_some found, same, linked⟩

end FlockOs.EventApproval
