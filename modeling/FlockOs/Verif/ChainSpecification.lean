import FlockOs.Verif.ApprovalChain

/-!
# The chain and its specification

What a chain is to be, in terms of the path: a step for each leader where the path meets it first,
the cap counted over the steps that are not skipped, the Branch Admin behind them, and each step
numbered by its place. The resolved chain is that chain, and is refused exactly when nobody on it
may decide.
-/

namespace FlockOs.Approvals

open Lib

/-- The step is one of the group tree. -/
def StepSpec.leads (step : StepSpec) : Bool := step.approverLevel ≠ .branchAdmin

/-- The steps before the depth cap. -/
def uncappedSteps (group requestedBy : String) (policy : ApprovalPolicy)
    (gateway : ApprovalChainGateway) (nodes : List ChainNode) : List StepSpec :=
  leaderSteps requestedBy policy gateway nodes ++
    terminator group policy gateway (leaderSteps requestedBy policy gateway nodes).length

/-- The path meets the leader here and not before. -/
def MetFirst (nodes : List ChainNode) (met : Occurrence) : Prop :=
  ∃ before after, occurrences nodes = before ++ met :: after ∧
    ∀ other ∈ before, other.leader ≠ met.leader

/-- A step is that of a leader at the group and the level where it is met. -/
structure StepOf (requestedBy : String) (policy : ApprovalPolicy) (gateway : ApprovalChainGateway)
    (met : Occurrence) (step : StepSpec) : Prop where
  /-- The leader. -/
  member : step.approverMember = some met.leader
  /-- The leader's user. -/
  user : step.approverUser = gateway.userForMember met.leader
  /-- The group. -/
  group : step.approverGroup = some met.group
  /-- The level: the gathering's group and its parent, or farther up. -/
  level : step.approverLevel =
    if met.depth ≤ 1 then .parentGroupLeader else .ancestorGroupLeader
  /-- The requester is skipped, unless it may approve its own request. -/
  skipped : step.stepStatus = .skipped ↔
    met.leader = requestedBy ∧ policy.allowSelfApproval = false
  /-- Anybody else is asked. -/
  pending : step.stepStatus = .pending ↔
    ¬(met.leader = requestedBy ∧ policy.allowSelfApproval = false)

/-- The steps kept under a cap, up to their places: all that are skipped, and the first of the
others. -/
structure KeptUnder (levels : Nat) (all kept : List StepSpec) : Prop where
  /-- In their order. -/
  ordered : (kept.map StepSpec.unplaced).Sublist (all.map StepSpec.unplaced)
  /-- The skipped ones. -/
  skipped : (kept.map StepSpec.unplaced).filter (fun step => step.stepStatus = .skipped) =
    (all.map StepSpec.unplaced).filter fun step => step.stepStatus = .skipped
  /-- The others. -/
  counted : (kept.map StepSpec.unplaced).filter (fun step => step.stepStatus ≠ .skipped) =
    ((all.map StepSpec.unplaced).filter fun step => step.stepStatus ≠ .skipped).take levels

/-- Steps that are numbered by their places. -/
def Placed (steps : List StepSpec) : Prop :=
  ∀ (idx : Nat) (step : StepSpec), steps[idx]? = some step → step.idx = idx

/-- A chain is as specified. -/
structure ChainSpecified (group requestedBy : String) (policy : ApprovalPolicy)
    (gateway : ApprovalChainGateway) (nodes : List ChainNode) (steps : List StepSpec) : Prop where
  /-- Before the cap each leader has a step, in the order in which the path meets them. -/
  leaders : ∃ firsts : List Occurrence, firsts.Sublist (occurrences nodes) ∧
    (firsts.map Occurrence.leader).Nodup ∧ (∀ met, met ∈ firsts ↔ MetFirst nodes met) ∧
    List.Forall₂ (StepOf requestedBy policy gateway) firsts
      ((uncappedSteps group requestedBy policy gateway nodes).filter StepSpec.leads)
  /-- A cap keeps the first steps that it counts. -/
  cap : ∀ levels, policy.maxApprovalLevels = some levels → 0 ≤ levels →
    KeptUnder levels.toNat
      ((uncappedSteps group requestedBy policy gateway nodes).filter StepSpec.leads)
      (steps.filter StepSpec.leads)
  /-- Without a cap every step is kept. -/
  whole : (∀ levels, policy.maxApprovalLevels = some levels → levels < 0) →
    steps = uncappedSteps group requestedBy policy gateway nodes
  /-- The Branch Admin comes last and once, when there is to be one. -/
  terminal : ∀ admin, terminatorMember group policy gateway = some admin →
    ∃ before last, steps = before ++ [last] ∧ (∀ step ∈ before, step.leads = true) ∧
      last.approverLevel = .branchAdmin ∧ last.approverMember = some admin ∧
      last.stepStatus = .pending
  /-- There is none otherwise. -/
  led : terminatorMember group policy gateway = none → ∀ step ∈ steps, step.leads = true
  /-- Each step is numbered by its place. -/
  placed : Placed steps

section Steps

variable {group requestedBy : String} {policy : ApprovalPolicy} {gateway : ApprovalChainGateway}
  {nodes : List ChainNode}

/-- The leader steps are those of the first occurrences, each at its place. -/
theorem leaderSteps_eq (requestedBy : String) (policy : ApprovalPolicy)
    (gateway : ApprovalChainGateway) (nodes : List ChainNode) :
    leaderSteps requestedBy policy gateway nodes =
      (firstOccurrences nodes).zipIdx.map fun met =>
        met.1.step requestedBy policy gateway met.2 :=
  (walkLeaders_walked nodes).specs

/-- The step of an occurrence is one of the group tree. -/
theorem leads_step (met : Occurrence) (idx : Nat) :
    (met.step requestedBy policy gateway idx).leads = true :=
  decide_eq_true (levelForDepth_ne met.depth)

/-- A leader step leads. -/
theorem leads_of_leaderSteps {step : StepSpec}
    (member : step ∈ leaderSteps requestedBy policy gateway nodes) : step.leads = true := by
  rw [leaderSteps_eq] at member
  obtain ⟨met, _, same⟩ := List.mem_map.mp member
  rw [← same]
  exact leads_step met.1 met.2

/-- The terminator does not lead. -/
theorem not_leads_of_terminator {idx : Nat} {step : StepSpec}
    (member : step ∈ terminator group policy gateway idx) : step.leads = false := by
  rcases terminator_eq idx with ⟨_, none⟩ | ⟨_, _, _, _, one⟩
  · rw [none] at member
    cases member
  · rw [one] at member
    rw [List.mem_singleton.mp member]
    rfl

/-- The leader steps among those before the cap. -/
theorem uncappedSteps_leads :
    (uncappedSteps group requestedBy policy gateway nodes).filter StepSpec.leads =
      leaderSteps requestedBy policy gateway nodes := by
  rw [uncappedSteps, List.filter_append,
    List.filter_eq_self.mpr fun step member => leads_of_leaderSteps member,
    List.filter_eq_nil_iff.mpr, List.append_nil]
  intro step member
  rw [not_leads_of_terminator member]
  exact Bool.false_ne_true

/-- The step of an occurrence is as specified. -/
theorem stepOf_step (met : Occurrence) (idx : Nat) :
    StepOf requestedBy policy gateway met (met.step requestedBy policy gateway idx) := by
  refine ⟨rfl, rfl, rfl, rfl, ?_, ?_⟩
  · rw [Occurrence.step, leaderStatus]
    split
    · next own => exact iff_of_true rfl own
    · next other => exact iff_of_false (by rintro ⟨⟩) other
  · rw [Occurrence.step, leaderStatus]
    split
    · next own => exact iff_of_false (by rintro ⟨⟩) (not_not.mpr own)
    · next other => exact iff_of_true rfl other

/-- The steps of some occurrences are as specified, from any place on. -/
theorem forall₂_steps : ∀ (firsts : List Occurrence) (place : Nat),
    List.Forall₂ (StepOf requestedBy policy gateway) firsts
      ((firsts.zipIdx place).map fun met => met.1.step requestedBy policy gateway met.2)
  | [], _ => .nil
  | met :: rest, place => .cons (stepOf_step met place) (forall₂_steps rest (place + 1))

/-- A step without its place leads as it did. -/
theorem leads_unplaced (step : StepSpec) : step.unplaced.leads = step.leads := rfl

/-- The leader steps of a chain, up to their places. -/
theorem chainSteps_leads (group requestedBy : String) (policy : ApprovalPolicy)
    (gateway : ApprovalChainGateway) (nodes : List ChainNode) :
    ((chainSteps group requestedBy policy gateway nodes).filter StepSpec.leads).map
        StepSpec.unplaced =
      (keptSteps policy (leaderSteps requestedBy policy gateway nodes)).map StepSpec.unplaced := by
  have split (steps : List StepSpec) : (steps.filter StepSpec.leads).map StepSpec.unplaced =
      (steps.map StepSpec.unplaced).filter StepSpec.leads := by
    rw [List.filter_map]
    rfl
  have kept : ∀ step ∈ keptSteps policy (leaderSteps requestedBy policy gateway nodes),
      step.leads = true := fun step member =>
    leads_of_leaderSteps ((keptSteps_sublist policy _).subset member)
  rw [split, chainSteps_unplaced, ← split, List.filter_append, List.filter_eq_self.mpr kept,
    List.filter_eq_nil_iff.mpr, List.append_nil]
  intro step member
  rw [not_leads_of_terminator member]
  exact Bool.false_ne_true

/-- Reindexed steps are numbered by their places. -/
theorem placed_reindexed (steps : List StepSpec) : Placed (reindexed steps) := by
  intro idx step there
  rw [reindexed, List.getElem?_map, List.getElem?_zipIdx] at there
  obtain ⟨given, found, same⟩ := Option.map_eq_some_iff.mp there
  obtain ⟨original, _, placed⟩ := Option.map_eq_some_iff.mp found
  rw [← same, ← placed, Nat.zero_add]

/-- The steps before the cap are numbered by their places. -/
theorem placed_uncapped : Placed (uncappedSteps group requestedBy policy gateway nodes) := by
  intro idx step there
  rw [uncappedSteps] at there
  by_cases within : idx < (leaderSteps requestedBy policy gateway nodes).length
  · rw [List.getElem?_append_left within, leaderSteps_eq, List.getElem?_map,
      List.getElem?_zipIdx] at there
    obtain ⟨given, found, same⟩ := Option.map_eq_some_iff.mp there
    obtain ⟨met, _, placed⟩ := Option.map_eq_some_iff.mp found
    rw [← same, ← placed, Nat.zero_add]
    rfl
  · have beyond := Nat.le_of_not_lt within
    rw [List.getElem?_append_right beyond] at there
    rcases terminator_eq (leaderSteps requestedBy policy gateway nodes).length with
      ⟨_, none⟩ | ⟨admin, branch, _, _, one⟩
    · rw [none] at there
      cases there
    · rw [one] at there
      rw [List.getElem?_singleton] at there
      split at there
      · next first =>
        rw [← Option.some.inj there]
        exact Nat.le_antisymm beyond (Nat.le_of_sub_eq_zero first)
      · cases there

/-- The steps of a chain are numbered by their places. -/
theorem placed_chainSteps : Placed (chainSteps group requestedBy policy gateway nodes) := by
  rw [chainSteps, capped]
  split
  · exact placed_uncapped
  · split
    · exact placed_reindexed _
    · exact placed_uncapped

/-- A chain without a cap is made of all steps. -/
theorem chainSteps_whole
    (uncapped : ∀ levels, policy.maxApprovalLevels = some levels → levels < 0) :
    chainSteps group requestedBy policy gateway nodes =
      uncappedSteps group requestedBy policy gateway nodes := by
  rw [chainSteps, capped]
  cases limit : policy.maxApprovalLevels with
  | none => rfl
  | some levels => exact if_neg (Int.not_le.mpr (uncapped levels limit))

/-- The cap keeps the first leader steps that it counts. -/
theorem keptUnder_chainSteps {levels : Int} (limit : policy.maxApprovalLevels = some levels)
    (positive : 0 ≤ levels) :
    KeptUnder levels.toNat (leaderSteps requestedBy policy gateway nodes)
      ((chainSteps group requestedBy policy gateway nodes).filter StepSpec.leads) := by
  have kept : keptSteps policy (leaderSteps requestedBy policy gateway nodes) =
      keepWithin levels (leaderSteps requestedBy policy gateway nodes) := by
    rw [keptSteps, limit]
    exact if_pos positive
  have filtered (has : StepSpec → Bool) (same : has ∘ StepSpec.unplaced = has)
      (steps : List StepSpec) :
      (steps.map StepSpec.unplaced).filter has = (steps.filter has).map StepSpec.unplaced := by
    rw [List.filter_map, same]
  constructor
  · rw [chainSteps_leads, kept]
    exact (keepWithin_sublist levels _).map StepSpec.unplaced
  · rw [chainSteps_leads, kept, filtered _ rfl, filtered _ rfl, keepWithin_skipped]
  · rw [chainSteps_leads, kept, filtered _ rfl, filtered _ rfl,
      keepWithin_unskipped levels _ positive, List.map_take]

/-- The Branch Admin's step ends the chain. -/
theorem chainSteps_terminal {admin : String}
    (acting : terminatorMember group policy gateway = some admin) :
    ∃ before last, chainSteps group requestedBy policy gateway nodes = before ++ [last] ∧
      (∀ step ∈ before, step.leads = true) ∧ last.approverLevel = .branchAdmin ∧
      last.approverMember = some admin ∧ last.stepStatus = .pending := by
  have same := chainSteps_unplaced group requestedBy policy gateway nodes
  rcases terminator_eq (leaderSteps requestedBy policy gateway nodes).length with
    ⟨none, _⟩ | ⟨other, branch, own, _, one⟩
  · rw [acting] at none
    cases none
  · rw [acting] at own
    cases own
    rw [one, List.map_append, List.map_singleton] at same
    obtain ⟨before, last, split, leaders, ends⟩ := List.map_eq_append_iff.mp same
    obtain ⟨final, rest, only, agrees, empty⟩ := List.map_eq_cons_iff.mp ends
    cases List.map_eq_nil_iff.mp empty
    refine ⟨before, final, by rw [split, only], fun step member => ?_, ?_⟩
    · have unplaced : step.unplaced ∈ before.map StepSpec.unplaced := List.mem_map_of_mem member
      rw [leaders] at unplaced
      obtain ⟨original, kept, agrees⟩ := List.mem_map.mp unplaced
      rw [← leads_unplaced, ← agrees, leads_unplaced]
      exact leads_of_leaderSteps ((keptSteps_sublist policy _).subset kept)
    · rw [unplaced_fields agrees]
      exact ⟨rfl, rfl, rfl⟩

/-- Without a Branch Admin to ask all steps are those of leaders. -/
theorem chainSteps_led (absent : terminatorMember group policy gateway = none) {step : StepSpec}
    (member : step ∈ chainSteps group requestedBy policy gateway nodes) : step.leads = true := by
  rcases mem_chainSteps member with ⟨_, _, led⟩ | ⟨_, _, terminal⟩
  · exact decide_eq_true led.level
  · rw [terminal.member] at absent
    cases absent

/-- The steps of a chain are as specified. -/
theorem chainSteps_specified (group requestedBy : String) (policy : ApprovalPolicy)
    (gateway : ApprovalChainGateway) (nodes : List ChainNode) :
    ChainSpecified group requestedBy policy gateway nodes
      (chainSteps group requestedBy policy gateway nodes) where
  leaders := by
    refine ⟨firstOccurrences nodes, firstPerKey_sublist _ _, nodup_firstPerKey _ _,
      fun met => mem_firstPerKey_iff, ?_⟩
    rw [uncappedSteps_leads, leaderSteps_eq]
    exact forall₂_steps (firstOccurrences nodes) 0
  cap := by
    intro levels limit positive
    rw [uncappedSteps_leads]
    exact keptUnder_chainSteps limit positive
  whole := chainSteps_whole
  terminal := fun _ acting => chainSteps_terminal acting
  led := fun absent _ member => chainSteps_led absent member
  placed := placed_chainSteps

/-- For a group and a requester the resolved chain is as specified, and it is refused exactly when
no step of it is pending. -/
theorem chain_specified (group requestedBy : String) (policy : ApprovalPolicy)
    (gateway : ApprovalChainGateway) (nodes : List ChainNode) (anchored : group ≠ "")
    (requested : requestedBy ≠ "") (read : gateway.chainNodesForGroup group = .ok nodes) :
    ∃ steps, ChainSpecified group requestedBy policy gateway nodes steps ∧
      ((∃ raised, resolveApprovalChain (some group) (some requestedBy) policy gateway =
          .error raised) ↔ ∀ step ∈ steps, step.stepStatus ≠ .pending) ∧
      ∀ returned, resolveApprovalChain (some group) (some requestedBy) policy gateway =
        .ok returned → returned = steps := by
  refine ⟨_, chainSteps_specified group requestedBy policy gateway nodes, ?_⟩
  rw [resolveApprovalChain, truthy_some anchored, truthy_some requested]
  dsimp only
  rw [read]
  dsimp only
  split
  · next approver =>
    obtain ⟨step, member, pending⟩ := List.any_eq_true.mp approver
    refine ⟨iff_of_false (by rintro ⟨_, ⟨⟩⟩) fun none => none step member
      (of_decide_eq_true pending), ?_⟩
    intro returned same
    exact (Except.ok.inj same).symm
  · next nobody =>
    refine ⟨iff_of_true ⟨_, rfl⟩ fun step member pending => nobody ?_, (by rintro _ ⟨⟩)⟩
    exact List.any_eq_true.mpr ⟨step, member, decide_eq_true pending⟩

/-- The policy without a cap. -/
def ApprovalPolicy.uncapped (policy : ApprovalPolicy) : ApprovalPolicy :=
  { policy with maxApprovalLevels := none }

/-- Numbered steps are the same when they agree up to their places. -/
theorem eq_of_placed {left right : List StepSpec} (placedLeft : Placed left)
    (placedRight : Placed right)
    (same : left.map StepSpec.unplaced = right.map StepSpec.unplaced) : left = right := by
  apply List.ext_getElem?
  intro idx
  have agrees : (left[idx]?).map StepSpec.unplaced = (right[idx]?).map StepSpec.unplaced := by
    rw [← List.getElem?_map, same, List.getElem?_map]
  cases here : left[idx]? with
  | none =>
    rw [here, Option.map_none] at agrees
    exact (Option.map_eq_none_iff.mp agrees.symm).symm
  | some step =>
    rw [here, Option.map_some] at agrees
    obtain ⟨other, there, alike⟩ := Option.map_eq_some_iff.mp agrees.symm
    have fields := unplaced_fields alike.symm
    rw [placedLeft idx step here, ← placedRight idx other there] at fields
    rw [there, fields]

/-- A cap of zero keeps all steps when each leader step is skipped, and only then. -/
theorem chainSteps_zero_iff (limit : policy.maxApprovalLevels = some 0) :
    chainSteps group requestedBy policy gateway nodes =
        uncappedSteps group requestedBy policy gateway nodes ↔
      ∀ step ∈ leaderSteps requestedBy policy gateway nodes, step.stepStatus = .skipped := by
  have kept : keptSteps policy (leaderSteps requestedBy policy gateway nodes) =
      keepWithin 0 (leaderSteps requestedBy policy gateway nodes) := by
    rw [keptSteps, limit]
    rfl
  have none : (keepWithin 0 (leaderSteps requestedBy policy gateway nodes)).filter
      (fun step => step.stepStatus ≠ .skipped) = [] := keepWithin_unskipped 0 _ (Int.le_refl 0)
  have spared : ∀ step ∈ keepWithin 0 (leaderSteps requestedBy policy gateway nodes),
      step.stepStatus = .skipped := by
    intro step member
    by_contra asked
    exact List.filter_eq_nil_iff.mp none step member (decide_eq_true asked)
  constructor
  · intro whole step member
    have same : (leaderSteps requestedBy policy gateway nodes).map StepSpec.unplaced =
        (keepWithin 0 (leaderSteps requestedBy policy gateway nodes)).map StepSpec.unplaced := by
      rw [← kept, ← chainSteps_leads group requestedBy policy gateway nodes, whole,
        uncappedSteps_leads]
    have unplaced : step.unplaced ∈
        (leaderSteps requestedBy policy gateway nodes).map StepSpec.unplaced :=
      List.mem_map_of_mem member
    rw [same] at unplaced
    obtain ⟨other, left, alike⟩ := List.mem_map.mp unplaced
    have skipped : step.unplaced.stepStatus = .skipped := by
      rw [← alike]
      exact spared other left
    exact skipped
  · intro skipped
    have all : keepWithin 0 (leaderSteps requestedBy policy gateway nodes) =
        leaderSteps requestedBy policy gateway nodes := by
      have left := keepWithin_skipped 0 (leaderSteps requestedBy policy gateway nodes)
      rw [List.filter_eq_self.mpr fun step member => decide_eq_true (spared step member),
        List.filter_eq_self.mpr fun step member => decide_eq_true (skipped step member)] at left
      exact left
    refine eq_of_placed placed_chainSteps placed_uncapped ?_
    rw [chainSteps_unplaced, kept, all]
    rfl

/-- A leader on the path who is to be asked. -/
def Asked (requestedBy : String) (policy : ApprovalPolicy) (nodes : List ChainNode) : Prop :=
  ∃ leader ∈ offered nodes, leader ≠ requestedBy ∨ policy.allowSelfApproval = true

/-- The step of a leader who is to be asked is pending. -/
theorem exists_pending (gateway : ApprovalChainGateway)
    (asked : Asked requestedBy policy nodes) :
    ∃ step ∈ leaderSteps requestedBy policy gateway nodes, step.stepStatus = .pending := by
  obtain ⟨leader, offers, other⟩ := asked
  rw [← occurrences_leaders] at offers
  obtain ⟨met, member, own⟩ := List.mem_map.mp offers
  obtain ⟨first, kept, same⟩ := exists_mem_firstPerKey Occurrence.leader member
  obtain ⟨idx, inside, there⟩ := List.mem_iff_getElem.mp kept
  have placed : (first, idx) ∈ (firstOccurrences nodes).zipIdx := by
    rw [List.mk_mem_zipIdx_iff_getElem?, ← there]
    exact List.getElem?_eq_getElem inside
  refine ⟨first.step requestedBy policy gateway idx, ?_, (stepOf_step first idx).pending.mpr ?_⟩
  · rw [leaderSteps_eq]
    exact List.mem_map.mpr ⟨_, placed, rfl⟩
  · rintro ⟨requester, off⟩
    rcases other with other | allowed
    · exact other (own.symm.trans (same.symm.trans requester))
    · rw [off] at allowed
      cases allowed

/-- All leader steps are skipped when no leader is to be asked. -/
theorem leaderSteps_skipped_iff :
    (∀ step ∈ leaderSteps requestedBy policy gateway nodes, step.stepStatus = .skipped) ↔
      ¬ Asked requestedBy policy nodes := by
  constructor
  · intro all asked
    obtain ⟨step, member, pending⟩ := exists_pending gateway asked
    rw [all step member] at pending
    cases pending
  · intro unasked step member
    rw [leaderSteps_eq] at member
    obtain ⟨met, placed, same⟩ := List.mem_map.mp member
    have offers : met.1.leader ∈ offered nodes := by
      rw [← occurrences_leaders]
      exact List.mem_map_of_mem (mem_of_mem_firstPerKey (List.fst_mem_of_mem_zipIdx placed))
    rw [← same]
    by_contra asked
    refine unasked ⟨met.1.leader, offers, ?_⟩
    rw [(stepOf_step met.1 met.2).skipped, not_and_or, Bool.not_eq_false] at asked
    exact asked

/-- A cap of zero changes a resolved chain exactly when a leader on the path is to be asked. -/
theorem resolve_zero_iff {group requestedBy : Option String}
    (limit : policy.maxApprovalLevels = some 0) :
    resolveApprovalChain group requestedBy policy gateway =
        resolveApprovalChain group requestedBy policy.uncapped gateway ↔
      ¬ ∃ anchor requester nodes, truthy group = some anchor ∧
        truthy requestedBy = some requester ∧ gateway.chainNodesForGroup anchor = .ok nodes ∧
        Asked requester policy nodes := by
  rw [resolveApprovalChain, resolveApprovalChain]
  cases anchored : truthy group with
  | none => exact iff_of_true rfl (by rintro ⟨_, _, _, ⟨⟩, _⟩)
  | some anchor =>
    cases requested : truthy requestedBy with
    | none => exact iff_of_true rfl (by rintro ⟨_, _, _, _, ⟨⟩, _⟩)
    | some requester =>
      dsimp only
      cases read : gateway.chainNodesForGroup anchor with
      | error raised =>
        refine iff_of_true rfl ?_
        rintro ⟨_, _, _, ⟨⟩, ⟨⟩, found, _⟩
        rw [read] at found
        cases found
      | ok nodes =>
        dsimp only
        have whole : chainSteps anchor requester policy.uncapped gateway nodes =
            uncappedSteps anchor requester policy gateway nodes := rfl
        have same : chainSteps anchor requester policy gateway nodes =
            uncappedSteps anchor requester policy gateway nodes ↔
              ¬ Asked requester policy nodes :=
          (chainSteps_zero_iff limit).trans leaderSteps_skipped_iff
        rw [whole]
        constructor
        · rintro alike ⟨_, _, _, ⟨⟩, ⟨⟩, found, asked⟩
          rw [read] at found
          cases found
          refine same.mp ?_ asked
          obtain ⟨step, member, pending⟩ := exists_pending gateway asked
          have approver : (uncappedSteps anchor requester policy gateway nodes).any
              (·.stepStatus = .pending) = true :=
            List.any_eq_true.mpr ⟨step, List.mem_append_left _ member, decide_eq_true pending⟩
          rw [if_pos approver] at alike
          split at alike
          · exact Except.ok.inj alike
          · cases alike
        · intro unasked
          rw [same.mpr fun asked => unasked ⟨anchor, requester, nodes, rfl, rfl, read, asked⟩]

end Steps

/-- A path on which a leader is met twice and an entry is empty. -/
def youthNodes : List ChainNode :=
  [⟨"Youth", ["ann", ""]⟩, ⟨"North", ["bob", "ann"]⟩, ⟨"All", ["dan"]⟩]

/-- The path, in a branch whose admin is Carl. -/
def youthGateway : ApprovalChainGateway where
  chainNodesForGroup _ := .ok youthNodes
  userForMember member := some (member ++ "@example.org")
  groupBranch _ := some "North"
  branchAdminMember _ := some "carl"
  branchAdminUser _ := some "carl@example.org"

/-- One leader step counts, besides those that are skipped. -/
def oneLevel : ApprovalPolicy where
  maxApprovalLevels := some 1

/-- Ann, who asks, is skipped, Bob is the one step that counts, and Carl ends the chain. -/
example : (chainSteps "Youth" "ann" oneLevel youthGateway youthNodes).map
    (fun step => (step.idx, step.approverMember, step.stepStatus)) =
      [(0, some "ann", .skipped), (1, some "bob", .pending), (2, some "carl", .pending)] := by
  decide

/-- The chain of the path is as specified. -/
theorem youth_chain_specified :
    ∃ steps, ChainSpecified "Youth" "ann" oneLevel youthGateway youthNodes steps ∧
      ((∃ raised, resolveApprovalChain (some "Youth") (some "ann") oneLevel youthGateway =
          .error raised) ↔ ∀ step ∈ steps, step.stepStatus ≠ .pending) ∧
      ∀ returned, resolveApprovalChain (some "Youth") (some "ann") oneLevel youthGateway =
        .ok returned → returned = steps :=
  chain_specified "Youth" "ann" oneLevel youthGateway youthNodes (by decide) (by decide) rfl

end FlockOs.Approvals
