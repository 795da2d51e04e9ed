import FlockOs.Verif.ApprovalRun

/-!
# Approving one's own request

The leader walk skips the requester and names nobody twice. The Branch Admin is put behind it
without either check, and the terminal step is decided by a role. The chain is free of the
requester, and its approvers are distinct, exactly when the Branch Admin is neither the
requester nor one of the leaders that the depth cap keeps. The requester's user then decides no
step unless it holds the role, or is linked to a second member.
-/

namespace FlockOs.Approvals

open Lib

/-- The leaders that the depth cap keeps of those that count for it. -/
def withinCap (policy : ApprovalPolicy) (leaders : List String) : List String :=
  match policy.maxApprovalLevels with
  | none => leaders
  | some levels => if 0 ≤ levels then leaders.take levels.toNat else leaders

/-- The Branch Admin of the chain, if it has one, is neither the requester nor one of the other
leaders that get a step. -/
def TerminatorApart (group requestedBy : String) (policy : ApprovalPolicy)
    (gateway : ApprovalChainGateway) (nodes : List ChainNode) : Prop :=
  ∀ admin, terminatorMember group policy gateway = some admin →
    admin ≠ requestedBy ∧ admin ∉ withinCap policy ((pathLeaders nodes).filter (· ≠ requestedBy))

section Chain

variable {group requestedBy : String} {policy : ApprovalPolicy} {gateway : ApprovalChainGateway}
  {nodes : List ChainNode}

/-- A leader's step is skipped exactly for the requester. -/
theorem leaderStep_skipped {step : StepSpec} {led leader : String}
    (strict : policy.allowSelfApproval = false)
    (found : LeaderStep requestedBy policy gateway nodes step led leader) :
    step.stepStatus = .skipped ↔ step.approverMember = some requestedBy := by
  rw [found.status, found.member, leaderStatus, Option.some.injEq]
  by_cases self : leader = requestedBy
  · rw [if_pos ⟨self, strict⟩]
    exact ⟨fun _ => self, fun _ => rfl⟩
  · rw [if_neg fun both => self both.1]
    exact ⟨(by rintro ⟨⟩), fun same => absurd same self⟩

/-- The kept steps that are not skipped are those of the counted leaders within the cap. -/
theorem keptSteps_unskipped (requestedBy : String) (gateway : ApprovalChainGateway)
    (nodes : List ChainNode) (strict : policy.allowSelfApproval = false) :
    ((keptSteps policy (leaderSteps requestedBy policy gateway nodes)).filter
        (fun step => step.stepStatus ≠ .skipped)).map (·.approverMember) =
      (withinCap policy ((pathLeaders nodes).filter (· ≠ requestedBy))).map some := by
  have tracks : Tracks requestedBy policy gateway nodes (offered nodes)
      (walkLeaders requestedBy policy gateway nodes) := walkLeaders_tracks nodes
  have counted : ((leaderSteps requestedBy policy gateway nodes).filter
      (fun step => step.stepStatus ≠ .skipped)).map (·.approverMember) =
      ((pathLeaders nodes).filter (· ≠ requestedBy)).map some := by
    have others : ∀ step ∈ leaderSteps requestedBy policy gateway nodes,
        decide (step.stepStatus ≠ .skipped) =
          ((fun member => decide (member ≠ some requestedBy)) ∘ (·.approverMember)) step := by
      intro step member
      obtain ⟨_, _, found⟩ := tracks.steps step member
      exact decide_eq_decide.mpr (leaderStep_skipped strict found).not
    have names : ∀ leader ∈ pathLeaders nodes,
        ((fun member => decide (member ≠ some requestedBy)) ∘ some) leader =
          decide (leader ≠ requestedBy) := by
      intro leader _
      simp
    rw [List.filter_congr others, ← List.filter_map, leaderSteps, tracks.members, List.filter_map]
    exact congrArg _ (List.filter_congr names)
  rw [keptSteps, withinCap]
  cases policy.maxApprovalLevels with
  | none => exact counted
  | some levels =>
    by_cases positive : 0 ≤ levels
    · simp only [if_pos positive]
      rw [keepWithin_unskipped levels _ positive, List.map_take, counted, List.map_take]
    · simp only [if_neg positive]
      exact counted

/-- The approvers of the leader steps are distinct. -/
theorem leaderSteps_distinct (requestedBy : String) (policy : ApprovalPolicy)
    (gateway : ApprovalChainGateway) (nodes : List ChainNode) :
    ((leaderSteps requestedBy policy gateway nodes).map (·.approverMember)).Nodup := by
  rw [leaderSteps, (walkLeaders_tracks nodes).members]
  have distinct := nodup_firstPerKey (id : String → String) (offered nodes)
  rw [List.map_id] at distinct
  exact distinct.map fun _ _ same => Option.some.inj same

/-- A member other than the requester has a kept step exactly when it is a counted leader within
the cap. -/
theorem mem_keptSteps {admin : String} (strict : policy.allowSelfApproval = false)
    (other : admin ≠ requestedBy) :
    some admin ∈ (keptSteps policy
        (leaderSteps requestedBy policy gateway nodes)).map (·.approverMember) ↔
      admin ∈ withinCap policy ((pathLeaders nodes).filter (· ≠ requestedBy)) := by
  have unskipped := keptSteps_unskipped requestedBy gateway nodes strict
  constructor
  · intro member
    obtain ⟨step, kept, same⟩ := List.mem_map.mp member
    obtain ⟨_, _, found⟩ := (walkLeaders_tracks nodes).steps step
      ((keptSteps_sublist policy _).subset kept)
    have counts : step.stepStatus ≠ .skipped := by
      intro skipped
      rw [leaderStep_skipped strict found, show step.approverMember = some admin from same] at skipped
      exact other (Option.some.inj skipped)
    have inside : some admin ∈ ((keptSteps policy (leaderSteps requestedBy policy gateway
        nodes)).filter (fun step => step.stepStatus ≠ .skipped)).map (·.approverMember) :=
      List.mem_map.mpr ⟨step, List.mem_filter.mpr ⟨kept, decide_eq_true counts⟩, same⟩
    rw [unskipped] at inside
    simpa using inside
  · intro member
    have inside : some admin ∈ (withinCap policy
        ((pathLeaders nodes).filter (· ≠ requestedBy))).map some := List.mem_map_of_mem member
    rw [← unskipped] at inside
    obtain ⟨step, kept, same⟩ := List.mem_map.mp inside
    exact List.mem_map.mpr ⟨step, (List.mem_filter.mp kept).1, same⟩

/-- The approvers of a chain, in order. -/
theorem chainSteps_members (group requestedBy : String) (policy : ApprovalPolicy)
    (gateway : ApprovalChainGateway) (nodes : List ChainNode) :
    (chainSteps group requestedBy policy gateway nodes).map (·.approverMember) =
      (keptSteps policy (leaderSteps requestedBy policy gateway nodes)).map (·.approverMember) ++
        (terminatorMember group policy gateway).toList.map some := by
  have member : (fun step : StepSpec => step.approverMember) =
      (fun step : StepSpec => step.approverMember) ∘ StepSpec.unplaced := rfl
  rw [member, ← List.map_map, chainSteps_unplaced, List.map_map, List.map_append]
  congr 1
  rcases terminator_eq (leaderSteps requestedBy policy gateway nodes).length with
    ⟨none, empty⟩ | ⟨admin, branch, acting, _, one⟩
  · rw [none, empty]
    rfl
  · rw [acting, one]
    rfl

/-- The requester has a pending step exactly when it is the Branch Admin of the chain. -/
theorem requester_pending_iff (group requestedBy : String) (gateway : ApprovalChainGateway)
    (nodes : List ChainNode) (strict : policy.allowSelfApproval = false) :
    (∃ step ∈ chainSteps group requestedBy policy gateway nodes,
      step.stepStatus = .pending ∧ step.approverMember = some requestedBy) ↔
      terminatorMember group policy gateway = some requestedBy := by
  constructor
  · rintro ⟨step, member, pending, self⟩
    rcases mem_chainSteps member with ⟨_, _, led⟩ | ⟨admin, _, terminal⟩
    · rw [(leaderStep_skipped strict led).mpr self] at pending
      cases pending
    · rw [terminal.approver] at self
      rw [terminal.member, self]
  · intro acting
    rcases terminator_eq (leaderSteps requestedBy policy gateway nodes).length with
      ⟨none, _⟩ | ⟨admin, branch, other, _, one⟩
    · rw [none] at acting
      cases acting
    · have placed : (⟨(leaderSteps requestedBy policy gateway nodes).length, .branchAdmin,
          some admin, gateway.branchAdminUser branch, none, .pending⟩ : StepSpec).unplaced ∈
          (chainSteps group requestedBy policy gateway nodes).map StepSpec.unplaced := by
        rw [chainSteps_unplaced, one]
        exact List.mem_map_of_mem (List.mem_append_right _ (List.mem_singleton_self _))
      obtain ⟨step, member, same⟩ := List.mem_map.mp placed
      have fields := unplaced_fields same
      rw [other] at acting
      exact ⟨step, member, by rw [fields], by rw [fields, Option.some.inj acting]⟩

/-- A chain has no pending step for the requester and no approver twice exactly when its Branch
Admin stands apart. -/
theorem chain_apart_iff (strict : policy.allowSelfApproval = false) :
    ((∀ step ∈ chainSteps group requestedBy policy gateway nodes,
        step.stepStatus = .pending → step.approverMember ≠ some requestedBy) ∧
      ((chainSteps group requestedBy policy gateway nodes).map (·.approverMember)).Nodup) ↔
    TerminatorApart group requestedBy policy gateway nodes := by
  have distinct := leaderSteps_distinct requestedBy policy gateway nodes
  have kept := distinct.sublist ((keptSteps_sublist policy _).map (·.approverMember))
  have self := requester_pending_iff group requestedBy gateway nodes strict
  rw [chainSteps_members, TerminatorApart]
  cases acting : terminatorMember group policy gateway with
  | none =>
    rw [acting] at self
    refine ⟨fun _ => nofun, fun _ => ⟨?_, ?_⟩⟩
    · intro step member pending same
      cases self.mp ⟨step, member, pending, same⟩
    · simpa using kept
  | some admin =>
    rw [acting] at self
    have last : (Option.toList (some admin)).map some = [some admin] := rfl
    rw [last, List.nodup_append]
    constructor
    · rintro ⟨none, _, _, apart⟩ other same
      obtain rfl := Option.some.inj same
      have differs : admin ≠ requestedBy := by
        rintro rfl
        obtain ⟨step, member, pending, own⟩ := self.mpr rfl
        exact none step member pending own
      refine ⟨differs, fun counted => ?_⟩
      exact apart _ ((mem_keptSteps strict differs).mpr counted) _ (List.mem_singleton_self _) rfl
    · intro apart
      obtain ⟨differs, uncounted⟩ := apart admin rfl
      refine ⟨?_, kept, List.nodup_singleton _, ?_⟩
      · intro step member pending own
        exact differs (Option.some.inj (self.mp ⟨step, member, pending, own⟩))
      · intro first member second single same
        rw [same, List.mem_singleton.mp single] at member
        exact uncounted ((mem_keptSteps strict differs).mp member)

end Chain

end FlockOs.Approvals

namespace FlockOs.EventApproval

open Lib Permissions Directory Approvals

/-- The session user is the one linked to the member. -/
def Session.Own (session : Session) (member : String) : Prop :=
  userForMember session.tables member = some session.user

instance (session : Session) (member : String) : Decidable (session.Own member) :=
  inferInstanceAs (Decidable (_ = _))

/-- The session user is a Branch Admin with access to the branch. -/
def Session.AdminOf (session : Session) (branch : Option String) : Prop :=
  roleBranchAdmin ∈ session.tables.getRoles session.user ∧
    canAccessBranch branch (session.tables.listBranchUserPermissions session.user)
      (session.tables.getRoles session.user) = true

instance (session : Session) (branch : Option String) : Decidable (session.AdminOf branch) :=
  inferInstanceAs (Decidable (_ ∧ _))

/-- When the session user is the requester's, it was linked to no second member at the submit
and is linked to none now, and it is not a Branch Admin for a chain that ends with one. -/
structure Detached (submitted : Tables) (policy : ApprovalPolicy) (group requestedBy : String)
    (branch : Option String) (session : Session) : Prop where
  /-- No second member had the user at the submit. -/
  before : session.Own requestedBy → ∀ member,
    userForMember submitted member = some session.user → member = requestedBy
  /-- No second member has the user now. -/
  now : session.Own requestedBy → ∀ member, session.Own member → member = requestedBy
  /-- The user does not hold the role that ends the chain. -/
  role : session.Own requestedBy →
    terminatorMember group policy (frappeApprovalChainGateway submitted) ≠ none →
      ¬session.AdminOf branch

/-- A user who may decide a step is linked to its approver, at the submit or now, or is a Branch
Admin for the terminal step. -/
theorem decider_cases {session : Session} {step : StepView}
    (may : canDecideApprovalStep step session.user (frappePermissionGateway session.tables) = true) :
    step.approverUser = some session.user ∨
      (∃ member, step.approverMember = some member ∧ session.Own member) ∨
      step.approverLevel = .branchAdmin ∧ session.AdminOf step.docBranch := by
  rw [canDecideApprovalStep] at may
  split at may
  · cases may
  · rename_i identity
    rcases (Bool.or_eq_true _ _).mp (not_not.mp identity) with named | role
    · rw [isNamedApprover, Bool.or_eq_true] at named
      rcases named with user | member
      · exact .inl (names_iff.mp user).1
      · right
        left
        split at member
        · cases member
        · rename_i own truth
          exact ⟨own, (names_iff.mp member).1, userForMember_of_resolved (truthy_eq_some truth)⟩
    · right
      right
      simp only [isBranchAdminFor, Bool.and_eq_true, beq_iff_eq, List.contains_iff_mem] at role
      exact ⟨role.1.1, role.1.2, role.2⟩

section Run

variable {submitted : Tables} {policy : ApprovalPolicy} {group requestedBy : String}
  {nodes : List ChainNode}

/-- The requester's user may decide no pending step of the chain. -/
theorem Detached.refused {session : Session} {approval : Approval} {spec : StepSpec} {idx : Nat}
    (detached : Detached submitted policy group requestedBy approval.branch session)
    (strict : policy.allowSelfApproval = false)
    (apart : TerminatorApart group requestedBy policy (frappeApprovalChainGateway submitted) nodes)
    (own : session.Own requestedBy)
    (member : spec ∈ chainSteps group requestedBy policy (frappeApprovalChainGateway submitted)
      nodes) (pending : spec.stepStatus = .pending) :
    canDecideApprovalStep (stepView approval idx (materialized spec)) session.user
      (frappePermissionGateway session.tables) ≠ true := by
  intro may
  have decided := decider_cases may
  rcases mem_chainSteps member with ⟨_, leader, led⟩ | ⟨admin, branch, terminal⟩
  · have other : leader ≠ requestedBy := by
      rintro rfl
      rw [(leaderStep_skipped strict led).mpr led.member] at pending
      cases pending
    rcases decided with user | ⟨approver, named, linked⟩ | ⟨level, _⟩
    · exact other (detached.before own leader (led.user.symm.trans user))
    · have same : leader = approver := Option.some.inj (led.member.symm.trans named)
      exact other (same.trans (detached.now own approver linked))
    · exact led.level level
  · obtain ⟨other, _⟩ := apart admin terminal.member
    rcases decided with user | ⟨approver, named, linked⟩ | ⟨_, role⟩
    · have acting : truthy (branchAdminMember submitted branch) = some admin := by
        have found := terminal.member
        rw [terminatorMember] at found
        split at found
        · rw [terminal.anchored] at found
          exact found
        · cases found
      have linked : userForMember submitted admin = some session.user := by
        have given : spec.approverUser =
            (branchAdminMember submitted branch).bind (userForMember submitted) := terminal.user
        rw [truthy_eq_some acting] at given
        exact given.symm.trans user
      exact other (detached.before own admin linked)
    · have same : admin = approver := Option.some.inj (terminal.approver.symm.trans named)
      exact other (same.trans (detached.now own approver linked))
    · refine detached.role own ?_ role
      rw [terminal.member]
      rintro ⟨⟩

/-- The approval has the branch of its submit, and each step of it that is still pending is a
pending step of the chain. -/
structure OnChain (branch : Option String) (specs : List StepSpec) (approval : Approval) :
    Prop where
  /-- The branch. -/
  branch : approval.branch = branch
  /-- The steps. -/
  pending : ∀ step ∈ approval.steps, step.stepStatus = .pending →
    ∃ spec ∈ specs, spec.stepStatus = .pending ∧ step = materialized spec

/-- The approved step leaves the others on the chain. -/
theorem OnChain.decided {branch : Option String} {specs : List StepSpec} {approval : Approval}
    (kept : OnChain branch specs approval) (session : Session) (idx : Nat) (row : ApprovalStep)
    (comment : String) : OnChain branch specs (approval.decided session idx row .approved comment) := by
  refine ⟨kept.branch, fun step member pending => ?_⟩
  rcases List.mem_or_eq_of_mem_set member with old | new
  · exact kept.pending step old pending
  · rw [new] at pending
    cases pending

/-- What is saved stays on the chain. -/
theorem Saved.onChain {branch : Option String} {specs : List StepSpec}
    {stored approval saved : Approval} (held : Saved stored approval saved)
    (kept : OnChain branch specs approval) : OnChain branch specs saved := by
  obtain ⟨_, written⟩ := held.written
  rw [written]
  exact ⟨kept.branch, kept.pending⟩

/-- An approval stays on the chain. -/
theorem OnChain.approve {branch : Option String} {specs : List StepSpec} {desk : Desk}
    {call : Session × Action} (kept : OnChain branch specs desk.approval)
    (approves : ∃ comment, call.2 = .approve comment) :
    OnChain branch specs (desk.perform call).approval := by
  rcases perform_cases desk call with ⟨_, same, _, _⟩ | ⟨_, took⟩
  · rw [same]
    exact kept
  · obtain ⟨comment, action⟩ := approves
    rw [action] at took
    cases took with
    | advanced _ idx _ row _ _ saved _ _ =>
      have decided := kept.decided call.1 idx row ((truthy comment).getD "")
      exact saved.onChain ⟨decided.branch, decided.pending⟩
    | finalized _ idx row _ _ saved _ _ =>
      have decided := kept.decided call.1 idx row ((truthy comment).getD "")
      exact saved.onChain ⟨decided.branch, decided.pending⟩

/-- The step that may be decided is pending. -/
theorem MayDecide.row_pending {session : Session} {approval : Approval} {idx : Nat}
    {step : ApprovalStep} (current : MayDecide session approval idx step) :
    step.stepStatus = .pending := by
  obtain ⟨_, pending, _⟩ := currentStepIndex_eq_some.mp current.current
  rw [Approval.statuses, List.getElem?_map, current.row] at pending
  exact Option.some.inj pending

/-- No call of a requester's detached user decides a step. -/
theorem Detached.undecided {desk : Desk} {call : Session × Action}
    {branch : Option String} (detached : Detached submitted policy group requestedBy branch call.1)
    (strict : policy.allowSelfApproval = false)
    (apart : TerminatorApart group requestedBy policy (frappeApprovalChainGateway submitted) nodes)
    (kept : OnChain branch (chainSteps group requestedBy policy
      (frappeApprovalChainGateway submitted) nodes) desk.approval)
    (approves : ∃ comment, call.2 = .approve comment) (returns : Returns desk call) :
    ¬call.1.Own requestedBy := by
  intro own
  have checked : ∃ idx row, MayDecide call.1 desk.approval idx row := by
    rcases perform_cases desk call with ⟨raised, _⟩ | ⟨_, took⟩
    · exact absurd returns raised
    · obtain ⟨comment, action⟩ := approves
      rw [action] at took
      cases took with
      | advanced _ idx _ row current _ _ _ _ => exact ⟨idx, row, current⟩
      | finalized _ idx row current _ _ _ _ => exact ⟨idx, row, current⟩
  obtain ⟨idx, row, current⟩ := checked
  obtain ⟨spec, member, pending, same⟩ :=
    kept.pending row (List.mem_of_getElem? current.row) current.row_pending
  have may := current.entitled
  rw [same] at may
  rw [← kept.branch] at detached
  exact detached.refused strict apart own member pending may

/-- The chain has no pending step for the requester and no approver twice exactly when its
Branch Admin stands apart. No run of approvals on it then has a step decided by the requester's
user, as long as that user is detached. -/
theorem self_approval_excluded (submitted : Tables) (policy : ApprovalPolicy)
    (group requestedBy : String) (nodes : List ChainNode) (specs : List StepSpec) (start : Desk)
    (calls : List (Session × Action)) (strict : policy.allowSelfApproval = false)
    (anchored : truthy start.approval.group = some group)
    (requesting : truthy start.approval.requestedBy = some requestedBy)
    (read : chainNodesForGroup submitted group = .ok nodes)
    (resolved : resolveApprovalChain start.approval.group start.approval.requestedBy policy
      (frappeApprovalChainGateway submitted) = .ok specs)
    (routed : start.approval.steps = specs.map materialized)
    (approves : ∀ call ∈ calls, ∃ comment, call.2 = .approve comment) :
    (((∀ step ∈ specs, step.stepStatus = .pending → step.approverMember ≠ some requestedBy) ∧
        (specs.map (·.approverMember)).Nodup) ↔
      TerminatorApart group requestedBy policy (frappeApprovalChainGateway submitted) nodes) ∧
    (TerminatorApart group requestedBy policy (frappeApprovalChainGateway submitted) nodes →
      (∀ call ∈ calls,
        Detached submitted policy group requestedBy start.approval.branch call.1) →
      EveryCall Desk.perform (fun desk call => Returns desk call → ¬call.1.Own requestedBy)
        start calls) := by
  have chain : specs = chainSteps group requestedBy policy
      (frappeApprovalChainGateway submitted) nodes := by
    have ⟨anchor, requester, path, sameGroup, sameRequester, samePath, found, _⟩ :=
      resolveApprovalChain_ok resolved
    rw [anchored] at sameGroup
    rw [requesting] at sameRequester
    rw [found, ← Option.some.inj sameGroup, ← Option.some.inj sameRequester]
    rw [← Option.some.inj sameGroup] at samePath
    have given : (frappeApprovalChainGateway submitted).chainNodesForGroup group = .ok nodes := read
    rw [given] at samePath
    rw [← Except.ok.inj samePath]
  rw [chain]
  refine ⟨chain_apart_iff strict, fun apart detached => ?_⟩
  have initial : OnChain start.approval.branch (chainSteps group requestedBy policy
      (frappeApprovalChainGateway submitted) nodes) start.approval := by
    refine ⟨rfl, fun step member pending => ?_⟩
    rw [routed, chain] at member
    have ⟨spec, given, same⟩ := List.mem_map.mp member
    rw [← same] at pending ⊢
    exact ⟨spec, given, pending, rfl⟩
  have every : EveryCall Desk.perform (fun _ call => (∃ comment, call.2 = .approve comment) ∧
      Detached submitted policy group requestedBy start.approval.branch call.1) start calls :=
    everyCall_of_forall start fun call member => ⟨approves call member, detached call member⟩
  exact every.conclude (fun desk => OnChain start.approval.branch _ desk.approval)
    (fun desk call held allowed => held.approve allowed.1)
    (fun desk call held allowed returns => allowed.2.undecided strict apart held allowed.1 returns)
    initial

end Run

/-- A member who leads no group. -/
def carol : Member where
  name := "MEM-00003"
  linkedUser := some "carol@example.org"
  named := by decide

/-- The camp's tables with Carol, and a Branch Admin of the branch. -/
def adminTables (admin : String) : Tables where
  groups := campTables.groups
  members := ⟨campTables.members.rows ++ [carol], by decide⟩
  hasRole := [(admin, roleBranchAdmin)]
  branchPermissions := ("carol@example.org", "North") :: campTables.branchPermissions
  getRoles := fun user => if user = admin then [roleBranchAdmin] else [roleGroupLeader]

/-- A call of a user under a Branch Admin. -/
def adminSession (admin user : String) (now : Int) : Session where
  tables := adminTables admin
  user := user
  now := now

/-- The path of Ann's camp to the root. -/
def campNodes : List ChainNode :=
  [⟨"North-Youth", ["MEM-00001"]⟩, ⟨"North-All", ["MEM-00002"]⟩]

/-- The chain of Ann's camp under a Branch Admin. -/
def adminChain (admin : String) : List StepSpec :=
  chainSteps "North-Youth" "MEM-00001" defaultPolicy
    (frappeApprovalChainGateway (adminTables admin)) campNodes

/-- The camp as Ann's submit leaves it. -/
def adminDesk (admin : String) : Desk :=
  campDesk.perform (adminSession admin "ann@example.org" 1, .submit)

/-- Ann tries each step before Bob and Carol approve it. -/
def adminRun (admin : String) : List (Session × Action) :=
  [(adminSession admin "ann@example.org" 2, .approve none),
    (adminSession admin "bob@example.org" 3, .approve none),
    (adminSession admin "ann@example.org" 4, .approve none),
    (adminSession admin "carol@example.org" 5, .approve none)]

/-- Under Carol every user is detached from Ann's request. -/
theorem carol_detached (user : String) (now : Int) :
    Detached (adminTables "carol@example.org") defaultPolicy "North-Youth" "MEM-00001"
      (some "North") (adminSession "carol@example.org" user now) := by
  have ann (own : (adminSession "carol@example.org" user now).Own "MEM-00001") :
      user = "ann@example.org" := (Option.some.inj own).symm
  have sole : ∀ row ∈ (adminTables "carol@example.org").members.rows,
      row.linkedUser = some "ann@example.org" → row.name = "MEM-00001" := by decide
  have linked (member : String) (own : userForMember (adminTables "carol@example.org") member =
      some "ann@example.org") : member = "MEM-00001" := by
    obtain ⟨row, inside, same, given⟩ := userForMember_eq_some.mp own
    exact same.symm.trans (sole row inside given)
  refine ⟨fun own member given => ?_, fun own member given => ?_, fun own _ role => ?_⟩
  · have same := ann own
    subst same
    exact linked member given
  · have same := ann own
    subst same
    exact linked member given
  · have same := ann own
    subst same
    have refused :
        ¬(adminSession "carol@example.org" "ann@example.org" 0).AdminOf (some "North") := by decide
    exact refused role

/-- Under Carol no step of Ann's camp is decided by Ann. -/
theorem carol_decides_anns_camp :
    (((∀ step ∈ adminChain "carol@example.org",
          step.stepStatus = .pending → step.approverMember ≠ some "MEM-00001") ∧
        ((adminChain "carol@example.org").map (·.approverMember)).Nodup) ↔
      TerminatorApart "North-Youth" "MEM-00001" defaultPolicy
        (frappeApprovalChainGateway (adminTables "carol@example.org")) campNodes) ∧
    EveryCall Desk.perform (fun desk call => Returns desk call → ¬call.1.Own "MEM-00001")
      (adminDesk "carol@example.org") (adminRun "carol@example.org") := by
  have excluded := self_approval_excluded (adminTables "carol@example.org") defaultPolicy
    "North-Youth" "MEM-00001" campNodes (adminChain "carol@example.org")
    (adminDesk "carol@example.org") (adminRun "carol@example.org") rfl rfl rfl rfl rfl rfl (by
      intro call member
      simp only [adminRun, List.mem_cons, List.not_mem_nil, or_false] at member
      rcases member with rfl | rfl | rfl | rfl <;> exact ⟨none, rfl⟩)
  refine ⟨excluded.1, excluded.2 (excluded.1.mp (by decide)) ?_⟩
  intro call member
  simp only [adminRun, List.mem_cons, List.not_mem_nil, or_false] at member
  rcases member with rfl | rfl | rfl | rfl <;> exact carol_detached _ _

/-- Ann as Branch Admin has a pending step of her own behind her skipped one, and approves it. -/
theorem ann_approves_her_own_camp :
    resolveApprovalChain (some "North-Youth") (some "MEM-00001") defaultPolicy
        (frappeApprovalChainGateway (adminTables "ann@example.org")) =
      .ok (adminChain "ann@example.org") ∧
    defaultPolicy.allowSelfApproval = false ∧
    (∃ step ∈ adminChain "ann@example.org",
      step.stepStatus = .pending ∧ step.approverMember = some "MEM-00001") ∧
    ¬((adminChain "ann@example.org").map (·.approverMember)).Nodup ∧
    (adminSession "ann@example.org" "ann@example.org" 4).Own "MEM-00001" ∧
    (adminDesk "ann@example.org").approval.steps =
      (adminChain "ann@example.org").map materialized ∧
    (runAll Desk.perform (adminDesk "ann@example.org")
      (adminRun "ann@example.org")).approval.steps.map (·.decidedBy) =
        [none, some "bob@example.org", some "ann@example.org"] := by
  refine ⟨rfl, rfl, ?_, ?_, ?_, ?_, ?_⟩ <;> decide

end FlockOs.EventApproval
