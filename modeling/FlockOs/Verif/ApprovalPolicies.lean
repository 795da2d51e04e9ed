import FlockOs.ApprovalPolicies
import FlockOs.Verif.ChainGuard
import FlockOs.Verif.ChainSpecification
import FlockOs.Verif.SelfApproval

/-!
# Caps that were never filled in

The form of a policy says that an empty cap means the whole walk. The framework stores an empty
`Int` field as 0, the mapper tells 0 from no value, and the resolver takes 0 for a cap, so that no
leader is asked.
-/

namespace FlockOs.ApprovalPolicies

open Lib Approvals EventApproval Directory Traversal

/-- The steps of a submitted approval that is pending are those resolved for it. -/
theorem submitted_chain {session : Session} {desk next : Desk}
    (took : Took session desk next .submit) (pending : next.approval.status = .pending) :
    ∃ specs, resolveChainFor session desk.approval = .ok specs ∧
      next.approval.steps = specs.map materialized := by
  cases took with
  | autoApproved _ _ saved _ _ =>
    have approved : next.approval.status = .approved := saved.status
    rw [approved] at pending
    cases pending
  | routed _ _ specs resolved saved _ _ _ => exact ⟨specs, resolved, saved.steps⟩

/-- A leader of a group on the approval's path is to be asked. -/
def LeaderAsked (tables : Tables) (approval : Approval) (allowSelfApproval : Bool) : Prop :=
  ∃ anchor requester path, truthy approval.group = some anchor ∧
    truthy approval.requestedBy = some requester ∧ groupPathToRoot tables anchor = .ok path ∧
    ∃ group ∈ path, ∃ leader ∈ leadersOf tables group,
      leader ≠ requester ∨ allowSelfApproval = true

/-- The leaders of a group are not empty. -/
theorem leadersOf_nonempty {tables : Tables} {group : Group} {leader : String}
    (leads : leader ∈ leadersOf tables group) : leader ≠ "" := by
  rcases mem_foldl_joinLeaders.mp leads with accountable | ⟨_, named⟩
  · exact truthy_nonempty (Option.mem_toList.mp accountable)
  · exact named

/-- The leaders on the nodes of a path are those of its groups. -/
theorem mem_offered_chainNodes {tables : Tables} {path : List Group} {leader : String} :
    leader ∈ offered (path.filterMap (chainNode tables)) ↔
      ∃ group ∈ path, leader ∈ leadersOf tables group := by
  rw [offered, List.mem_filter]
  constructor
  · rintro ⟨led, _⟩
    obtain ⟨node, inside, among⟩ := List.mem_flatMap.mp led
    obtain ⟨group, passed, drawn⟩ := List.mem_filterMap.mp inside
    rw [chainNode] at drawn
    split at drawn
    · cases drawn
    · rw [← Option.some.inj drawn] at among
      exact ⟨group, passed, among⟩
  · rintro ⟨group, passed, leads⟩
    refine ⟨List.mem_flatMap.mpr ⟨⟨group.name, leadersOf tables group⟩, ?_, leads⟩,
      decide_eq_true (leadersOf_nonempty leads)⟩
    refine List.mem_filterMap.mpr ⟨group, passed, ?_⟩
    rw [chainNode, if_neg]
    rw [List.isEmpty_iff]
    exact List.ne_nil_of_mem leads

/-- A leader is to be asked on the path exactly when one is on its nodes. -/
theorem leaderAsked_iff {tables : Tables} {approval : Approval} {policy : ApprovalPolicy} :
    LeaderAsked tables approval policy.allowSelfApproval ↔
      ∃ anchor requester nodes, truthy approval.group = some anchor ∧
        truthy approval.requestedBy = some requester ∧
        (frappeApprovalChainGateway tables).chainNodesForGroup anchor = .ok nodes ∧
        Asked requester policy nodes := by
  constructor
  · rintro ⟨anchor, requester, path, anchored, requested, walked, group, passed, leader, leads,
      other⟩
    refine ⟨anchor, requester, path.filterMap (chainNode tables), anchored, requested, ?_,
      leader, mem_offered_chainNodes.mpr ⟨group, passed, leads⟩, other⟩
    exact congrArg (Except.map (List.filterMap (chainNode tables))) walked
  · rintro ⟨anchor, requester, nodes, anchored, requested, read, leader, offers, other⟩
    have drawn : chainNodesForGroup tables anchor = .ok nodes := read
    rw [chainNodesForGroup] at drawn
    cases walked : groupPathToRoot tables anchor with
    | error raised =>
      rw [walked] at drawn
      cases drawn
    | ok path =>
      rw [walked] at drawn
      rw [← Except.ok.inj drawn] at offers
      obtain ⟨group, passed, leads⟩ := mem_offered_chainNodes.mp offers
      exact ⟨anchor, requester, path, anchored, requested, walked, group, passed, leader, leads,
        other⟩

/-- Under a policy whose cap was never filled in the chain of an approval is the whole walk
exactly when no leader on the path is to be asked. -/
theorem unset_cap_walks_iff (session : Session) (approval : Approval)
    (rows : String → Option PolicyRow) (policyName : String) (form : PolicyForm)
    (read : session.policies = policiesFromRows rows)
    (chosen : approval.approvalPolicy = some policyName) (named : policyName ≠ "")
    (stored : rows policyName = some form.stored) (unset : form.maxApprovalLevels = none) :
    resolveChainFor session approval =
        resolveChainFor session approval
          (some (approvalPolicyFromRow session approval.approvalPolicy).uncapped) ↔
      ¬ LeaderAsked session.tables approval form.allowSelfApproval := by
  have policy : approvalPolicyFromRow session approval.approvalPolicy =
      policyFromRow form.stored := by
    rw [approvalPolicyFromRow, chosen, truthy_some named]
    dsimp only
    rw [read, policiesFromRows, stored]
    rfl
  have zero : (policyFromRow form.stored).maxApprovalLevels = some 0 := by
    rw [policyFromRow, PolicyForm.stored, unset]
    rfl
  rw [resolveChainFor, resolveChainFor, policy, Option.getD_none, Option.getD_some,
    resolve_zero_iff zero, ← leaderAsked_iff]
  rfl

/-- The camp under a policy whose form was left as it opens. -/
def unsetSession : Session where
  tables := adminTables "carol@example.org"
  policies := policiesFromRows fun _ => some (PolicyForm.stored {})
  user := "ann@example.org"
  now := 1

/-- Ann's request under that policy. -/
def unsetApproval : Approval := { campDesk.approval with approvalPolicy := some "Standard" }

/-- Ann's request under the policy is decided by Carol alone, although Bob leads a group above. -/
theorem unset_cap_drops_bob :
    resolveChainFor unsetSession unsetApproval ≠
        resolveChainFor unsetSession unsetApproval
          (some (approvalPolicyFromRow unsetSession unsetApproval.approvalPolicy).uncapped) ∧
      (resolveChainFor unsetSession unsetApproval).map (List.map fun step =>
        (step.approverMember, step.stepStatus)) =
          .ok [(some "MEM-00001", .skipped), (some "MEM-00003", .pending)] := by
  decide

/-- Bob is the leader who is to be asked. -/
theorem unset_cap_asks_bob :
    resolveChainFor unsetSession unsetApproval =
        resolveChainFor unsetSession unsetApproval
          (some (approvalPolicyFromRow unsetSession unsetApproval.approvalPolicy).uncapped) ↔
      ¬ LeaderAsked unsetSession.tables unsetApproval false :=
  unset_cap_walks_iff unsetSession unsetApproval (fun _ => some (PolicyForm.stored {}))
    "Standard" {} rfl rfl (by decide) rfl rfl

end FlockOs.ApprovalPolicies
