import FlockOs.Lib.NestedSet
import FlockOs.Verif.ApprovalRun
import FlockOs.Verif.AttendanceScope

/-!
# The chain and its guard

The chain climbs the parent links of the groups and asks each for its leaders; the guard
compares nested-set bounds with those of the groups that the user leads. On a depth-first
numbered group tree the guard admits the user of every approver that the climb has found.
-/

namespace FlockOs.EventApproval

open Lib Permissions Directory Approvals Traversal

/-- The tree columns of a group. -/
def treeRow (group : Group) : NestedRow String :=
  ⟨group.name, truthy group.parentGroup, group.lft, group.rgt⟩

/-- The bounds of the groups are those of a depth-first walk through a forest. -/
def DepthFirst (tables : Tables) : Prop := NestedSet (tables.groups.rows.map treeRow)

/-- A group is reached from another over the parent links. -/
def Reaches (tables : Tables) : String → String → Prop :=
  Relation.ReflTransGen fun child parent => parentOf tables child = some parent

section Tree

variable {tables : Tables}

/-- The group of a parent link lies in the interval of its parent. -/
theorem parentOf_encloses (nested : DepthFirst tables) {row : Group} {parent : String}
    (inside : row ∈ tables.groups.rows) (link : parentOf tables row.name = some parent) :
    ∃ above ∈ tables.groups.rows, above.name = parent ∧
      (treeRow above).Encloses (treeRow row) := by
  rw [parentOf, (tables.groups.find?_eq_some).mpr ⟨inside, rfl⟩] at link
  have child : (treeRow row).parent = some parent := link
  obtain ⟨_, member, same, encloses⟩ := nested.encloses (List.mem_map_of_mem inside) child
  obtain ⟨above, stored, drawn⟩ := List.mem_map.mp member
  rw [← drawn] at same encloses
  exact ⟨above, stored, same, encloses⟩

/-- A group that is reached encloses the group it is reached from. -/
theorem reaches_encloses (nested : DepthFirst tables) {base : Group} {name : String}
    (inside : base ∈ tables.groups.rows) (reached : Reaches tables base.name name) :
    ∃ above ∈ tables.groups.rows, above.name = name ∧
      (treeRow above).Encloses (treeRow base) := by
  induction reached with
  | refl => exact ⟨base, inside, rfl, le_refl _, le_refl _⟩
  | tail _ link ih =>
    obtain ⟨middle, stored, same, inner⟩ := ih
    rw [← same] at link
    obtain ⟨above, member, named, outer⟩ := parentOf_encloses nested stored link
    exact ⟨above, member, named, outer.1.trans inner.1, inner.2.trans outer.2⟩

/-- A climb stays on names that are reached from where it started. -/
theorem climb_reaches {node : String} : ∀ (turns : Nat) {chain result : List String}
    {current : Option String},
    climb (parentOf tables) node turns chain current = .ok result →
      (∀ name ∈ chain, Reaches tables node name) →
      (∀ name, current = some name → Reaches tables node name) →
      ∀ name ∈ result, Reaches tables node name
  | turns, chain, result, none, ran, behind, _ => by
    rw [climb] at ran
    rw [← Except.ok.inj ran]
    exact behind
  | 0, chain, result, some current, ran, behind, _ => by
    rw [climb] at ran
    rw [← Except.ok.inj ran]
    exact behind
  | turns + 1, chain, result, some current, ran, behind, here => by
    rw [climb] at ran
    split at ran
    · cases ran
    · have reached := here current rfl
      refine climb_reaches turns ran ?_ fun name link => reached.tail link
      intro name member
      rcases List.mem_append.mp member with old | new
      · exact behind name old
      · rw [List.mem_singleton.mp new]
        exact reached

/-- The names on the path to the root are reached from its start. -/
theorem pathToRoot_reaches {group : String} {path : List String}
    (walked : pathToRoot tables group = .ok path) : ∀ name ∈ path, Reaches tables group name := by
  rw [pathToRoot, ancestorsOf] at walked
  cases ran : climb (parentOf tables) group tables.groups.rows.length []
      (parentOf tables group) with
  | error raised =>
    rw [ran] at walked
    cases walked
  | ok ancestors =>
    rw [ran] at walked
    rw [← Except.ok.inj walked]
    have climbed := climb_reaches _ ran (fun _ member => by cases member) fun name link =>
      Relation.ReflTransGen.single link
    intro name member
    rcases List.mem_cons.mp member with rfl | above
    · exact .refl
    · exact climbed name above

end Tree

section Leaders

variable {tables : Tables}

/-- A joined leader was there before or is the one that joins. -/
theorem mem_joinLeaders {leaders : List String} {member leader : String} :
    leader ∈ joinLeaders leaders member ↔ leader ∈ leaders ∨ (leader = member ∧ leader ≠ "") := by
  rw [joinLeaders]
  split
  · next either =>
    constructor
    · exact .inl
    · intro joined
      cases joined with
      | inl old => exact old
      | inr new =>
        rw [← new.1] at either
        exact either.resolve_left new.2
  · next neither =>
    rw [List.mem_append, List.mem_singleton]
    refine or_congr_right (iff_self_and.mpr fun same empty => neither (.inl ?_))
    rw [← same, empty]

/-- Every leader of a fold of joins was there before or joined. -/
theorem mem_foldl_joinLeaders {leader : String} : ∀ {members leaders : List String},
    leader ∈ members.foldl joinLeaders leaders ↔
      leader ∈ leaders ∨ (leader ∈ members ∧ leader ≠ "")
  | [], _ => by simp
  | member :: rest, leaders => by
    rw [List.foldl_cons, mem_foldl_joinLeaders, mem_joinLeaders, or_assoc, ← or_and_right,
      List.mem_cons]

/-- The groups that a member leads are read from the groups and from the roster. -/
theorem mem_ledRows {leader group : String} :
    group ∈ tables.leaderRows leader ++ tables.rosterRows leader ↔
      LeaderOf tables leader group := by
  rw [List.mem_append]
  refine or_congr ?_ ?_
  · constructor
    · intro listed
      obtain ⟨row, kept, same⟩ := List.mem_map.mp listed
      obtain ⟨inside, accountable⟩ := List.mem_filter.mp kept
      exact ⟨row, inside, same, of_decide_eq_true accountable⟩
    · intro ⟨row, inside, same, accountable⟩
      exact List.mem_map.mpr ⟨row, List.mem_filter.mpr ⟨inside, decide_eq_true accountable⟩, same⟩
  · constructor
    · intro listed
      obtain ⟨row, kept, same⟩ := List.mem_map.mp listed
      obtain ⟨inside, both⟩ := List.mem_filter.mp kept
      obtain ⟨own, role⟩ := Bool.and_eq_true_iff.mp both
      exact ⟨row, inside, same, of_decide_eq_true own, List.contains_iff_mem.mp role⟩
    · intro ⟨row, inside, same, own, role⟩
      refine List.mem_map.mpr ⟨row, List.mem_filter.mpr ⟨inside, ?_⟩, same⟩
      exact Bool.and_eq_true_iff.mpr ⟨decide_eq_true own, List.contains_iff_mem.mpr role⟩

/-- The leaders of a group are those who lead it. -/
theorem mem_leadersOf {group : Group} {leader : String} (stored : group ∈ tables.groups.rows) :
    leader ∈ leadersOf tables group ↔ leader ≠ "" ∧ LeaderOf tables leader group.name := by
  rw [leadersOf, mem_foldl_joinLeaders]
  have rostered : leader ∈ rosterLeaders tables group.name ↔ ∃ row ∈ tables.roster,
      row.group = group.name ∧ row.member = leader ∧ row.role ∈ leaderRosterRoles := by
    constructor
    · intro listed
      obtain ⟨row, kept, same⟩ := List.mem_map.mp listed
      obtain ⟨inside, both⟩ := List.mem_filter.mp kept
      obtain ⟨own, role⟩ := Bool.and_eq_true_iff.mp both
      exact ⟨row, inside, of_decide_eq_true own, same, List.contains_iff_mem.mp role⟩
    · intro ⟨row, inside, own, same, role⟩
      refine List.mem_map.mpr ⟨row, List.mem_filter.mpr ⟨inside, ?_⟩, same⟩
      exact Bool.and_eq_true_iff.mpr ⟨decide_eq_true own, List.contains_iff_mem.mpr role⟩
  constructor
  · intro either
    cases either with
    | inl accountable =>
      have given := Option.mem_toList.mp accountable
      exact ⟨truthy_nonempty given, .inl ⟨group, stored, rfl, truthy_eq_some given⟩⟩
    | inr listed => exact ⟨listed.2, .inr (rostered.mp listed.1)⟩
  · intro ⟨named, leads⟩
    cases leads with
    | inl accountable =>
      obtain ⟨row, inside, same, given⟩ := accountable
      cases tables.groups.eq_of_key inside stored same
      left
      rw [given, truthy_some named]
      exact Option.mem_toList.mpr rfl
    | inr listed => exact .inr ⟨rostered.mpr listed, named⟩

/-- The bounds of a group are among those that its leader leads. -/
theorem bounds_of_leader {group : Group} {leader : String} (named : leader ≠ "")
    (stored : group ∈ tables.groups.rows) (leads : LeaderOf tables leader group.name) :
    ⟨group.name, group.lft, group.rgt⟩ ∈ tables.fetchLedGroupBounds leader := by
  have listed := mem_firstPerKey_id.mpr (mem_ledRows.mpr leads)
  rw [Tables.fetchLedGroupBounds, if_neg named]
  exact List.mem_filterMap.mpr
    ⟨group.name, listed, fetchGroupBounds_eq_some.mpr ⟨group, stored, rfl, rfl⟩⟩

/-- Every node of a chain is a group reached from the one the chain is for, which exists, with
its leaders. -/
theorem mem_chainNodes {group : String} {nodes : List ChainNode} {node : ChainNode}
    (read : chainNodesForGroup tables group = .ok nodes) (inside : node ∈ nodes) :
    ∃ base ∈ tables.groups.rows, base.name = group ∧ ∃ above ∈ tables.groups.rows,
      Reaches tables group above.name ∧ node = ⟨above.name, leadersOf tables above⟩ := by
  rw [chainNodesForGroup, groupPathToRoot] at read
  cases found : tables.groups.find? group with
  | none =>
    rw [found] at read
    cases read
  | some base =>
    obtain ⟨stored, named⟩ := (tables.groups.find?_eq_some).mp found
    rw [found] at read
    cases walked : pathToRoot tables group with
    | error raised =>
      rw [walked] at read
      cases read
    | ok path =>
      rw [walked] at read
      rw [← Except.ok.inj read] at inside
      obtain ⟨above, passed, drawn⟩ := List.mem_filterMap.mp inside
      obtain ⟨name, onPath, row⟩ := List.mem_filterMap.mp passed
      obtain ⟨member, same⟩ := (tables.groups.find?_eq_some).mp row
      refine ⟨base, stored, named, above, member, ?_, ?_⟩
      · rw [same]
        exact pathToRoot_reaches walked name onPath
      · rw [chainNode] at drawn
        split at drawn
        · cases drawn
        · exact (Option.some.inj drawn).symm

end Leaders

/-- No user is linked to two members. -/
def LinkedOnce (tables : Tables) : Prop :=
  ∀ left ∈ tables.members.rows, ∀ right ∈ tables.members.rows, ∀ user, user ≠ "" →
    left.linkedUser = some user → right.linkedUser = some user → left = right

section Guard

variable {tables : Tables} {member user : String}

/-- A user that is linked once resolves to its member. -/
theorem resolved_of_userForMember (once : LinkedOnce tables) (named : user ≠ "")
    (linked : userForMember tables member = some user) :
    tables.resolveMemberForUser user = some member := by
  obtain ⟨row, inside, same, own⟩ := userForMember_eq_some.mp linked
  rw [Tables.resolveMemberForUser, if_neg named]
  cases found : tables.members.rows.find? fun row => row.linkedUser = some user with
  | none =>
    have refused := List.find?_eq_none.mp found row inside
    simp [own] at refused
  | some first =>
    have given : first.linkedUser = some user := by simpa using List.find?_some found
    have one := once first (List.mem_of_find?_eq_some found) row inside user named given own
    rw [one, Option.map_some, same]

/-- The group axis admits a linked user whose member leads a group above. -/
theorem decidesInGroup_of_leader (nested : DepthFirst tables) {base above : Group}
    (inside : base ∈ tables.groups.rows) (stored : above ∈ tables.groups.rows)
    (reached : Reaches tables base.name above.name)
    (leads : LeaderOf tables member above.name) (nonempty : member ≠ "")
    (resolved : tables.resolveMemberForUser user = some member) :
    decidesInGroup base.name user (tables.getRoles user) (frappePermissionGateway tables) =
      true := by
  obtain ⟨row, present, same, encloses⟩ := reaches_encloses nested inside reached
  have one : row = above := tables.groups.eq_of_key present stored same
  rw [one] at encloses
  have bounds : (frappePermissionGateway tables).fetchGroupBounds base.name =
      some ⟨base.name, base.lft, base.rgt⟩ :=
    fetchGroupBounds_eq_some.mpr ⟨base, inside, rfl, rfl⟩
  rw [decidesInGroup, bounds]
  cases narrowed : isBypassUser (tables.getRoles user) with
  | true => rfl
  | false =>
    rw [if_neg Bool.false_ne_true, resolve_linked narrowed resolved]
    refine List.any_eq_true.mpr ⟨_, bounds_of_leader nonempty stored leads, ?_⟩
    exact Bool.and_eq_true_iff.mpr ⟨decide_eq_true encloses.1, decide_eq_true encloses.2⟩

/-- On a depth-first numbered tree the user of every approver that is resolved from the leaders
may decide its step, when the branch axis admits it. -/
theorem resolved_approver_may_decide {policy : ApprovalPolicy} {requestedBy : Option String}
    {approval : Approval} {specs : List StepSpec} {spec : StepSpec} {idx : Nat}
    (nested : DepthFirst tables) (once : LinkedOnce tables)
    (resolved : resolveApprovalChain approval.group requestedBy policy
      (frappeApprovalChainGateway tables) = .ok specs)
    (inside : spec ∈ specs) (level : spec.approverLevel ≠ .branchAdmin)
    (approver : spec.approverMember = some member)
    (linked : truthy (userForMember tables member) = some user)
    (admitted : canAccessBranch approval.branch (tables.listBranchUserPermissions user)
      (tables.getRoles user) = true) :
    canDecideApprovalStep (stepView approval idx (materialized spec)) user
      (frappePermissionGateway tables) = true := by
  have ⟨group, requester, nodes, anchored, _, read, chain, _⟩ := resolveApprovalChain_ok resolved
  rw [chain] at inside
  rcases mem_chainSteps inside with ⟨led, leader, found⟩ | ⟨_, _, terminal⟩
  · have same : leader = member := Option.some.inj (found.member.symm.trans approver)
    have given := truthy_eq_some linked
    have named := truthy_nonempty linked
    have own := resolved_of_userForMember once named given
    have identity : isNamedApprover (stepView approval idx (materialized spec)) user
        (tables.resolveMemberForUser user) = true := by
      have stepUser : spec.approverUser = some user := by
        rw [found.user, same]
        exact given
      rw [isNamedApprover, Bool.or_eq_true]
      exact .inl (names_iff.mpr ⟨stepUser, named⟩)
    have branch : canAccessBranch (stepView approval idx (materialized spec)).docBranch
        ((frappePermissionGateway tables).listBranchUserPermissions user)
        ((frappePermissionGateway tables).getUserRoles user) = true := admitted
    have docGroup : truthy (stepView approval idx (materialized spec)).docGroup = some group :=
      anchored
    have ⟨leaders, among, node⟩ := found.led
    have ⟨base, present, baseName, above, stored, reached, drawn⟩ := mem_chainNodes read node
    have led : leader ∈ leadersOf tables above := by
      rw [ChainNode.mk.injEq] at drawn
      rw [← drawn.2]
      exact among
    have nonempty : member ≠ "" := by
      have ⟨row, _, rowName, _⟩ := userForMember_eq_some.mp given
      rw [← rowName]
      exact row.named
    rw [← baseName] at reached
    have axis := decidesInGroup_of_leader nested present stored reached
      (same ▸ ((mem_leadersOf stored).mp led).2) nonempty own
    rw [baseName] at axis
    rw [canDecideApprovalStep, if_neg, if_neg (not_not_intro branch), docGroup]
    · show (if spec.approverLevel = .branchAdmin then true else _) = true
      rw [if_neg level]
      exact axis
    · refine not_not_intro ((Bool.or_eq_true _ _).mpr (.inl identity))
  · exact absurd terminal.level level

end Guard

/-- Bob's step of Ann's camp. -/
def bobsStep : StepSpec :=
  ⟨1, .parentGroupLeader, some "MEM-00002", some "bob@example.org", some "North-All", .pending⟩

/-- The chain of Ann's camp: her own step, skipped, and Bob's. -/
def campChain : List StepSpec :=
  [⟨0, .parentGroupLeader, some "MEM-00001", some "ann@example.org", some "North-Youth", .skipped⟩,
    bobsStep]

/-- Bob may decide his step of the camp's chain. -/
theorem bob_may_decide :
    canDecideApprovalStep (stepView campDesk.approval 1 (materialized bobsStep))
      "bob@example.org" (frappePermissionGateway campTables) = true := by
  have nested : DepthFirst campTables :=
    ⟨.node "North-All" (.node "North-Youth" .nil .nil) .nil, 1, List.Perm.of_eq rfl⟩
  have pairs : ∀ left ∈ campTables.members.rows, ∀ right ∈ campTables.members.rows,
      left.linkedUser = right.linkedUser → left = right := by decide
  have once : LinkedOnce campTables := fun left inLeft right inRight _ _ ownLeft ownRight =>
    pairs left inLeft right inRight (ownLeft.trans ownRight.symm)
  have chain : resolveApprovalChain campDesk.approval.group (some "MEM-00001") defaultPolicy
      (frappeApprovalChainGateway campTables) = .ok campChain := rfl
  have inside : bobsStep ∈ campChain := List.mem_cons_of_mem _ List.mem_cons_self
  exact resolved_approver_may_decide nested once chain inside nofun rfl rfl (by decide)

end FlockOs.EventApproval
