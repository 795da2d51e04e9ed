import FlockOs.Notifications
import FlockOs.Verif.Ancestors
import FlockOs.Verif.ChainGuard
import Mathlib.Tactic.TFAE

/-!
# One leadership relation

Permissions, notifications, the approval chain and the requester check each ask for the leaders of
a group. The notifications alone leave out roster edges that are not in force. The four agree on a
member and a group exactly where the member leads by more than such edges, or not at all.
-/

namespace FlockOs.Leadership

open Lib Permissions Directory Approvals Traversal Notifications EventApproval

section Queries

variable {tables : Tables} {member group : String}

/-- A member leads a group, as its accountable leader or by a roster edge that is in force. -/
def ActiveLeaderOf (tables : Tables) (member group : String) : Prop :=
  (∃ row ∈ tables.groups.rows, row.name = group ∧ row.leader = some member) ∨
    ∃ row ∈ tables.roster, row.group = group ∧ row.member = member ∧
      row.role ∈ leaderRosterRoles ∧ row.status = .active

/-- Who leads by an edge that is in force leads. -/
theorem ActiveLeaderOf.leads (leads : ActiveLeaderOf tables member group) :
    LeaderOf tables member group := by
  cases leads with
  | inl accountable => exact .inl accountable
  | inr rostered =>
    obtain ⟨row, inside, own, same, role, _⟩ := rostered
    exact .inr ⟨row, inside, own, same, role⟩

/-- Nobody leads a group without a name. -/
theorem leaderOf_named (leads : LeaderOf tables member group) : group ≠ "" := by
  cases leads with
  | inl accountable =>
    obtain ⟨row, _, same, _⟩ := accountable
    exact same ▸ row.named
  | inr rostered =>
    obtain ⟨row, _, same, _⟩ := rostered
    exact same ▸ row.grouped

/-- The groups of the led bounds. -/
theorem mem_led_iff : group ∈ (tables.fetchLedGroupBounds member).map GroupBounds.name ↔
    member ≠ "" ∧ LeaderOf tables member group ∧ group ∈ tables.groups.rows.map Group.name := by
  constructor
  · intro led
    obtain ⟨bounds, fetched, same⟩ := List.mem_map.mp led
    rw [Tables.fetchLedGroupBounds] at fetched
    split at fetched
    · cases fetched
    · next named =>
      obtain ⟨name, listed, found⟩ := List.mem_filterMap.mp fetched
      obtain ⟨row, inside, own, drawn⟩ := fetchGroupBounds_eq_some.mp found
      rw [drawn] at same
      rw [← show name = group from same]
      exact ⟨named, mem_ledRows.mp (mem_firstPerKey_id.mp listed),
        List.mem_map.mpr ⟨row, inside, own⟩⟩
  · rintro ⟨named, leads, there⟩
    obtain ⟨row, inside, same⟩ := List.mem_map.mp there
    rw [← same] at leads ⊢
    exact List.mem_map.mpr ⟨_, bounds_of_leader named inside leads, rfl⟩

/-- An empty filter lets everything through. -/
theorem passes_nil (column : Option String) : passes [] column = true := rfl

/-- A filter with names lets those names through. -/
theorem passes_iff {filters : List String} (some : filters ≠ []) {column : Option String} :
    passes filters column = true ↔ ∃ value ∈ filters, column = .some value := by
  rw [passes, List.isEmpty_eq_false_iff.mpr some, Bool.false_or, Option.any_eq_true]
  constructor
  · intro ⟨value, same, inside⟩
    exact ⟨value, List.contains_iff_mem.mp inside, same⟩
  · intro ⟨value, inside, same⟩
    exact ⟨value, same, List.contains_iff_mem.mpr inside⟩

/-- The leaders to notify behind filters that are not both empty. -/
theorem mem_leaders_iff {filtersBranch filtersGroup : List String}
    (given : ¬ (filtersBranch = [] ∧ filtersGroup = [])) :
    member ∈ leaders tables filtersBranch filtersGroup ↔ member ≠ "" ∧
      ((∃ row ∈ tables.groups.rows, passes filtersBranch row.branch = true ∧
        passes filtersGroup (some row.name) = true ∧ row.leader = some member) ∨
      ∃ row ∈ tables.roster, passes filtersBranch row.branch = true ∧
        passes filtersGroup (some row.group) = true ∧ row.member = member ∧
        row.role ∈ leaderRosterRoles ∧ row.status = .active) := by
  have filtered : ¬ (filtersBranch.isEmpty && filtersGroup.isEmpty) = true := by
    rw [Bool.and_eq_true, List.isEmpty_iff, List.isEmpty_iff]
    exact given
  rw [leaders, mem_firstPerKey_id, List.mem_append, accountableLeaders, if_neg filtered]
  constructor
  · intro either
    cases either with
    | inl accountable =>
      obtain ⟨row, kept, given⟩ := List.mem_filterMap.mp accountable
      obtain ⟨inside, both⟩ := List.mem_filter.mp kept
      obtain ⟨branch, group⟩ := Bool.and_eq_true_iff.mp both
      exact ⟨truthy_nonempty given, .inl ⟨row, inside, branch, group, truthy_eq_some given⟩⟩
    | inr rostered =>
      obtain ⟨row, kept, given⟩ := List.mem_filterMap.mp rostered
      obtain ⟨inside, all⟩ := List.mem_filter.mp kept
      simp only [Bool.and_eq_true, decide_eq_true_iff, List.contains_iff_mem] at all
      have same := Option.some.inj (truthy_eq_some given)
      exact ⟨truthy_nonempty given,
        .inr ⟨row, inside, all.1.2, all.2, same, all.1.1.1, all.1.1.2⟩⟩
  · intro ⟨named, leads⟩
    cases leads with
    | inl accountable =>
      obtain ⟨row, inside, branch, group, given⟩ := accountable
      refine .inl (List.mem_filterMap.mpr ⟨row, List.mem_filter.mpr ⟨inside, ?_⟩, ?_⟩)
      · exact Bool.and_eq_true_iff.mpr ⟨branch, group⟩
      · rw [given, truthy_some named]
    | inr rostered =>
      obtain ⟨row, inside, branch, group, same, role, active⟩ := rostered
      refine .inr (List.mem_filterMap.mpr ⟨row, List.mem_filter.mpr ⟨inside, ?_⟩, ?_⟩)
      · simp only [Bool.and_eq_true, decide_eq_true_iff, List.contains_iff_mem]
        exact ⟨⟨⟨role, active⟩, branch⟩, group⟩
      · rw [same, truthy_some named]

/-- The leaders to notify in some groups. -/
theorem mem_leadersInGroups_iff {groups : List String} (given : groups ≠ []) :
    member ∈ leadersInGroups tables groups ↔
      member ≠ "" ∧ ∃ group ∈ groups, ActiveLeaderOf tables member group := by
  rw [leadersInGroups, mem_leaders_iff fun both => given both.2]
  apply and_congr_right
  intro _
  constructor
  · intro either
    cases either with
    | inl accountable =>
      obtain ⟨row, inside, _, own, leads⟩ := accountable
      obtain ⟨group, wanted, same⟩ := (passes_iff given).mp own
      exact ⟨group, wanted, .inl ⟨row, inside, Option.some.inj same, leads⟩⟩
    | inr rostered =>
      obtain ⟨row, inside, _, own, same, role, active⟩ := rostered
      obtain ⟨group, wanted, named⟩ := (passes_iff given).mp own
      exact ⟨group, wanted, .inr ⟨row, inside, Option.some.inj named, same, role, active⟩⟩
  · intro ⟨group, wanted, leads⟩
    cases leads with
    | inl accountable =>
      obtain ⟨row, inside, own, leads⟩ := accountable
      have through := (passes_iff given).mpr ⟨group, wanted, congrArg some own⟩
      exact .inl ⟨row, inside, passes_nil _, through, leads⟩
    | inr rostered =>
      obtain ⟨row, inside, own, same, role, active⟩ := rostered
      have through := (passes_iff given).mpr ⟨group, wanted, congrArg some own⟩
      exact .inr ⟨row, inside, passes_nil _, through, same, role, active⟩

/-- The leaders to notify in one group. -/
theorem mem_leadersInGroup_iff :
    member ∈ leadersInGroups tables [group] ↔ member ≠ "" ∧ ActiveLeaderOf tables member group := by
  rw [mem_leadersInGroups_iff (List.cons_ne_nil group [])]
  apply and_congr_right
  intro _
  constructor
  · intro ⟨other, inside, leads⟩
    rw [List.mem_singleton.mp inside] at leads
    exact leads
  · exact fun leads => ⟨group, List.mem_singleton.mpr rfl, leads⟩

/-- The leaders of a group's own node in its chain. -/
def LeadsOwnNode (tables : Tables) (member group : String) : Prop :=
  ∃ nodes, chainNodesForGroup tables group = .ok nodes ∧
    ∃ node ∈ nodes, node.group = group ∧ member ∈ node.leaders

/-- A member is among the leaders of a group's own node. -/
theorem leadsOwnNode_iff : LeadsOwnNode tables member group ↔
    member ≠ "" ∧ LeaderOf tables member group ∧ group ∈ tables.groups.rows.map Group.name ∧
      Grounded (parentOf tables) group := by
  constructor
  · rintro ⟨nodes, read, node, inside, own, among⟩
    obtain ⟨base, _, _, row, stored, _, drawn⟩ := mem_chainNodes read inside
    rw [drawn] at own among
    rw [← show row.name = group from own] at read ⊢
    obtain ⟨named, leads⟩ := (mem_leadersOf stored).mp among
    refine ⟨named, leads, List.mem_map_of_mem stored, pathToRoot_ok_iff.mp ?_⟩
    rw [chainNodesForGroup, Traversal.groupPathToRoot,
      tables.groups.find?_eq_some.mpr ⟨stored, rfl⟩] at read
    cases walked : pathToRoot tables row.name with
    | error raised =>
      rw [walked] at read
      cases read
    | ok path => exact ⟨path, rfl⟩
  · rintro ⟨named, leads, there, grounded⟩
    obtain ⟨row, stored, same⟩ := List.mem_map.mp there
    rw [← same] at leads grounded ⊢
    obtain ⟨path, walked⟩ := pathToRoot_ok_iff.mpr grounded
    have found := tables.groups.find?_eq_some.mpr ⟨stored, (rfl : row.name = row.name)⟩
    have among := (mem_leadersOf stored).mpr ⟨named, leads⟩
    have drawn : chainNode tables row = some ⟨row.name, leadersOf tables row⟩ := by
      rw [chainNode, if_neg]
      exact fun empty => List.ne_nil_of_mem among (List.isEmpty_iff.mp empty)
    refine ⟨_, by rw [chainNodesForGroup, Traversal.groupPathToRoot, found, walked]; rfl, _,
      List.mem_filterMap.mpr ⟨row, List.mem_filterMap.mpr ⟨row.name, ?_, found⟩, drawn⟩, rfl, among⟩
    exact mem_pathToRoot walked

/-- The requester check asks whether the member leads the group. -/
theorem leadsGroup_iff : leadsGroup tables member group = true ↔ LeaderOf tables member group := by
  rw [leadsGroup, Bool.or_eq_true]
  refine or_congr ?_ ?_
  · rw [beq_iff_eq, Option.bind_eq_some_iff]
    constructor
    · intro ⟨row, found, given⟩
      obtain ⟨inside, same⟩ := tables.groups.find?_eq_some.mp found
      exact ⟨row, inside, same, given⟩
    · intro ⟨row, inside, same, given⟩
      exact ⟨row, tables.groups.find?_eq_some.mpr ⟨inside, same⟩, given⟩
  · simp only [List.any_eq_true, Bool.and_eq_true, beq_iff_eq, List.contains_iff_mem, and_assoc]

/-- The requester check lets through who leads the group. -/
theorem requester_iff {session : Session} {approval : Approval} :
    validateRequestedByLeadsGroup session
        { approval with requestedBy := some member, group := some group } = .ok () ↔
      member ≠ "" ∧ LeaderOf session.tables member group := by
  rw [validateRequestedByLeadsGroup]
  by_cases unnamed : member = ""
  · simp [unnamed]
  by_cases unset : group = ""
  · rw [unset, truthy_some unnamed, truthy_empty]
    exact iff_of_false (fun same => nomatch same) fun both => leaderOf_named both.2 rfl
  · rw [truthy_some unnamed, truthy_some unset]
    dsimp only
    split
    · next leads => exact iff_of_true rfl ⟨unnamed, leadsGroup_iff.mp leads⟩
    · next leads =>
      exact iff_of_false (fun same => nomatch same) fun both => leads (leadsGroup_iff.mpr both.2)

end Queries

/-- The four reads agree on a member and a group exactly where the member leads the group by more
than roster edges that are not in force, in a group that exists and whose way up ends, or does not
lead it. -/
theorem one_leadership_iff (session : Session) (approval : Approval) (member group : String) :
    [group ∈ (session.tables.fetchLedGroupBounds member).map GroupBounds.name,
      member ∈ leadersInGroups session.tables [group],
      LeadsOwnNode session.tables member group,
      validateRequestedByLeadsGroup session
        { approval with requestedBy := some member, group := some group } = .ok ()].TFAE ↔
    (member ≠ "" → LeaderOf session.tables member group →
      ActiveLeaderOf session.tables member group ∧
        group ∈ session.tables.groups.rows.map Group.name ∧
          Grounded (parentOf session.tables) group) := by
  rw [mem_led_iff, mem_leadersInGroup_iff, leadsOwnNode_iff, requester_iff]
  have active := @ActiveLeaderOf.leads session.tables member group
  constructor
  · intro agree named leads
    have notified := agree.out 3 1
    have routed := agree.out 3 2
    have ⟨_, _, there, grounded⟩ := routed.mp ⟨named, leads⟩
    exact ⟨(notified.mp ⟨named, leads⟩).2, there, grounded⟩
  · intro condition
    tfae_have 1 → 2 := by
      intro ⟨named, leads, _⟩
      exact ⟨named, (condition named leads).1⟩
    tfae_have 2 → 3 := by
      intro ⟨named, leads⟩
      exact ⟨named, active leads, (condition named (active leads)).2⟩
    tfae_have 3 → 4 := by
      intro ⟨named, leads, _⟩
      exact ⟨named, leads⟩
    tfae_have 4 → 1 := by
      intro ⟨named, leads⟩
      exact ⟨named, leads, (condition named leads).2.1⟩
    tfae_finish

/-- The choir has a name. -/
theorem choir_named : "North-Choir" ≠ "" := by decide

/-- Its co-leader has a name. -/
theorem coLeader_named : "MEM-00001" ≠ "" := by decide

/-- A choir whose one co-leader is no longer active. -/
def choirTables : Tables where
  groups := ⟨[{ name := "North-Choir", branch := some "North", lft := 1, rgt := 2,
                named := choir_named }], by decide⟩
  roster := [{ group := "North-Choir", member := "MEM-00001", branch := some "North",
               role := "Co-Leader", status := .inactive, grouped := choir_named,
               anchored := coLeader_named }]
  getRoles _ := []

/-- The inactive co-leader still leads the choir by the bounds and is not notified. -/
theorem inactive_leads_unnotified :
    ¬ [ "North-Choir" ∈ (choirTables.fetchLedGroupBounds "MEM-00001").map GroupBounds.name,
        "MEM-00001" ∈ leadersInGroups choirTables ["North-Choir"],
        LeadsOwnNode choirTables "MEM-00001" "North-Choir",
        validateRequestedByLeadsGroup { tables := choirTables, user := "ann@example.org", now := 0 }
          { name := "APP-00001", gathering := "GATH-00001", requestedBy := some "MEM-00001",
            group := some "North-Choir" } = .ok () ].TFAE := by
  intro agree
  have notified := agree.out 0 1
  have led : "North-Choir" ∈
      (choirTables.fetchLedGroupBounds "MEM-00001").map GroupBounds.name := by decide
  exact absurd (notified.mp led) (by decide)

end FlockOs.Leadership
