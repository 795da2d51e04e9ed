import FlockOs.RegistrationScope
import FlockOs.Verif.Seats
import FlockOs.Verif.Subtrees

/-!
# Scopes and their sets

The eligible set of each registration scope, in terms of the rosters, the home branches and the
two trees. The predicate decides membership in it, and a wider scope leaves nobody out.
-/

namespace FlockOs.RegistrationScope

open Lib Directory Trees Registrations

/-- A member is on the active roster of a group. -/
def ActiveMemberOf (tables : Directory.Tables) (member group : String) : Prop :=
  ∃ row ∈ tables.roster, row.member = member ∧ row.group = group ∧ row.status = .active ∧
    row.role ∈ scopeMemberRoles

/-- A group lies below another, or is that group. -/
def GroupBelow (tables : ScopeTables) : String → String → Prop :=
  Reaches (Levels.Child (groupTree.childrenOf tables.directory.groups.rows))

/-- A branch lies below another, or is that branch. -/
def BranchBelow (tables : ScopeTables) : String → String → Prop :=
  Reaches (Levels.Child (branchTree.childrenOf tables.branches.rows))

section Sets

variable (tables : ScopeTables) (anchors : GatheringScope)

/-- The active roster of the gathering's group. -/
def ownGroupSet : Set String :=
  {member | ∃ group, truthy anchors.group = some group ∧
    ActiveMemberOf tables.directory member group}

/-- The active rosters of the gathering's group and of the groups below it. -/
def groupSubtreeSet : Set String :=
  {member | ∃ group own, truthy anchors.group = some group ∧ GroupBelow tables group own ∧
    ActiveMemberOf tables.directory member own}

/-- The members whose home is the gathering's branch. -/
def branchSet : Set String :=
  {member | ∃ branch, truthy anchors.branch = some branch ∧
    tables.homeBranch member = some branch}

/-- The members whose home is the gathering's branch or one below it. -/
def branchSubtreeSet : Set String :=
  {member | ∃ branch home, truthy anchors.branch = some branch ∧ BranchBelow tables branch home ∧
    tables.homeBranch member = some home}

/-- The members whose home is a branch of the gathering's organization. -/
def orgWideSet : Set String :=
  {member | ∃ organization home, truthy anchors.organization = some organization ∧
    tables.branchOrganization home = some organization ∧
    truthy (tables.homeBranch member) = some home}

/-- The scopes that are sets of rosters and of home branches. -/
def eligibleSets : List (String × Set String) :=
  [(scopeNone, ∅), (scopeOwnGroup, ownGroupSet tables anchors),
    (scopeGroupSubtree, groupSubtreeSet tables anchors), (scopeBranch, branchSet tables anchors),
    (scopeBranchSubtree, branchSubtreeSet tables anchors),
    (scopeOrgWide, orgWideSet tables anchors)]

end Sets

/-- The trees are forests numbered in order, the branches of one tree share an organization, and
the links of the gathering lead to rows, its organization being that of its branch. -/
structure Sited (tables : ScopeTables) (anchors : GatheringScope) : Prop where
  /-- The groups are numbered in the order of a walk. -/
  groups : NestedOrder (tables.directory.groups.rows.map groupTree.nestedRow)
  /-- The branches are numbered in the order of a walk. -/
  branches : NestedOrder (tables.branches.rows.map branchTree.nestedRow)
  /-- Every branch has a name. -/
  named : ∀ row ∈ tables.branches.rows, row.name ≠ ""
  /-- Every branch has an organization. -/
  tenanted : ∀ row ∈ tables.branches.rows, row.organization ≠ ""
  /-- A branch has the organization of its parent. -/
  shared : ∀ upper ∈ tables.branches.rows, ∀ lower ∈ tables.branches.rows,
    truthy lower.parentBranch = some upper.name → lower.organization = upper.organization
  /-- The gathering's group exists. -/
  group : ∀ group, truthy anchors.group = some group →
    ∃ row ∈ tables.directory.groups.rows, row.name = group
  /-- The gathering's branch exists, and the gathering has its organization. -/
  branch : ∀ branch, truthy anchors.branch = some branch →
    ∃ row ∈ tables.branches.rows, row.name = branch ∧
      anchors.organization = some row.organization

section Reads

variable {tables : ScopeTables} {anchors : GatheringScope} {member : String}

/-- The groups of a member are those on whose active roster it is. -/
theorem mem_memberGroups (named : member ≠ "") {group : String} :
    group ∈ tables.memberGroups member ↔ ActiveMemberOf tables.directory member group := by
  rw [ScopeTables.memberGroups, if_neg named, mem_firstPerKey_id, List.mem_map]
  constructor
  · rintro ⟨row, kept, same⟩
    obtain ⟨inside, both⟩ := List.mem_filter.mp kept
    obtain ⟨own, active⟩ := Bool.and_eq_true_iff.mp both
    obtain ⟨role, status⟩ := Bool.and_eq_true_iff.mp active
    exact ⟨row, inside, of_decide_eq_true own, same, of_decide_eq_true status,
      List.contains_iff_mem.mp role⟩
  · rintro ⟨row, inside, own, same, status, role⟩
    refine ⟨row, List.mem_filter.mpr ⟨inside, ?_⟩, same⟩
    exact Bool.and_eq_true_iff.mpr ⟨decide_eq_true own,
      Bool.and_eq_true_iff.mpr ⟨List.contains_iff_mem.mpr role, decide_eq_true status⟩⟩

/-- The home branch of a member. -/
theorem memberBranch_eq (named : member ≠ "") :
    tables.memberBranch member = tables.homeBranch member := if_neg named

/-- The subtree of a group that exists is read. -/
theorem groupSubtree_ok (nested : NestedOrder (tables.directory.groups.rows.map groupTree.nestedRow))
    {group : Group} (inside : group ∈ tables.directory.groups.rows) :
    ∃ names, tables.groupSubtree group.name = .ok names ∧
      ∀ name, name ∈ names ↔ GroupBelow tables group.name name := by
  obtain ⟨returned, ends, all⟩ := subtree_names nested tables.directory.groups.keyed inside
  refine ⟨returned.map Group.name, ?_, all⟩
  have read : Trees.groupSubtree tables.directory group.name = .ok returned := ends
  rw [ScopeTables.groupSubtree, if_neg group.named, read]
  rfl

/-- The subtree of a branch that exists is read. -/
theorem branchSubtree_ok (nested : NestedOrder (tables.branches.rows.map branchTree.nestedRow))
    {branch : Branch} (inside : branch ∈ tables.branches.rows) (named : branch.name ≠ "") :
    ∃ names, tables.branchSubtree branch.name = .ok names ∧
      ∀ name, name ∈ names ↔ BranchBelow tables branch.name name := by
  obtain ⟨returned, ends, all⟩ := subtree_names nested tables.branches.keyed inside
  refine ⟨returned.map Branch.name, ?_, all⟩
  have read : Trees.branchSubtree tables.branches branch.name = .ok returned := ends
  rw [ScopeTables.branchSubtree, if_neg named, read]
  rfl

/-- A branch below another has its organization. -/
theorem organization_below (sited : Sited tables anchors) {upper : Branch} {lower : String}
    (inside : upper ∈ tables.branches.rows) (below : BranchBelow tables upper.name lower) :
    ∃ row ∈ tables.branches.rows, row.name = lower ∧ row.organization = upper.organization := by
  induction below with
  | refl => exact ⟨upper, inside, rfl, rfl⟩
  | tail _ child ih =>
    obtain ⟨above, there, named, same⟩ := ih
    obtain ⟨row, kept, called⟩ := List.mem_map.mp child
    obtain ⟨member, link⟩ := List.mem_filter.mp kept
    rw [← named] at link
    exact ⟨row, member, called,
      (sited.shared above there row member (of_decide_eq_true link)).trans same⟩

end Reads

section Predicate

variable {site : EventRegistration.Site} {tables : ScopeTables} {db : EventRegistration.Tables}
  {gathering member : String}

/-- The gateway over the tables. -/
abbrev gatewayOver (site : EventRegistration.Site) (tables : ScopeTables)
    (db : EventRegistration.Tables) : RegistrationScopeGateway :=
  EventRegistration.frappeRegistrationScopeGateway (siteOver site tables) db

/-- The predicate decides whether a member is in a set. -/
def Decides (gateway : RegistrationScopeGateway) (gathering member scope : String)
    (eligible : Set String) : Prop :=
  ∃ answer, isMemberInScope member gathering scope gateway = .ok answer ∧
    (answer = true ↔ member ∈ eligible)

section Scopes

variable (named : member ≠ "") (held : gathering ≠ "")
include named held

/-- Under `None` nobody is eligible. -/
theorem none_decided :
    Decides (gatewayOver site tables db) gathering member scopeNone ∅ := by
  rw [Decides, isMemberInScope, if_neg (not_or.mpr ⟨named, held⟩)]
  exact ⟨false, rfl, iff_of_false Bool.false_ne_true nofun⟩

/-- `Own Group` is the active roster of the group. -/
theorem ownGroup_decided :
    Decides (gatewayOver site tables db) gathering member scopeOwnGroup
      (ownGroupSet tables (db.gatheringScope gathering)) := by
  have unfolded : isMemberInScope member gathering scopeOwnGroup (gatewayOver site tables db) =
      .ok ((truthy (db.gatheringScope gathering).group).any fun group =>
        (tables.memberGroups member).contains group) := by
    have read : truthy ((gatewayOver site tables db).gatheringScope gathering).group =
        truthy (db.gatheringScope gathering).group := rfl
    rw [isMemberInScope, if_neg (not_or.mpr ⟨named, held⟩)]
    dsimp only
    rw [read]
    cases truthy (db.gatheringScope gathering).group <;> rfl
  rw [Decides, unfolded, ownGroupSet]
  refine ⟨_, rfl, ?_⟩
  cases anchored : truthy (db.gatheringScope gathering).group with
  | none => exact iff_of_false Bool.false_ne_true (by rintro ⟨_, ⟨⟩, _⟩)
  | some group =>
    rw [Option.any_some, List.contains_iff_mem, mem_memberGroups named]
    constructor
    · exact fun roster => ⟨group, rfl, roster⟩
    · rintro ⟨_, ⟨⟩, roster⟩
      exact roster

/-- `Group Subtree` is the active rosters from the group down. -/
theorem groupSubtree_decided (sited : Sited tables (db.gatheringScope gathering)) :
    Decides (gatewayOver site tables db) gathering member scopeGroupSubtree
      (groupSubtreeSet tables (db.gatheringScope gathering)) := by
  have unfolded : isMemberInScope member gathering scopeGroupSubtree
      (gatewayOver site tables db) =
        (truthy (db.gatheringScope gathering).group).elim (.ok false) fun group =>
          (tables.groupSubtree group).bind fun subtree =>
            .ok ((tables.memberGroups member).any subtree.contains) := by
    have read : truthy ((gatewayOver site tables db).gatheringScope gathering).group =
        truthy (db.gatheringScope gathering).group := rfl
    rw [isMemberInScope, if_neg (not_or.mpr ⟨named, held⟩)]
    dsimp only
    rw [read]
    cases truthy (db.gatheringScope gathering).group <;> rfl
  rw [Decides, unfolded, groupSubtreeSet]
  cases anchored : truthy (db.gatheringScope gathering).group with
  | none => exact ⟨false, rfl, iff_of_false Bool.false_ne_true (by rintro ⟨_, _, ⟨⟩, _⟩)⟩
  | some group =>
    obtain ⟨row, inside, same⟩ := sited.group group anchored
    obtain ⟨names, read, all⟩ := groupSubtree_ok sited.groups inside
    rw [same] at read all
    rw [Option.elim_some, read]
    refine ⟨_, rfl, ?_⟩
    rw [List.any_eq_true]
    constructor
    · rintro ⟨own, joined, within⟩
      exact ⟨group, own, rfl, (all own).mp (List.contains_iff_mem.mp within),
        (mem_memberGroups named).mp joined⟩
    · rintro ⟨_, own, ⟨⟩, below, roster⟩
      exact ⟨own, (mem_memberGroups named).mpr roster,
        List.contains_iff_mem.mpr ((all own).mpr below)⟩

/-- `Branch` is the members at home in the branch. -/
theorem branch_decided :
    Decides (gatewayOver site tables db) gathering member scopeBranch
      (branchSet tables (db.gatheringScope gathering)) := by
  have unfolded : isMemberInScope member gathering scopeBranch (gatewayOver site tables db) =
      .ok ((truthy (db.gatheringScope gathering).branch).any fun branch =>
        tables.memberBranch member == some branch) := by
    have read : truthy ((gatewayOver site tables db).gatheringScope gathering).branch =
        truthy (db.gatheringScope gathering).branch := rfl
    rw [isMemberInScope, if_neg (not_or.mpr ⟨named, held⟩)]
    dsimp only
    rw [read]
    cases truthy (db.gatheringScope gathering).branch <;> rfl
  rw [Decides, unfolded, branchSet, memberBranch_eq named]
  refine ⟨_, rfl, ?_⟩
  cases anchored : truthy (db.gatheringScope gathering).branch with
  | none => exact iff_of_false Bool.false_ne_true (by rintro ⟨_, ⟨⟩, _⟩)
  | some branch =>
    rw [Option.any_some, beq_iff_eq]
    constructor
    · exact fun home => ⟨branch, rfl, home⟩
    · rintro ⟨_, ⟨⟩, home⟩
      exact home

/-- `Branch Subtree` is the members at home from the branch down. -/
theorem branchSubtree_decided (sited : Sited tables (db.gatheringScope gathering)) :
    Decides (gatewayOver site tables db) gathering member scopeBranchSubtree
      (branchSubtreeSet tables (db.gatheringScope gathering)) := by
  have unfolded : isMemberInScope member gathering scopeBranchSubtree
      (gatewayOver site tables db) =
        (truthy (db.gatheringScope gathering).branch).elim (.ok false) fun branch =>
          (tables.branchSubtree branch).bind fun subtree =>
            .ok ((tables.memberBranch member).any subtree.contains) := by
    have read : truthy ((gatewayOver site tables db).gatheringScope gathering).branch =
        truthy (db.gatheringScope gathering).branch := rfl
    rw [isMemberInScope, if_neg (not_or.mpr ⟨named, held⟩)]
    dsimp only
    rw [read]
    cases truthy (db.gatheringScope gathering).branch <;> rfl
  rw [Decides, unfolded, branchSubtreeSet, memberBranch_eq named]
  cases anchored : truthy (db.gatheringScope gathering).branch with
  | none => exact ⟨false, rfl, iff_of_false Bool.false_ne_true (by rintro ⟨_, _, ⟨⟩, _⟩)⟩
  | some branch =>
    obtain ⟨row, inside, same, _⟩ := sited.branch branch anchored
    obtain ⟨names, read, all⟩ := branchSubtree_ok sited.branches inside (sited.named row inside)
    rw [same] at read all
    rw [Option.elim_some, read]
    refine ⟨_, rfl, ?_⟩
    rw [Option.any_eq_true]
    constructor
    · rintro ⟨home, lives, within⟩
      exact ⟨branch, home, rfl, (all home).mp (List.contains_iff_mem.mp within), lives⟩
    · rintro ⟨_, home, ⟨⟩, below, lives⟩
      exact ⟨home, lives, List.contains_iff_mem.mpr ((all home).mpr below)⟩

/-- `Org-wide` is the members at home in the organization. -/
theorem orgWide_decided :
    Decides (gatewayOver site tables db) gathering member scopeOrgWide
      (orgWideSet tables (db.gatheringScope gathering)) := by
  have unfolded : isMemberInScope member gathering scopeOrgWide (gatewayOver site tables db) =
      .ok ((truthy (db.gatheringScope gathering).organization).any fun organization =>
        (truthy (tables.memberBranch member)).bind tables.branchOrganization ==
          some organization) := by
    have read : truthy ((gatewayOver site tables db).gatheringScope gathering).organization =
        truthy (db.gatheringScope gathering).organization := rfl
    rw [isMemberInScope, if_neg (not_or.mpr ⟨named, held⟩)]
    dsimp only
    rw [read]
    cases truthy (db.gatheringScope gathering).organization <;> rfl
  rw [Decides, unfolded, orgWideSet, memberBranch_eq named]
  refine ⟨_, rfl, ?_⟩
  cases anchored : truthy (db.gatheringScope gathering).organization with
  | none => exact iff_of_false Bool.false_ne_true (by rintro ⟨_, _, ⟨⟩, _⟩)
  | some organization =>
    rw [Option.any_some, beq_iff_eq, Option.bind_eq_some_iff]
    constructor
    · rintro ⟨home, lives, tenant⟩
      exact ⟨organization, home, rfl, tenant, lives⟩
    · rintro ⟨_, home, ⟨⟩, tenant, lives⟩
      exact ⟨home, lives, tenant⟩

end Scopes

/-- The roster of a group is part of those from the group down. -/
theorem ownGroup_subset (tables : ScopeTables) (anchors : GatheringScope) :
    ownGroupSet tables anchors ⊆ groupSubtreeSet tables anchors :=
  fun _ ⟨group, anchored, roster⟩ => ⟨group, group, anchored, .refl, roster⟩

/-- The members at home in a branch are among those from the branch down. -/
theorem branch_subset (tables : ScopeTables) (anchors : GatheringScope) :
    branchSet tables anchors ⊆ branchSubtreeSet tables anchors :=
  fun _ ⟨branch, anchored, home⟩ => ⟨branch, branch, anchored, .refl, home⟩

/-- The members at home from a branch down are among those of its organization. -/
theorem branchSubtree_subset {anchors : GatheringScope} (sited : Sited tables anchors) :
    branchSubtreeSet tables anchors ⊆ orgWideSet tables anchors := by
  rintro member ⟨branch, home, anchored, below, lives⟩
  obtain ⟨base, inside, same, tenant⟩ := sited.branch branch anchored
  rw [← same] at below
  obtain ⟨row, there, called, shared⟩ := organization_below sited inside below
  refine ⟨base.organization, home, ?_, ?_, ?_⟩
  · rw [tenant, truthy_some (sited.tenanted base inside)]
  · rw [ScopeTables.branchOrganization, (tables.branches.find?_eq_some).mpr ⟨there, called⟩,
      ← shared]
    rfl
  · rw [lives, ← called, truthy_some (sited.named row there)]

/-- Whoever is in one scope is in the other. -/
def Widens (gateway : RegistrationScopeGateway) (gathering member narrow wide : String) : Prop :=
  isMemberInScope member gathering narrow gateway = .ok true →
    isMemberInScope member gathering wide gateway = .ok true

/-- A scope of a larger set is wider. -/
theorem Decides.widens {gateway : RegistrationScopeGateway} {narrow wide : String}
    {part whole : Set String} (small : Decides gateway gathering member narrow part)
    (large : Decides gateway gathering member wide whole) (subset : part ⊆ whole) :
    Widens gateway gathering member narrow wide := by
  intro eligible
  obtain ⟨answer, answered, inPart⟩ := small
  obtain ⟨other, replied, inWhole⟩ := large
  rw [eligible] at answered
  cases answered
  rw [replied, inWhole.mpr (subset (inPart.mp rfl))]

/-- The predicate decides the eligible set of each scope, and the sets are nested. -/
theorem scopes_decided_and_nested (site : EventRegistration.Site) (tables : ScopeTables)
    (db : EventRegistration.Tables) (gathering member : String)
    (sited : Sited tables (db.gatheringScope gathering)) (named : member ≠ "")
    (held : gathering ≠ "") :
    (∀ entry ∈ eligibleSets tables (db.gatheringScope gathering),
      Decides (gatewayOver site tables db) gathering member entry.1 entry.2) ∧
    Widens (gatewayOver site tables db) gathering member scopeOwnGroup scopeGroupSubtree ∧
    Widens (gatewayOver site tables db) gathering member scopeBranch scopeBranchSubtree ∧
    Widens (gatewayOver site tables db) gathering member scopeBranchSubtree scopeOrgWide := by
  refine ⟨?_, ?_, ?_, ?_⟩
  · rw [eligibleSets, List.forall_mem_cons, List.forall_mem_cons, List.forall_mem_cons,
      List.forall_mem_cons, List.forall_mem_cons, List.forall_mem_singleton]
    exact ⟨none_decided named held, ownGroup_decided named held,
      groupSubtree_decided named held sited, branch_decided named held,
      branchSubtree_decided named held sited, orgWide_decided named held⟩
  · exact (ownGroup_decided named held).widens (groupSubtree_decided named held sited)
      (ownGroup_subset tables _)
  · exact (branch_decided named held).widens (branchSubtree_decided named held sited)
      (branch_subset tables _)
  · exact (branchSubtree_decided named held sited).widens (orgWide_decided named held)
      (branchSubtree_subset sited)

end Predicate

/-- The member of the lower branch has a name. -/
theorem hillMember_named : "MEM-00001" ≠ "" := by decide

/-- A ministry with a group below it, and a member of that group at home in the lower branch. -/
def hillTables : ScopeTables where
  directory := { ministryTables with
    roster := [{ group := "North-Teens", member := "MEM-00001", grouped := teens.named,
                 anchored := hillMember_named }] }
  branches := districts
  homeBranch member := if member = "MEM-00001" then some "Hill" else none

/-- A gathering of the ministry in the upper branch. -/
def hillDatabase : EventRegistration.Tables where
  gatherings _ := some {
    organization := some "Flock"
    branch := some "North"
    group := some "North-Ministry" }
  registrations := .empty _

/-- The member is in the wider scopes of both trees, and not in the narrower ones. -/
example : [scopeOwnGroup, scopeGroupSubtree, scopeBranch, scopeBranchSubtree, scopeOrgWide].map
    (fun scope => (isMemberInScope "MEM-00001" "GATH-00001" scope
      (gatewayOver (EventRegistration.northSite 0) hillTables hillDatabase)).toOption) =
        [some false, some true, some false, some true, some true] := by decide

/-- The gathering is sited. -/
theorem hill_sited : Sited hillTables (hillDatabase.gatheringScope "GATH-00001") where
  groups := ministryTables_nested
  branches := districts_nested
  named := by decide
  tenanted := by decide
  shared := by decide
  group group anchored := ⟨ministry, by decide, Option.some.inj anchored⟩
  branch branch anchored :=
    ⟨⟨"North", "Flock", none, 1, 8⟩, by decide, Option.some.inj anchored, rfl⟩

/-- The scopes of the gathering are decided for the member. -/
theorem hill_decided_and_nested :
    ((∀ entry ∈ eligibleSets hillTables (hillDatabase.gatheringScope "GATH-00001"),
      Decides (gatewayOver (EventRegistration.northSite 0) hillTables hillDatabase) "GATH-00001"
        "MEM-00001" entry.1 entry.2) ∧
    Widens (gatewayOver (EventRegistration.northSite 0) hillTables hillDatabase) "GATH-00001"
      "MEM-00001" scopeOwnGroup scopeGroupSubtree ∧
    Widens (gatewayOver (EventRegistration.northSite 0) hillTables hillDatabase) "GATH-00001"
      "MEM-00001" scopeBranch scopeBranchSubtree ∧
    Widens (gatewayOver (EventRegistration.northSite 0) hillTables hillDatabase) "GATH-00001"
      "MEM-00001" scopeBranchSubtree scopeOrgWide) :=
  scopes_decided_and_nested (EventRegistration.northSite 0) hillTables hillDatabase "GATH-00001"
    "MEM-00001" hill_sited (by decide) (by decide)

end FlockOs.RegistrationScope
