import FlockOs.Lib.Exec
import FlockOs.Lib.Runs
import FlockOs.ScopeAnchors

/-!
# Scope anchors over runs

A save looks up to the parent group, the group and the branch, and never down to what hangs below.
The anchors stay consistent throughout a run exactly where every organization that a document gives
is the one of its branch, and no group changes its branch while something is bound to the old one.
-/

namespace FlockOs.ScopeAnchors

open Lib Gatherings Trees

section Checks

variable {site : Site}

/-- A link that is set names a row. -/
def Linked (names : List String) (link : Option String) : Prop :=
  ∀ name, truthy link = some name → name ∈ names

/-- The check of a link lets through what names a row. -/
theorem validateLink_iff {label : String} {names : List String} {link : Option String} :
    validateLink label names link = .ok () ↔ Linked names link := by
  rw [validateLink, Linked]
  cases truthy link with
  | none => exact iff_of_true rfl fun _ none => nomatch none
  | some name =>
    dsimp only
    by_cases inside : name ∈ names
    · rw [if_pos inside]
      exact iff_of_true rfl fun other same => Option.some.inj same ▸ inside
    · rw [if_neg inside]
      exact iff_of_false (fun raised => nomatch raised) fun all => inside (all name rfl)

/-- What is thrown again was raised. -/
theorem thrown_eq_ok {outcome : Except Error Unit} :
    thrown outcome = .ok () ↔ outcome = .ok () := by
  cases outcome with
  | ok done => rfl
  | error raised =>
    have kept : thrown (.error raised) ≠ .ok () := by
      cases raised <;> exact fun returned => nomatch returned
    exact iff_of_false kept fun returned => nomatch returned

/-- What the binding of a group lets through. -/
theorem validateGroupBranchBinding_iff {parentBranch : Option String} {childBranch : String} :
    validateGroupBranchBinding parentBranch childBranch = .ok () ↔
      childBranch ≠ "" ∧ ∀ branch, parentBranch = some branch → branch = childBranch := by
  unfold validateGroupBranchBinding
  by_cases unset : childBranch = ""
  · simp [unset]
  · cases parentBranch with
    | none => simp [unset]
    | some branch => simp [unset]

/-- What the binding of a gathering lets through. -/
theorem validateGatheringBranchBinding_iff {groupBranch : Option String}
    {gatheringBranch : String} :
    validateGatheringBranchBinding groupBranch gatheringBranch = .ok () ↔
      gatheringBranch ≠ "" ∧ groupBranch = some gatheringBranch := by
  unfold validateGatheringBranchBinding
  by_cases unset : gatheringBranch = ""
  · simp [unset]
  · cases groupBranch with
    | none => simp [unset]
    | some branch => simp [unset]

/-- What a group must bring to be saved. -/
structure GroupPasses (site : Site) (doc : Group) : Prop where
  /-- The branch names a row. -/
  branch : doc.branch ∈ site.branches.rows.map Branch.name
  /-- The organization names a row. -/
  organization : Linked site.organizations doc.organization
  /-- The parent has the same branch. -/
  parent : ∀ parent, truthy doc.parentGroup = some parent →
    site.groupBranch parent = some doc.branch
  /-- The name is set. -/
  named : doc.groupName ≠ ""
  /-- The branch is set. -/
  anchored : doc.branch ≠ ""

/-- The branch of a group is the one of its row. -/
theorem groupBranch_iff {name branch : String} : site.groupBranch name = some branch ↔
    ∃ row ∈ site.groups.rows, row.name = name ∧ row.branch = branch := by
  rw [Site.groupBranch, Option.map_eq_some_iff]
  constructor
  · intro ⟨row, found, same⟩
    obtain ⟨member, named⟩ := site.groups.find?_eq_some.mp found
    exact ⟨row, member, named, same⟩
  · intro ⟨row, member, named, same⟩
    exact ⟨row, site.groups.find?_eq_some.mpr ⟨member, named⟩, same⟩

/-- A group of the site has a branch. -/
theorem groupBranch_of_mem {name : String} (inside : name ∈ site.groups.rows.map Group.name) :
    ∃ branch, site.groupBranch name = some branch := by
  obtain ⟨row, member, same⟩ := List.mem_map.mp inside
  exact ⟨row.branch, groupBranch_iff.mpr ⟨row, member, same, rfl⟩⟩

/-- A group with a branch is one of the site. -/
theorem mem_of_groupBranch {name branch : String} (bound : site.groupBranch name = some branch) :
    name ∈ site.groups.rows.map Group.name := by
  obtain ⟨row, member, same, _⟩ := groupBranch_iff.mp bound
  exact List.mem_map.mpr ⟨row, member, same⟩

/-- What the checks of a group let through is the document with the organization filled in. -/
theorem checkGroup_iff {doc filled : Group} : checkGroup site doc = .ok filled ↔
    GroupPasses site doc ∧ filled = branchOrganizationDefault site doc := by
  simp only [checkGroup, validateGroup, validateBranchBinding, bind_eq_ok_iff]
  constructor
  · intro ⟨_, branch, _, organization, _, linked, checked, ⟨_, bound, same⟩, rest⟩
    cases same
    obtain ⟨anchored, inherited⟩ := validateGroupBranchBinding_iff.mp (thrown_eq_ok.mp bound)
    rw [if_neg anchored] at rest
    split at rest
    · cases rest
    · next named =>
      cases rest
      refine ⟨⟨?_, validateLink_iff.mp organization, fun parent given => ?_, named, anchored⟩, rfl⟩
      · exact validateLink_iff.mp branch doc.branch (truthy_some anchored)
      · obtain ⟨above, found⟩ := groupBranch_of_mem (validateLink_iff.mp linked parent given)
        have lookup : (truthy doc.parentGroup).bind site.groupBranch = some above := by
          rw [given, Option.bind_some, found]
        rw [found, inherited above lookup]
        rfl
  · intro ⟨passes, same⟩
    have inherited (branch : String)
        (above : (truthy doc.parentGroup).bind site.groupBranch = some branch) :
        branch = doc.branch := by
      obtain ⟨parent, given, found⟩ := Option.bind_eq_some_iff.mp above
      exact Option.some.inj (found.symm.trans (passes.parent parent given))
    refine ⟨(), validateLink_iff.mpr fun name given => ?_, (),
      validateLink_iff.mpr passes.organization, (), validateLink_iff.mpr fun parent given => ?_,
      branchOrganizationDefault site doc, ⟨(), ?_, rfl⟩, ?_⟩
    · rw [truthy_some passes.anchored] at given
      exact Option.some.inj given ▸ passes.branch
    · exact mem_of_groupBranch (passes.parent parent given)
    · exact thrown_eq_ok.mpr (validateGroupBranchBinding_iff.mpr ⟨passes.anchored, inherited⟩)
    · have named : (branchOrganizationDefault site doc).groupName ≠ "" := passes.named
      have anchored : (branchOrganizationDefault site doc).branch ≠ "" := passes.anchored
      rw [if_neg named, if_neg anchored, same]
      rfl

/-- What a gathering must bring to be saved over a row, or as a new one. -/
structure GatheringPasses (site : Site) (before : Option Gathering) (doc : Gathering) : Prop where
  /-- The branch names a row. -/
  branch : doc.branch ∈ site.branches.rows.map Branch.name
  /-- The organization names a row. -/
  organization : Linked site.organizations doc.organization
  /-- The group has the same branch. -/
  group : site.groupBranch doc.group = some doc.branch
  /-- The group is set. -/
  grouped : doc.group ≠ ""
  /-- The branch is set. -/
  anchored : doc.branch ≠ ""
  /-- The status may follow the stored one. -/
  status : validateStatusTransition (before.map Gathering.status) doc.status = .ok ()

/-- What the checks of a gathering let through is the document with the organization and the path
filled in. -/
theorem checkGathering_iff {before : Option Gathering} {doc filled : Gathering} :
    checkGathering site before doc = .ok filled ↔ GatheringPasses site before doc ∧
      filled = denormalizeGroupPath site (denormalizeTenantFloor site doc) := by
  simp only [checkGathering, validateGathering, validateBranchGroupBinding, validateStatus,
    bind_eq_ok_iff]
  constructor
  · intro ⟨_, organization, _, branch, _, _, _, bound, _, status, same⟩
    obtain ⟨anchored, found⟩ := validateGatheringBranchBinding_iff.mp (thrown_eq_ok.mp bound)
    obtain ⟨group, given, bound⟩ := Option.bind_eq_some_iff.mp found
    have grouped := truthy_nonempty given
    cases truthy_eq_some given
    have inside := validateLink_iff.mp branch doc.branch (truthy_some anchored)
    refine ⟨⟨inside, validateLink_iff.mp organization, bound, grouped, anchored, ?_⟩, ?_⟩
    · exact thrown_eq_ok.mp status
    · exact (Except.ok.inj same).symm
  · intro ⟨passes, same⟩
    have found : (truthy (some doc.group)).bind site.groupBranch = some doc.branch := by
      rw [truthy_some passes.grouped, Option.bind_some, passes.group]
    refine ⟨(), validateLink_iff.mpr passes.organization, (),
      validateLink_iff.mpr fun name given => ?_, (), validateLink_iff.mpr fun name given => ?_, (), ?_, (), thrown_eq_ok.mpr passes.status, ?_⟩
    · rw [truthy_some passes.anchored] at given
      exact Option.some.inj given ▸ passes.branch
    · rw [truthy_some passes.grouped] at given
      exact Option.some.inj given ▸ mem_of_groupBranch passes.group
    · exact thrown_eq_ok.mpr (validateGatheringBranchBinding_iff.mpr ⟨passes.anchored, found⟩)
    · rw [same]
      rfl

/-- An organization that a document gives is the one of its branch. -/
def OwnFloor (site : Site) (organization : Option String) (branch : String) : Prop :=
  (truthy organization).isSome → truthy organization = truthy (site.branchOrganization branch)

/-- What is filled in is the organization of the branch exactly where none else was given. -/
theorem tenantFloor_iff {organization : Option String} {branch : String} (set : branch ≠ "") :
    truthy (tenantFloor site organization branch) = truthy (site.branchOrganization branch) ↔
      OwnFloor site organization branch := by
  rw [tenantFloor, OwnFloor]
  cases given : truthy organization with
  | some own => simp [given]
  | none =>
    rw [if_neg (by simp [set])]
    refine iff_of_true ?_ fun none => nomatch none
    cases floor : truthy (site.branchOrganization branch) with
    | none => exact given
    | some own => rw [Option.some_or, ← floor, truthy_truthy]

end Checks

namespace Site

/-- The anchors are consistent. -/
structure Anchored (site : Site) : Prop where
  /-- A group has the branch of its parent. -/
  parent : ∀ doc ∈ site.groups.rows, ∀ parent, truthy doc.parentGroup = some parent →
    site.groupBranch parent = some doc.branch
  /-- A gathering has the branch of its group. -/
  group : ∀ doc ∈ site.gatherings.rows, site.groupBranch doc.group = some doc.branch
  /-- A group has the organization of its branch. -/
  groupFloor : ∀ doc ∈ site.groups.rows,
    truthy doc.organization = truthy (site.branchOrganization doc.branch)
  /-- A gathering has the organization of its branch. -/
  gatheringFloor : ∀ doc ∈ site.gatherings.rows,
    truthy doc.organization = truthy (site.branchOrganization doc.branch)

/-- Nothing else is bound to the branch of a group. -/
def Unfollowed (site : Site) (name : String) : Prop :=
  (∀ doc ∈ site.groups.rows, doc.name ≠ name → truthy doc.parentGroup ≠ some name) ∧
    ∀ doc ∈ site.gatherings.rows, doc.group ≠ name

/-- A group that is saved gives no other organization than that of its branch, and changes its
branch only where nothing else is bound to it. -/
def KeepsGroup (site : Site) (doc : Group) : Prop :=
  GroupPasses site doc → OwnFloor site doc.organization doc.branch ∧
    ∀ branch, site.groupBranch doc.name = some branch →
      branch = doc.branch ∨ site.Unfollowed doc.name

/-- A save leaves the anchors consistent, where it goes through. -/
def KeepsAnchors (site : Site) : AnchorCall → Prop
  | .insertGroup groupName branch organization parentGroup =>
    branch ++ "-" ++ groupName ∉ site.groups.rows.map Group.name →
      site.KeepsGroup (newGroup groupName branch organization parentGroup)
  | .saveGroup doc => doc.name ∈ site.groups.rows.map Group.name → site.KeepsGroup doc
  | .insertGathering doc => doc.name ∉ site.gatherings.rows.map Gathering.name →
      GatheringPasses site none doc → OwnFloor site doc.organization doc.branch
  | .saveGathering doc => ∀ before, site.gatherings.find? doc.name = some before →
      GatheringPasses site (some before) doc → OwnFloor site doc.organization doc.branch

variable {site next : Site}

/-- A group that is written over the row with its name, or beside the others. -/
structure Wrote (site next : Site) (doc : Group) : Prop where
  /-- The branches are left. -/
  branches : next.branches = site.branches
  /-- The gatherings are left. -/
  gatherings : next.gatherings = site.gatherings
  /-- The group is written. -/
  rows : site.groups.Wrote next.groups doc

/-- The branch of a group after a write. -/
theorem Wrote.groupBranch {doc : Group} (wrote : site.Wrote next doc) {name branch : String} :
    next.groupBranch name = some branch ↔ (name = doc.name ∧ doc.branch = branch) ∨
      (name ≠ doc.name ∧ site.groupBranch name = some branch) := by
  rw [groupBranch_iff, groupBranch_iff]
  constructor
  · intro ⟨row, inside, named, same⟩
    cases (wrote.rows row).mp inside with
    | inl old => exact .inr ⟨named ▸ old.2, row, old.1, named, same⟩
    | inr new =>
      rw [new] at named same
      exact .inl ⟨named.symm, same⟩
  · intro either
    cases either with
    | inl own => exact ⟨doc, (wrote.rows doc).mpr (.inr rfl), own.1.symm, own.2⟩
    | inr other =>
      obtain ⟨differs, row, inside, named, same⟩ := other
      exact ⟨row, (wrote.rows row).mpr (.inl ⟨inside, named ▸ differs⟩), named, same⟩

/-- What is bound to a group is still bound to it after a write exactly where the group keeps its
branch, if it is the one written. -/
theorem Wrote.bound_iff {doc : Group} (wrote : site.Wrote next doc) {name branch : String}
    (bound : site.groupBranch name = some branch) :
    next.groupBranch name = some branch ↔ (name = doc.name → doc.branch = branch) := by
  rw [wrote.groupBranch]
  by_cases own : name = doc.name
  · simp [own]
  · simp [own, bound]

/-- The organization of a branch after a write. -/
theorem Wrote.branchOrganization {doc : Group} (wrote : site.Wrote next doc) :
    next.branchOrganization = site.branchOrganization := by
  funext branch
  rw [Site.branchOrganization, Site.branchOrganization, wrote.branches]

/-- A group that passes the checks is written with consistent anchors exactly where it keeps them
consistent. -/
theorem wrote_anchored_iff (held : site.Anchored) {doc : Group} (passes : GroupPasses site doc)
    (wrote : site.Wrote next (branchOrganizationDefault site doc)) :
    next.Anchored ↔ OwnFloor site doc.organization doc.branch ∧
      ∀ branch, site.groupBranch doc.name = some branch →
        branch = doc.branch ∨ site.Unfollowed doc.name := by
  have floor : truthy (branchOrganizationDefault site doc).organization =
      truthy (next.branchOrganization doc.branch) ↔ OwnFloor site doc.organization doc.branch := by
    rw [wrote.branchOrganization]
    exact tenantFloor_iff passes.anchored
  constructor
  · intro kept
    refine ⟨floor.mp (kept.groupFloor _ ((wrote.rows _).mpr (.inr rfl))), fun branch stored => ?_⟩
    by_cases same : branch = doc.branch
    · exact .inl same
    refine .inr ⟨fun row inside differs given => ?_, fun row inside bound => ?_⟩
    · have before := held.parent row inside doc.name given
      have later := kept.parent row ((wrote.rows row).mpr (.inl ⟨inside, differs⟩)) doc.name given
      have moved : doc.branch = row.branch := (wrote.bound_iff before).mp later rfl
      exact same (Option.some.inj (stored.symm.trans before) |>.trans moved.symm)
    · have before := held.group row inside
      have later := kept.group row (wrote.gatherings ▸ inside)
      have moved : doc.branch = row.branch := (wrote.bound_iff before).mp later bound
      rw [bound] at before
      exact same (Option.some.inj (stored.symm.trans before) |>.trans moved.symm)
  · intro ⟨own, followed⟩
    have still {name branch : String} (bound : site.groupBranch name = some branch)
        (follows : name = doc.name → ¬ site.Unfollowed doc.name) :
        next.groupBranch name = some branch := by
      refine (wrote.bound_iff bound).mpr fun same => ?_
      rw [show name = doc.name from same] at bound
      exact ((followed branch bound).resolve_right (follows same)).symm
    refine ⟨fun row inside parent given => ?_, fun row inside => ?_, fun row inside => ?_,
      fun row inside => ?_⟩
    · cases (wrote.rows row).mp inside with
      | inl old =>
        refine still (held.parent row old.1 parent given) fun same free => ?_
        exact free.1 row old.1 old.2 (same ▸ given)
      | inr new =>
        rw [new] at given ⊢
        have bound := passes.parent parent given
        exact (wrote.bound_iff bound).mpr fun _ => rfl
    · rw [wrote.gatherings] at inside
      exact still (held.group row inside) fun same free => free.2 row inside same
    · cases (wrote.rows row).mp inside with
      | inl old =>
        rw [wrote.branchOrganization]
        exact held.groupFloor row old.1
      | inr new =>
        rw [new]
        exact floor.mpr own
    · rw [wrote.gatherings] at inside
      rw [wrote.branchOrganization]
      exact held.gatheringFloor row inside

/-- A gathering that is written over the row with its name, or beside the others. -/
structure WroteGathering (site next : Site) (doc : Gathering) : Prop where
  /-- The branches are left. -/
  branches : next.branches = site.branches
  /-- The groups are left. -/
  groups : next.groups = site.groups
  /-- The gathering is written. -/
  rows : site.gatherings.Wrote next.gatherings doc

/-- A gathering that passes the checks is written with consistent anchors exactly where no other
organization is given. -/
theorem wroteGathering_anchored_iff (held : site.Anchored) {before : Option Gathering}
    {doc : Gathering} (passes : GatheringPasses site before doc)
    (wrote : site.WroteGathering next
      (denormalizeGroupPath site (denormalizeTenantFloor site doc))) :
    next.Anchored ↔ OwnFloor site doc.organization doc.branch := by
  obtain ⟨branches, groups, rows⟩ := wrote
  have lookup : next.groupBranch = site.groupBranch := by
    funext name
    rw [groupBranch, groupBranch, groups]
  have organizations : next.branchOrganization = site.branchOrganization := by
    funext branch
    rw [branchOrganization, branchOrganization, branches]
  rw [← tenantFloor_iff passes.anchored]
  constructor
  · intro kept
    rw [← organizations]
    exact kept.gatheringFloor _ ((rows _).mpr (.inr rfl))
  · intro own
    refine ⟨?_, fun row inside => ?_, ?_, fun row inside => ?_⟩
    · rw [lookup, groups]
      exact held.parent
    · rw [lookup]
      cases (rows row).mp inside with
      | inl old => exact held.group row old.1
      | inr new =>
        rw [new]
        exact passes.group
    · rw [organizations, groups]
      exact held.groupFloor
    · rw [organizations]
      cases (rows row).mp inside with
      | inl old => exact held.gatheringFloor row old.1
      | inr new =>
        rw [new]
        exact own

/-- A rejected save leaves the site. -/
theorem step_error {call : AnchorCall} {raised : Error}
    (outcome : site.perform call = .error raised) :
    site.step call = site := by
  rw [step, outcome]

/-- A save that goes through leaves what it returns. -/
theorem step_ok {call : AnchorCall} (outcome : site.perform call = .ok next) :
    site.step call = next := by
  rw [step, outcome]

/-- A new group goes through where it passes the checks under a new name. -/
theorem insertGroup_iff {doc : Group} : insertGroup site doc = .ok next ↔ GroupPasses site doc ∧
    ∃ fresh : doc.name ∉ site.groups.rows.map Group.name,
      next = { site with
        groups := site.groups.add (branchOrganizationDefault site doc) fresh } := by
  rw [insertGroup, bind_eq_ok_iff]
  constructor
  · intro ⟨filled, checked, rest⟩
    obtain ⟨passes, same⟩ := checkGroup_iff.mp checked
    rw [same] at rest
    split at rest
    · next fresh => exact ⟨passes, fresh, (Except.ok.inj rest).symm⟩
    · cases rest
  · intro ⟨passes, fresh, same⟩
    refine ⟨_, checkGroup_iff.mpr ⟨passes, rfl⟩, ?_⟩
    rw [dif_pos (show (branchOrganizationDefault site doc).name ∉ _ from fresh), same]
    rfl

/-- A save of a group goes through where it passes the checks and is stored. -/
theorem saveGroup_iff {doc : Group} : saveGroup site doc = .ok next ↔
    GroupPasses site doc ∧ (∃ old, site.groups.find? doc.name = some old) ∧
      next = { site with groups := site.groups.replace (branchOrganizationDefault site doc) } := by
  rw [saveGroup]
  cases stored : site.groups.find? doc.name with
  | none => simp
  | some old =>
    dsimp only
    rw [bind_eq_ok_iff]
    constructor
    · intro ⟨filled, checked, rest⟩
      obtain ⟨passes, same⟩ := checkGroup_iff.mp checked
      rw [same] at rest
      exact ⟨passes, ⟨old, rfl⟩, (Except.ok.inj rest).symm⟩
    · intro ⟨passes, _, same⟩
      exact ⟨_, checkGroup_iff.mpr ⟨passes, rfl⟩, by rw [same]; rfl⟩

/-- A new gathering goes through where it passes the checks under a new name. -/
theorem insertGathering_iff {doc : Gathering} : insertGathering site doc = .ok next ↔
    GatheringPasses site none doc ∧ ∃ fresh : doc.name ∉ site.gatherings.rows.map Gathering.name,
      next = { site with
        gatherings := site.gatherings.add
          (denormalizeGroupPath site (denormalizeTenantFloor site doc)) fresh } := by
  rw [insertGathering, bind_eq_ok_iff]
  constructor
  · intro ⟨filled, checked, rest⟩
    obtain ⟨passes, same⟩ := checkGathering_iff.mp checked
    rw [same] at rest
    split at rest
    · next fresh => exact ⟨passes, fresh, (Except.ok.inj rest).symm⟩
    · cases rest
  · intro ⟨passes, fresh, same⟩
    refine ⟨_, checkGathering_iff.mpr ⟨passes, rfl⟩, ?_⟩
    rw [dif_pos (show (denormalizeGroupPath site (denormalizeTenantFloor site doc)).name ∉ _
      from fresh), same]
    rfl

/-- A save of a gathering goes through where it passes the checks over the stored row. -/
theorem saveGathering_iff {doc : Gathering} : saveGathering site doc = .ok next ↔
    ∃ before, site.gatherings.find? doc.name = some before ∧
      GatheringPasses site (some before) doc ∧ next = { site with
        gatherings := site.gatherings.replace
          (denormalizeGroupPath site (denormalizeTenantFloor site doc)) } := by
  rw [saveGathering]
  cases stored : site.gatherings.find? doc.name with
  | none => simp
  | some before =>
    dsimp only
    rw [bind_eq_ok_iff]
    constructor
    · intro ⟨filled, checked, rest⟩
      obtain ⟨passes, same⟩ := checkGathering_iff.mp checked
      rw [same] at rest
      exact ⟨before, rfl, passes, (Except.ok.inj rest).symm⟩
    · intro ⟨other, found, passes, same⟩
      cases found
      exact ⟨_, checkGathering_iff.mpr ⟨passes, rfl⟩, by rw [same]; rfl⟩

/-- The group that an insertion adds is written beside the others. -/
theorem add_wrote {doc : Group} (fresh : doc.name ∉ site.groups.rows.map Group.name) :
    site.Wrote
      { site with groups := site.groups.add (branchOrganizationDefault site doc) fresh }
      (branchOrganizationDefault site doc) := by
  have unused : (branchOrganizationDefault site doc).name ∉ site.groups.rows.map Group.name := fresh
  exact ⟨rfl, rfl, Table.wrote_add unused⟩

/-- The group that a save replaces is written over its row. -/
theorem replace_wrote {doc old : Group} (stored : site.groups.find? doc.name = some old) :
    site.Wrote { site with groups := site.groups.replace (branchOrganizationDefault site doc) }
      (branchOrganizationDefault site doc) := by
  have found : site.groups.find? (branchOrganizationDefault site doc).name = some old := stored
  exact ⟨rfl, rfl, Table.wrote_replace found⟩

/-- The gathering that an insertion adds is written beside the others. -/
theorem add_wroteGathering {doc : Gathering}
    (fresh : doc.name ∉ site.gatherings.rows.map Gathering.name) :
    site.WroteGathering
      { site with gatherings := site.gatherings.add
                    (denormalizeGroupPath site (denormalizeTenantFloor site doc)) fresh }
      (denormalizeGroupPath site (denormalizeTenantFloor site doc)) := by
  have unused : (denormalizeGroupPath site (denormalizeTenantFloor site doc)).name ∉
      site.gatherings.rows.map Gathering.name := fresh
  exact ⟨rfl, rfl, Table.wrote_add unused⟩

/-- The gathering that a save replaces is written over its row. -/
theorem replace_wroteGathering {doc before : Gathering}
    (stored : site.gatherings.find? doc.name = some before) :
    site.WroteGathering
      { site with gatherings := site.gatherings.replace
                    (denormalizeGroupPath site (denormalizeTenantFloor site doc)) }
      (denormalizeGroupPath site (denormalizeTenantFloor site doc)) := by
  have found : site.gatherings.find?
      (denormalizeGroupPath site (denormalizeTenantFloor site doc)).name = some before := stored
  exact ⟨rfl, rfl, Table.wrote_replace found⟩

/-- The insertion of a group. -/
theorem insertGroup_anchored_iff (held : site.Anchored) (groupName branch : String)
    (organization parentGroup : Option String) :
    (site.step (.insertGroup groupName branch organization parentGroup)).Anchored ↔
      site.KeepsAnchors (.insertGroup groupName branch organization parentGroup) := by
  cases outcome : site.perform (.insertGroup groupName branch organization parentGroup) with
  | error raised =>
    rw [step_error outcome]
    refine iff_of_true held fun fresh passes => ?_
    exact nomatch (insertGroup_iff.mpr ⟨passes, fresh, rfl⟩).symm.trans outcome
  | ok next =>
    obtain ⟨passes, fresh, same⟩ := insertGroup_iff.mp outcome
    rw [step_ok outcome, same, wrote_anchored_iff held passes (add_wrote fresh)]
    exact ⟨fun kept _ _ => kept, fun kept => kept fresh passes⟩

/-- The save of a group. -/
theorem saveGroup_anchored_iff (held : site.Anchored) (doc : Group) :
    (site.step (.saveGroup doc)).Anchored ↔ site.KeepsAnchors (.saveGroup doc) := by
  cases outcome : site.perform (.saveGroup doc) with
  | error raised =>
    rw [step_error outcome]
    refine iff_of_true held fun inside passes => ?_
    obtain ⟨old, member, same⟩ := List.mem_map.mp inside
    have stored := site.groups.find?_eq_some.mpr ⟨member, same⟩
    exact nomatch (saveGroup_iff.mpr ⟨passes, ⟨old, stored⟩, rfl⟩).symm.trans outcome
  | ok next =>
    obtain ⟨passes, ⟨old, stored⟩, same⟩ := saveGroup_iff.mp outcome
    obtain ⟨member, named⟩ := site.groups.find?_eq_some.mp stored
    rw [step_ok outcome, same, wrote_anchored_iff held passes (replace_wrote stored)]
    exact ⟨fun kept _ _ => kept, fun kept => kept (List.mem_map.mpr ⟨old, member, named⟩) passes⟩

/-- The insertion of a gathering. -/
theorem insertGathering_anchored_iff (held : site.Anchored) (doc : Gathering) :
    (site.step (.insertGathering doc)).Anchored ↔ site.KeepsAnchors (.insertGathering doc) := by
  cases outcome : site.perform (.insertGathering doc) with
  | error raised =>
    rw [step_error outcome]
    refine iff_of_true held fun fresh passes => ?_
    exact nomatch (insertGathering_iff.mpr ⟨passes, fresh, rfl⟩).symm.trans outcome
  | ok next =>
    obtain ⟨passes, fresh, same⟩ := insertGathering_iff.mp outcome
    rw [step_ok outcome, same, wroteGathering_anchored_iff held passes (add_wroteGathering fresh)]
    exact ⟨fun kept _ _ => kept, fun kept => kept fresh passes⟩

/-- The save of a gathering. -/
theorem saveGathering_anchored_iff (held : site.Anchored) (doc : Gathering) :
    (site.step (.saveGathering doc)).Anchored ↔ site.KeepsAnchors (.saveGathering doc) := by
  cases outcome : site.perform (.saveGathering doc) with
  | error raised =>
    rw [step_error outcome]
    refine iff_of_true held fun before stored passes => ?_
    exact nomatch (saveGathering_iff.mpr ⟨before, stored, passes, rfl⟩).symm.trans outcome
  | ok next =>
    obtain ⟨before, stored, passes, same⟩ := saveGathering_iff.mp outcome
    rw [step_ok outcome, same,
      wroteGathering_anchored_iff held passes (replace_wroteGathering stored)]
    exact ⟨fun kept _ _ _ => kept, fun kept => kept before stored passes⟩

/-- A save keeps the anchors consistent exactly where it leaves them so. -/
theorem step_anchored_iff (site : Site) (call : AnchorCall) (held : site.Anchored) :
    (site.step call).Anchored ↔ site.KeepsAnchors call := by
  cases call with
  | insertGroup groupName branch organization parentGroup =>
    exact insertGroup_anchored_iff held groupName branch organization parentGroup
  | saveGroup doc => exact saveGroup_anchored_iff held doc
  | insertGathering doc => exact insertGathering_anchored_iff held doc
  | saveGathering doc => exact saveGathering_anchored_iff held doc

/-- A site without groups and gatherings. -/
def fresh (organizations : List String) (branches : Table Branch Branch.name) : Site where
  organizations := organizations
  branches := branches

end Site

/-- Throughout a run of saves from a site without groups and gatherings the anchors are consistent
exactly where every save that goes through gives no other organization than that of its branch, and
changes the branch of a group only while nothing else is bound to it. -/
theorem anchors_consistent_iff (organizations : List String) (branches : Table Branch Branch.name)
    (calls : List AnchorCall) :
    EveryState Site.step Site.Anchored (Site.fresh organizations branches) calls ↔
      EveryCall Site.step Site.KeepsAnchors (Site.fresh organizations branches) calls := by
  refine everyState_iff_everyCall (fun _ => True) (fun _ _ _ => trivial)
    (fun site call _ held => site.step_anchored_iff call held) trivial ⟨?_, ?_, ?_, ?_⟩
  · exact fun _ inside => nomatch inside
  · exact fun _ inside => nomatch inside
  · exact fun _ inside => nomatch inside
  · exact fun _ inside => nomatch inside

/-- Two branches side by side have different names. -/
theorem northSouth_nodup :
    (List.map Branch.name
      [⟨"North", "Flock", none, 1, 2⟩, ⟨"South", "Flock", none, 3, 4⟩]).Nodup := by decide

/-- Two branches of one organization. -/
def twoBranches : Table Branch Branch.name :=
  ⟨[⟨"North", "Flock", none, 1, 2⟩, ⟨"South", "Flock", none, 3, 4⟩], northSouth_nodup⟩

/-- A group whose branch is changed leaves the group below it at the old one. -/
theorem child_keeps_old_branch :
    ¬ EveryState Site.step Site.Anchored (Site.fresh ["Flock"] twoBranches)
      [.insertGroup "Choir" "North" none none,
        .insertGroup "Altos" "North" none (some "North-Choir"),
        .saveGroup ⟨"North-Choir", "Choir", "South", none, none⟩] := by
  intro throughout
  have bound := throughout.last.parent
    ⟨"North-Altos", "Altos", "North", some "Flock", some "North-Choir"⟩ (by decide +kernel)
    "North-Choir" rfl
  exact absurd bound (by decide +kernel)

end FlockOs.ScopeAnchors
