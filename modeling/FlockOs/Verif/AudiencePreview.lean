import FlockOs.Verif.Announcements

/-!
# The preview of an audience

A preview shows the subtree of the branch, with or without a group anchor, while a push with a group
anchor stays in the subtree of the group. The two agree without a group anchor, and with one where
the groups below it are of the very branches below the branch.
-/

namespace FlockOs.Scheduling

open Lib Directory Notifications Trees Permissions

/-- The query for the leaders finds one through a group. -/
def FoundThrough (tables : Tables) (filtersBranch filtersGroup : List String) (group : Group) :
    Prop :=
  (∃ leader, truthy group.leader = some leader ∧ passes filtersBranch group.branch = true ∧
    passes filtersGroup (some group.name) = true) ∨
  ∃ row ∈ tables.roster, row.group = group.name ∧ row.role ∈ leaderRosterRoles ∧
    row.status = .active ∧ passes filtersBranch row.branch = true ∧
    passes filtersGroup (some row.group) = true

/-- A branch is that of a node of an audience, or of a group through which it finds a leader. -/
def ReachesBranch (tables : Tables) (audience : ScopedAudience) (branch : String) : Prop :=
  match audience.axis with
  | .branch => branch ∈ audience.nodes ∨ ∃ group ∈ tables.groups.rows,
      FoundThrough tables audience.nodes [] group ∧ group.branch = some branch
  | .group => ∃ group ∈ tables.groups.rows,
      (group.name ∈ audience.nodes ∨ FoundThrough tables [] audience.nodes group) ∧
        group.branch = some branch

/-- A preview shows the branches that an audience reaches. -/
def Shows (tables : Tables) (preview : Preview) (audience : ScopedAudience) : Prop :=
  ∀ branch, branch ∈ preview.branches ↔ ReachesBranch tables audience branch

/-- The groups below a group are of the very branches below a branch. -/
def Covers (tables : Tables) (branches : Table Branch Branch.name) (branch group : String) : Prop :=
  ∀ name, Reaches (Levels.Child (branchTree.childrenOf branches.rows)) branch name ↔
    ∃ row ∈ tables.groups.rows,
      Reaches (Levels.Child (groupTree.childrenOf tables.groups.rows)) group row.name ∧
        row.branch = some name

/-- Every group has the branch of its parent. -/
def GroupsBound (tables : Tables) : Prop :=
  ∀ group ∈ tables.groups.rows, ∀ parent ∈ tables.groups.rows,
    truthy group.parentGroup = some parent.name → group.branch = parent.branch

section Previews

variable {tables : Tables} {branches : Table Branch Branch.name} {organization branch : String}
  {group : Option String}

/-- The announcement that a preview validates. -/
def previewed (organization branch : String) (group : Option String) : Announcement where
  name := ""
  subject := ""
  organization := some organization
  branch := some branch
  group := group

/-- What a valid scope has been checked for. -/
structure Admitted (tables : Tables) (branches : Table Branch Branch.name)
    (organization branch : String) (group : Option String) : Prop where
  /-- The tenant is set. -/
  tenant : organization ≠ ""
  /-- The branch is set. -/
  anchored : branch ≠ ""
  /-- The branch is the tenant's. -/
  belongs : branchExists branches branch organization = true
  /-- The group is of the branch. -/
  bound : ∀ anchor, truthy group = some anchor →
    (tables.groups.find? anchor).bind Group.branch = some branch

/-- What the validation of a scope lets through. -/
theorem admitted_of_valid
    (valid : validateAnnouncementScope (previewed organization branch group)
      (frappeSchedulingGateway tables branches) = .ok ()) :
    Admitted tables branches organization branch group := by
  unfold validateAnnouncementScope at valid
  split at valid
  · cases valid
  · next tenant named =>
    have sameTenant : organization = tenant := Option.some.inj (truthy_eq_some named)
    split at valid
    · cases valid
    · next anchor given =>
      have sameBranch : branch = anchor := Option.some.inj (truthy_eq_some given)
      split at valid
      · cases valid
      · next there =>
        have belongs : branchExists branches anchor tenant = true := not_not.mp there
        obtain ⟨_, checked, _⟩ := bind_eq_ok_iff.mp valid
        refine ⟨sameTenant ▸ truthy_nonempty named, sameBranch ▸ truthy_nonempty given,
          sameTenant ▸ sameBranch ▸ belongs, fun wanted same => ?_⟩
        have anchorGroup : truthy (previewed organization branch group).group = some wanted := same
        rw [validateAnnouncementGroup, anchorGroup] at checked
        dsimp only at checked
        split at checked
        · cases checked
        · split at checked
          · cases checked
          · next bound found =>
            split at checked
            · cases checked
            · next agree =>
              rw [sameBranch, ← not_not.mp agree]
              exact truthy_eq_some found

/-- The scope of the fan-out is as valid as that of the announcement. -/
theorem Admitted.validScope (admitted : Admitted tables branches organization branch group) :
    validateScope ⟨organization, some branch, group⟩
      (frappeNotificationFanoutGateway tables branches) = .ok () := by
  have given := truthy_some admitted.anchored
  rw [validateScope, if_neg admitted.tenant]
  dsimp only
  rw [given]
  cases anchored : truthy group with
  | none => exact if_neg (not_not_intro admitted.belongs)
  | some anchor =>
    have own := admitted.bound anchor anchored
    obtain ⟨row, found, _⟩ := Option.bind_eq_some_iff.mp own
    have there : (frappeNotificationFanoutGateway tables branches).groupExists anchor = true := by
      show (tables.groups.find? anchor).isSome = true
      rw [found]
      rfl
    have named : truthy ((frappeNotificationFanoutGateway tables branches).groupBranch anchor) =
        some branch := by
      show truthy ((tables.groups.find? anchor).bind Group.branch) = some branch
      rw [own]
      exact given
    have belongs : (frappeNotificationFanoutGateway tables branches).branchExists branch
        organization = true := admitted.belongs
    have agree : ¬ (some branch).any (fun other => decide (other ≠ branch)) = true := by simp
    dsimp only
    rw [validateGroupAnchor, if_neg (not_not_intro there), named]
    dsimp only
    rw [if_neg (not_not_intro belongs), given, if_neg agree]

/-- The branch of an admitted scope has a row. -/
theorem Admitted.branch_row (admitted : Admitted tables branches organization branch group) :
    branch ∈ branches.rows.map Branch.name := by
  have belongs := admitted.belongs
  rw [branchExists] at belongs
  split at belongs
  · cases belongs
  · next row found =>
    obtain ⟨inside, same⟩ := branches.find?_eq_some.mp found
    exact same ▸ List.mem_map_of_mem inside

/-- A preview of an admitted scope shows the subtree of the branch. -/
theorem previewAudience_ok (forests : Forests tables branches) {site : Site}
    (own : site.gateway = frappeSchedulingGateway tables branches)
    (author : site.authorScopeGuard branch = .ok ())
    (valid : validateAnnouncementScope (previewed organization branch group)
      (frappeSchedulingGateway tables branches) = .ok ()) :
    ∃ preview, previewAudience site organization branch group = .ok preview ∧
      ∀ name, name ∈ preview.branches ↔
        Reaches (Levels.Child (branchTree.childrenOf branches.rows)) branch name := by
  have admitted := admitted_of_valid valid
  obtain ⟨names, walked, _, all⟩ := subtree_childMap branchTree branches.keyed
    (forests.branches branch) admitted.branch_row
  refine ⟨⟨names⟩, ?_, all⟩
  have checked : validateAnnouncementScope (previewed organization branch group) site.gateway =
      .ok () := by
    rw [own]
    exact valid
  have resolved : resolveAudienceBranches branch site.gateway = .ok names := by
    rw [resolveAudienceBranches, if_neg admitted.anchored, computeBranchSubtree,
      if_neg admitted.anchored, own]
    exact walked
  rw [previewAudience]
  show (validateAnnouncementScope (previewed organization branch group) site.gateway >>= _) = _
  rw [checked]
  show (site.authorScopeGuard branch >>= _) = _
  rw [author]
  show (resolveAudienceBranches branch site.gateway >>= _) = _
  rw [resolved]
  rfl

/-- Along the branches, a push reaches the branches of its nodes. -/
theorem reachesBranch_branch (bound : RosterBound tables) {audience : ScopedAudience}
    (axis : audience.axis = .branch) (filled : audience.nodes ≠ []) (name : String) :
    ReachesBranch tables audience name ↔ name ∈ audience.nodes := by
  rw [ReachesBranch, axis]
  dsimp only
  constructor
  · intro either
    cases either with
    | inl node => exact node
    | inr led =>
      obtain ⟨group, stored, through, same⟩ := led
      cases through with
      | inl accountable =>
        obtain ⟨_, _, within, _⟩ := accountable
        obtain ⟨node, wanted, own⟩ := (Leadership.passes_iff filled).mp within
        rw [same] at own
        exact Option.some.inj own ▸ wanted
      | inr rostered =>
        obtain ⟨row, inside, called, _, _, within, _⟩ := rostered
        obtain ⟨other, kept, named, copied⟩ := bound row inside
        have twin := tables.groups.eq_of_key kept stored (named.trans called)
        obtain ⟨node, wanted, own⟩ := (Leadership.passes_iff filled).mp within
        rw [← copied, twin, same] at own
        exact Option.some.inj own ▸ wanted
  · exact .inl

/-- Along the groups, a push reaches the branches of the groups that are its nodes. -/
theorem reachesBranch_group {audience : ScopedAudience} (axis : audience.axis = .group)
    (filled : audience.nodes ≠ []) (name : String) :
    ReachesBranch tables audience name ↔
      ∃ group ∈ tables.groups.rows, group.name ∈ audience.nodes ∧ group.branch = some name := by
  rw [ReachesBranch, axis]
  dsimp only
  constructor
  · intro ⟨group, stored, either, same⟩
    refine ⟨group, stored, ?_, same⟩
    rcases either with node | ⟨_, _, _, through⟩ | ⟨row, _, called, _, _, _, through⟩
    · exact node
    · obtain ⟨node, wanted, own⟩ := (Leadership.passes_iff filled).mp through
      exact Option.some.inj own ▸ wanted
    · obtain ⟨node, wanted, own⟩ := (Leadership.passes_iff filled).mp through
      rw [← called]
      exact Option.some.inj own ▸ wanted
  · intro ⟨group, stored, node, same⟩
    exact ⟨group, stored, .inl node, same⟩

/-- Below a group of a branch, all groups are of that branch. -/
theorem branch_below (bound : GroupsBound tables) {anchor : Group}
    (stored : anchor ∈ tables.groups.rows) {name : String}
    (reached : Reaches (Levels.Child (groupTree.childrenOf tables.groups.rows)) anchor.name name) :
    ∃ row ∈ tables.groups.rows, row.name = name ∧ row.branch = anchor.branch := by
  induction reached with
  | refl => exact ⟨anchor, stored, rfl, rfl⟩
  | tail _ child ih =>
    obtain ⟨parent, above, called, same⟩ := ih
    obtain ⟨row, kept, named⟩ := List.mem_map.mp child
    obtain ⟨inside, link⟩ := List.mem_filter.mp kept
    have parented : truthy row.parentGroup = some parent.name := by
      rw [called]
      exact of_decide_eq_true link
    exact ⟨row, inside, named, (bound row inside parent above parented).trans same⟩

/-- Where groups keep the branch of their parent, they cover a branch that has no branch below it,
and no other. -/
theorem covers_iff_leaf (forests : Forests tables branches) (bound : GroupsBound tables)
    {anchor : String} (own : (tables.groups.find? anchor).bind Group.branch = some branch) :
    Covers tables branches branch anchor ↔
      ∀ child, ¬ Levels.Child (branchTree.childrenOf branches.rows) branch child := by
  obtain ⟨top, found, same⟩ := Option.bind_eq_some_iff.mp own
  obtain ⟨stored, named⟩ := tables.groups.find?_eq_some.mp found
  have single (name : String) : (∃ row ∈ tables.groups.rows,
      Reaches (Levels.Child (groupTree.childrenOf tables.groups.rows)) anchor row.name ∧
        row.branch = some name) ↔ name = branch := by
    constructor
    · intro ⟨row, inside, reached, its⟩
      rw [← named] at reached
      obtain ⟨twin, kept, called, inherited⟩ := branch_below bound stored reached
      rw [tables.groups.eq_of_key kept inside called, its, same] at inherited
      exact Option.some.inj inherited
    · intro equal
      rw [equal]
      exact ⟨top, stored, named ▸ .refl, same⟩
  constructor
  · intro covers child link
    have back := (single child).mp ((covers child).mp (.single link))
    rw [back] at link
    exact forests.branches branch (.single link)
  · intro leaf name
    rw [single name]
    constructor
    · intro reached
      cases reached.cases_head with
      | inl here => exact here.symm
      | inr step =>
        obtain ⟨child, link, _⟩ := step
        exact absurd link (leaf child)
    · intro equal
      exact equal ▸ .refl

/-- A preview of a valid scope shows the branches that the fan-out reaches exactly when the groups
below the group anchor, if there is one, are of the very branches below the branch; where groups
keep the branch of their parent, exactly when there is no group anchor or no branch below the
branch. A publish reports no branches: it always raises. -/
theorem preview_shows_iff (forests : Forests tables branches) (bound : RosterBound tables)
    {site : Site} (own : site.gateway = frappeSchedulingGateway tables branches)
    (author : site.authorScopeGuard branch = .ok ())
    (valid : validateAnnouncementScope (previewed organization branch group)
      (frappeSchedulingGateway tables branches) = .ok ()) :
    ∃ preview audience, previewAudience site organization branch group = .ok preview ∧
      resolveScopedAudience ⟨organization, some branch, group⟩
        (frappeNotificationFanoutGateway tables branches) = .ok audience ∧
      (Shows tables preview audience ↔
        ∀ anchor, truthy group = some anchor → Covers tables branches branch anchor) ∧
      (GroupsBound tables → (Shows tables preview audience ↔ truthy group = none ∨
        ∀ child, ¬ Levels.Child (branchTree.childrenOf branches.rows) branch child)) ∧
      ∀ board, ∃ raised, publishAnnouncement site board = .error raised board := by
  have admitted := admitted_of_valid valid
  obtain ⟨preview, previewing, shown⟩ := previewAudience_ok forests own author valid
  cases anchored : truthy group with
  | none =>
    have free : truthy (NotificationScope.mk organization (some branch) group).group = none :=
      anchored
    obtain ⟨audience, resolved, axis, whole⟩ :=
      audienceOf_branch forests bound free admitted.validScope
    have below (name : String) : name ∈ audience.nodes ↔
        Reaches (Levels.Child (branchTree.childrenOf branches.rows)) branch name := by
      rw [whole.nodes name, Below, anchored]
      rfl
    have filled : audience.nodes ≠ [] := List.ne_nil_of_mem ((below branch).mpr .refl)
    have shows : Shows tables preview audience := fun name => by
      rw [shown name, reachesBranch_branch bound axis filled name, below name]
    exact ⟨preview, audience, previewing, resolved, iff_of_true shows (by rintro _ ⟨⟩),
      fun _ => iff_of_true shows (.inl rfl), publish_raises site⟩
  | some anchor =>
    have tied : truthy (NotificationScope.mk organization (some branch) group).group =
        some anchor := anchored
    obtain ⟨audience, resolved, axis, whole⟩ := audienceOf_group forests tied admitted.validScope
    have below (name : String) : name ∈ audience.nodes ↔
        Reaches (Levels.Child (groupTree.childrenOf tables.groups.rows)) anchor name := by
      rw [whole.nodes name, Below, anchored]
    have filled : audience.nodes ≠ [] := List.ne_nil_of_mem ((below anchor).mpr .refl)
    have shows : Shows tables preview audience ↔ Covers tables branches branch anchor := by
      apply forall_congr'
      intro name
      rw [shown name, reachesBranch_group axis filled name]
      simp only [below]
    refine ⟨preview, audience, previewing, resolved, shows.trans ?_, fun kept => shows.trans ?_,
      publish_raises site⟩
    · constructor
      · intro covers other same
        exact Option.some.inj same ▸ covers
      · exact fun all => all anchor rfl
    · rw [covers_iff_leaf forests kept (admitted.bound anchor anchored)]
      exact (or_iff_right (by rintro ⟨⟩)).symm

end Previews

/-- The preview for the choir of the lower branch shows what the fan-out reaches. -/
theorem preview_shows_choir :
    ∃ preview audience,
      previewAudience picnicSite "Flock" "Hill" (some "Hill-Choir") = .ok preview ∧
        resolveScopedAudience ⟨"Flock", some "Hill", some "Hill-Choir"⟩
          (frappeNotificationFanoutGateway hillTables districts) = .ok audience ∧
        Shows hillTables preview audience := by
  have bound : RosterBound hillTables := by
    intro row inside
    rw [List.mem_singleton.mp inside]
    exact ⟨hillChoir, List.mem_singleton.mpr rfl, rfl, rfl⟩
  have kept : GroupsBound hillTables := by
    intro group inside parent _ parented
    rw [List.mem_singleton.mp inside] at parented
    cases parented
  have leaf : ∀ child, ¬ Levels.Child (branchTree.childrenOf districts.rows) "Hill" child := by
    intro child link
    have none : branchTree.childrenOf districts.rows "Hill" = [] := by decide
    rw [Levels.Child, none] at link
    cases link
  have author : picnicSite.authorScopeGuard "Hill" = .ok () := rfl
  have valid : validateAnnouncementScope (previewed "Flock" "Hill" (some "Hill-Choir"))
      (frappeSchedulingGateway hillTables districts) = .ok () := rfl
  have ⟨preview, audience, previewing, resolved, _, exact_, _⟩ :=
    preview_shows_iff hillTables_forests bound rfl author valid
  exact ⟨preview, audience, previewing, resolved, (exact_ kept).mpr (.inr leaf)⟩

/-- The choir of the upper branch has a name. -/
theorem upperChoir_named : "North-Choir" ≠ "" := by decide

/-- A choir of the upper branch. -/
def upperChoir : Group := { hillChoir with
  name := "North-Choir"
  branch := some "North"
  named := upperChoir_named }

/-- The choir of the upper branch alone. -/
def upperTables : Tables where
  groups := ⟨[upperChoir], by decide⟩
  getRoles := fun _ => []

/-- The preview for the choir of the upper branch shows the lower branch too, which the fan-out does
not reach. -/
theorem preview_misleads :
    ∃ preview audience,
      previewAudience { picnicSite with gateway := frappeSchedulingGateway upperTables districts }
        "Flock" "North" (some "North-Choir") = .ok preview ∧
      resolveScopedAudience ⟨"Flock", some "North", some "North-Choir"⟩
        (frappeNotificationFanoutGateway upperTables districts) = .ok audience ∧
      "Hill" ∈ preview.branches ∧ ¬ Shows upperTables preview audience := by
  refine ⟨⟨["North", "Hill"]⟩, ⟨.group, ["North-Choir"], ["MEM-00001"]⟩, rfl, rfl, by decide, ?_⟩
  intro shows
  have ⟨group, stored, _, same⟩ := (shows "Hill").mp (by decide)
  rw [List.mem_singleton.mp stored] at same
  exact absurd same (by decide)

end FlockOs.Scheduling
