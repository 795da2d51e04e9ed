import FlockOs.Directory

/-!
# The query hook against the row guard

For a user without a bypass role the hook and the guard read one policy: a row is seen when
its group is covered or its member is the user's own. The hook lets every row without a
group through, and every row at all when the user has no member; the guard does so only for
a row without a member. These are the only rows on which the two differ.
-/

namespace FlockOs.Directory

open Lib Permissions

/-- A value of a column of text passes the truth test when it is not empty. -/
theorem truthy_of_nonempty {text : Option String} (nonempty : text ≠ some "") :
    truthy text = text := by
  cases text with
  | none => rfl
  | some text => exact truthy_some fun empty => nonempty (congrArg some empty)

/-- A linked member has a name. -/
theorem resolved_nonempty {tables : Tables} {user member : String}
    (linked : tables.resolveMemberForUser user = some member) : member ≠ "" := by
  rw [Tables.resolveMemberForUser] at linked
  split at linked
  · cases linked
  · obtain ⟨row, _, rfl⟩ := Option.map_eq_some_iff.mp linked
    exact row.named

/-- A member has joined the groups on whose roster it is. -/
theorem mem_fetchJoinedGroupNames {tables : Tables} {member group : String}
    (named : member ≠ "") :
    group ∈ tables.fetchJoinedGroupNames member ↔
      ∃ row ∈ tables.roster, row.member = member ∧ row.group = group := by
  rw [Tables.fetchJoinedGroupNames, if_neg named]
  constructor
  · intro joined
    obtain ⟨row, kept, rfl⟩ := List.mem_map.mp (mem_of_mem_firstPerKey joined)
    obtain ⟨inside, own⟩ := List.mem_filter.mp kept
    exact ⟨row, inside, of_decide_eq_true own, rfl⟩
  · rintro ⟨row, inside, own, rfl⟩
    have kept : row ∈ tables.roster.filter fun row => row.member = member :=
      List.mem_filter.mpr ⟨inside, decide_eq_true own⟩
    obtain ⟨first, member, same⟩ := exists_mem_firstPerKey (id : String → String)
      (List.mem_map_of_mem kept)
    rw [← show first = row.group from same]
    exact member

/-- No joined group is the empty name. -/
theorem joined_nonempty {tables : Tables} {member : String} (named : member ≠ "") :
    "" ∉ tables.fetchJoinedGroupNames member := by
  intro joined
  obtain ⟨row, _, _, empty⟩ := (mem_fetchJoinedGroupNames named).mp joined
  exact row.grouped empty

/-- The bounds of a name are those of the group with that name. -/
theorem fetchGroupBounds_eq_some {tables : Tables} {name : String} {bounds : GroupBounds} :
    tables.fetchGroupBounds name = some bounds ↔
      ∃ group ∈ tables.groups.rows, group.name = name ∧
        bounds = ⟨name, group.lft, group.rgt⟩ := by
  rw [Tables.fetchGroupBounds]
  constructor
  · intro found
    split at found
    · cases found
    · obtain ⟨group, stored, same⟩ := Option.map_eq_some_iff.mp found
      have inside := (tables.groups.find?_eq_some).mp stored
      exact ⟨group, inside.1, inside.2, same.symm⟩
  · rintro ⟨group, inside, rfl, rfl⟩
    rw [if_neg group.named, (tables.groups.find?_eq_some).mpr ⟨inside, rfl⟩]
    rfl

/-- The scope of a user with a member and without a bypass role. -/
def linkedScope (tables : Tables) (member : String) : LeaderScope where
  member := some member
  ledBounds := tables.fetchLedGroupBounds member
  joinedGroups := tables.fetchJoinedGroupNames member

section User

variable {tables : Tables} {user : String}

/-- The scope that a user with a member resolves to. -/
theorem resolve_linked {member : String} (narrowed : isBypassUser (tables.getRoles user) = false)
    (linked : tables.resolveMemberForUser user = some member) :
    resolveLeaderScope (frappePermissionGateway tables) user (tables.getRoles user) =
      linkedScope tables member := by
  have found : (frappePermissionGateway tables).resolveMemberForUser user = some member := linked
  rw [resolveLeaderScope, narrowed, if_neg Bool.false_ne_true, found]
  rfl

/-- The scope that a user without a member resolves to. -/
theorem resolve_unlinked (narrowed : isBypassUser (tables.getRoles user) = false)
    (unlinked : tables.resolveMemberForUser user = none) :
    resolveLeaderScope (frappePermissionGateway tables) user (tables.getRoles user) =
      ⟨none, [], []⟩ := by
  have found : (frappePermissionGateway tables).resolveMemberForUser user = none := unlinked
  rw [resolveLeaderScope, narrowed, if_neg Bool.false_ne_true, found]

end User

/-- The scope of a linked user is never the empty one. -/
theorem linkedScope_scoped {tables : Tables} {member : String} (named : member ≠ "") :
    (linkedScope tables member).unscoped = false := by
  have truth : truthy (some member) = some member := truthy_some named
  rw [LeaderScope.unscoped, linkedScope, truth]
  rfl

section Clauses

variable {tables : Tables} {row : Row}

/-- The subtree clause asks what the guard asks of the bounds of the column's group. -/
theorem satisfies_inSubtree {column : String} {scope : LeaderScope} :
    tables.satisfies row (.inSubtree column scope.ledBounds) = true ↔
      ∃ name bounds, row.value column = some name ∧
        tables.fetchGroupBounds name = some bounds ∧ scope.leads bounds = true := by
  rw [Tables.satisfies]
  constructor
  · intro holds
    split at holds
    · cases holds
    · rename_i name given
      obtain ⟨group, inside, both⟩ := List.any_eq_true.mp holds
      obtain ⟨same, led⟩ := Bool.and_eq_true_iff.mp both
      exact ⟨name, ⟨name, group.lft, group.rgt⟩, given,
        fetchGroupBounds_eq_some.mpr ⟨group, inside, of_decide_eq_true same, rfl⟩, led⟩
  · rintro ⟨name, bounds, given, fetched, led⟩
    obtain ⟨group, inside, same, rfl⟩ := fetchGroupBounds_eq_some.mp fetched
    rw [given]
    exact List.any_eq_true.mpr
      ⟨group, inside, Bool.and_eq_true_iff.mpr ⟨decide_eq_true same, led⟩⟩

/-- The clause on the joined groups, left out when there are none. -/
theorem satisfies_joinedClause {column : String} {scope : LeaderScope} :
    (joinedClause column scope).any (tables.satisfies row) = true ↔
      ∃ name, row.value column = some name ∧ name ∈ scope.joinedGroups := by
  rw [joinedClause]
  split
  · rename_i empty
    rw [List.isEmpty_iff.mp empty]
    simp
  · rw [List.any_cons, List.any_nil, Bool.or_false, Tables.satisfies]
    cases given : row.value column <;> simp

/-- The clause on the member column, left out for a DocType without one. -/
theorem satisfies_memberClause {doctype : String} {scope : LeaderScope} :
    (memberClause doctype scope).any (tables.satisfies row) = true ↔
      ∃ own, truthy scope.member = some own ∧ row.docMember doctype = some own := by
  rw [memberClause, Row.docMember]
  cases truthy scope.member with
  | none => simp
  | some own => cases memberAnchoredDoctypes.lookup doctype <;> simp [Tables.satisfies]

end Clauses

/-- A row whose group is covered: led, or joined. -/
theorem covers_iff {tables : Tables} {scope : LeaderScope} {docGroup : Option String}
    (joined : "" ∉ scope.joinedGroups) :
    scope.covers (frappePermissionGateway tables) docGroup = true ↔
      (∃ name bounds, docGroup = some name ∧ tables.fetchGroupBounds name = some bounds ∧
        scope.leads bounds = true) ∨
      ∃ name, docGroup = some name ∧ name ∈ scope.joinedGroups := by
  rw [LeaderScope.covers]
  by_cases empty : docGroup = some ""
  · have noBounds : tables.fetchGroupBounds "" = none := if_pos rfl
    simp [empty, noBounds, joined]
  · rw [truthy_of_nonempty empty]
    cases docGroup with
    | none => simp
    | some name =>
      have read : (frappePermissionGateway tables).fetchGroupBounds name =
          tables.fetchGroupBounds name := rfl
      simp only [read]
      cases fetched : tables.fetchGroupBounds name <;> simp [fetched]

/-- A row about the user's own member. -/
theorem owns_iff {scope : LeaderScope} {docMember : Option String} :
    scope.owns docMember = true ↔ ∃ own, truthy scope.member = some own ∧ docMember = some own := by
  rw [LeaderScope.owns]
  cases truth : truthy scope.member with
  | none => simp
  | some own =>
    have nonempty := truthy_nonempty truth
    by_cases empty : docMember = some ""
    · simp [empty, nonempty]
    · rw [truthy_of_nonempty empty]
      cases docMember with
      | none => simp
      | some member => simp

/-- What the fragment of a linked user selects: rows without a group, and the policy. -/
theorem selects_linked {tables : Tables} {member doctype : String} {row : Row}
    (named : member ≠ "") :
    tables.selects (buildGroupScopeSql doctype (linkedScope tables member)) row = true ↔
      row.docGroup doctype = none ∨
        (linkedScope tables member).owns (row.docMember doctype) = true ∨
        (linkedScope tables member).covers (frappePermissionGateway tables)
          (row.docGroup doctype) = true := by
  have joined : "" ∉ (linkedScope tables member).joinedGroups := joined_nonempty named
  rw [covers_iff joined, owns_iff, buildGroupScopeSql, linkedScope_scoped named,
    if_neg Bool.false_ne_true, Row.docGroup]
  by_cases self : doctype = groupDoctype
  · have ownName : row.value "name" = some row.name := if_pos rfl
    have noMember : row.docMember doctype = none := by
      rw [self]
      rfl
    rw [if_pos self, if_pos self, Tables.selects, List.any_cons, Bool.or_eq_true,
      satisfies_inSubtree, satisfies_joinedClause, noMember, ownName]
    simp
  · rw [if_neg self, if_neg self, Tables.selects, List.any_cons, List.any_cons, List.any_append,
      Bool.or_eq_true, Bool.or_eq_true, Bool.or_eq_true, satisfies_inSubtree,
      satisfies_joinedClause, satisfies_memberClause, Tables.satisfies, Option.isNone_iff_eq_none]
    exact or_congr_right or_left_comm

/-- What the guard passes, in the terms of the scope. -/
theorem guard_passes_iff {tables : Tables} {user : String} {docGroup docMember : Option String}
    (narrowed : isBypassUser (tables.getRoles user) = false) :
    assertGroupScope docGroup docMember user (frappePermissionGateway tables) = .ok () ↔
      (docGroup = none ∧ docMember = none) ∨
        (resolveLeaderScope (frappePermissionGateway tables) user (tables.getRoles user)).owns
          docMember = true ∨
        (resolveLeaderScope (frappePermissionGateway tables) user (tables.getRoles user)).covers
          (frappePermissionGateway tables) docGroup = true := by
  have roles : (frappePermissionGateway tables).getUserRoles user = tables.getRoles user := rfl
  rw [assertGroupScope, roles, narrowed, if_neg Bool.false_ne_true]
  split
  · rename_i bare
    have both := Bool.and_eq_true_iff.mp bare
    simp [Option.isNone_iff_eq_none.mp both.1, Option.isNone_iff_eq_none.mp both.2]
  · rename_i anchored
    have notBare : ¬ (docGroup = none ∧ docMember = none) := by
      rintro ⟨rfl, rfl⟩
      exact anchored rfl
    split
    · simp_all
    · split <;> simp_all

section Hook

variable {tables : Tables} {session doctype : String} {user : Option String}

/-- The fragment for a user whom the group axis narrows, on a scoped DocType. -/
theorem hook_narrowed (listed : doctype ∈ scopedDoctypes)
    (narrowed : isBypassUser (tables.getRoles ((truthy user).getD session)) = false) :
    getGroupScopedConditions (frappePermissionGateway tables) session user (some doctype) =
      buildGroupScopeSql doctype
        (resolveLeaderScope (frappePermissionGateway tables) ((truthy user).getD session)
          (tables.getRoles ((truthy user).getD session))) := by
  have roles : (frappePermissionGateway tables).getUserRoles ((truthy user).getD session) =
      tables.getRoles ((truthy user).getD session) := rfl
  have contained : scopedDoctypes.contains doctype = true := List.contains_iff_mem.mpr listed
  rw [getGroupScopedConditions, contained, if_neg (not_not_intro rfl), roles, narrowed,
    if_neg Bool.false_ne_true]

/-- The rows that the hook and the guard see alike: for a user without a member those without
a group and a member, for a user with one those with a group, without a member, or its own. -/
def SeenAlike (tables : Tables) (who doctype : String) (row : Row) : Prop :=
  match tables.resolveMemberForUser who with
  | none => row.docGroup doctype = none ∧ row.docMember doctype = none
  | some own =>
    row.docGroup doctype = none →
      row.docMember doctype = none ∨ row.docMember doctype = some own

/-- The guard passes only rows that the hook selects, and the two agree on a row exactly when
it is seen alike. -/
theorem hook_and_guard_agree_iff (tables : Tables) (session : String) (user : Option String)
    (doctype : String) (listed : doctype ∈ scopedDoctypes) (row : Row)
    (narrowed : isBypassUser (tables.getRoles ((truthy user).getD session)) = false) :
    (assertGroupScope (row.docGroup doctype) (row.docMember doctype) ((truthy user).getD session)
        (frappePermissionGateway tables) = .ok () →
      tables.selects (getGroupScopedConditions (frappePermissionGateway tables) session user
        (some doctype)) row = true) ∧
    ((tables.selects (getGroupScopedConditions (frappePermissionGateway tables) session user
        (some doctype)) row = true ↔
      assertGroupScope (row.docGroup doctype) (row.docMember doctype) ((truthy user).getD session)
        (frappePermissionGateway tables) = .ok ()) ↔
      SeenAlike tables ((truthy user).getD session) doctype row) := by
  rw [hook_narrowed listed narrowed, guard_passes_iff narrowed, SeenAlike]
  cases linked : tables.resolveMemberForUser ((truthy user).getD session) with
  | none =>
    rw [resolve_unlinked narrowed linked]
    have all : tables.selects (buildGroupScopeSql doctype ⟨none, [], []⟩) row = true := rfl
    have notOwn : LeaderScope.owns ⟨none, [], []⟩ (row.docMember doctype) = false := rfl
    have notCovered : LeaderScope.covers ⟨none, [], []⟩ (frappePermissionGateway tables)
        (row.docGroup doctype) = false := by
      rw [← Bool.not_eq_true, covers_iff List.not_mem_nil]
      simp [LeaderScope.leads]
    simp [all, notOwn, notCovered]
  | some own =>
    have named := resolved_nonempty linked
    rw [resolve_linked narrowed linked, selects_linked named]
    have truth : truthy (linkedScope tables own).member = some own := truthy_some named
    have ownsIff : (linkedScope tables own).owns (row.docMember doctype) = true ↔
        row.docMember doctype = some own := by
      rw [owns_iff, truth]
      simp
    rw [ownsIff]
    by_cases absent : row.docGroup doctype = none
    · have uncovered : (linkedScope tables own).covers (frappePermissionGateway tables) none =
          false := rfl
      simp [absent, uncovered]
    · simp [absent]

end Hook

/-- The youth group has a name. -/
theorem youth_named : "North-Youth" ≠ "" := by decide

/-- Ann has a name. -/
theorem ann_named : "MEM-00001" ≠ "" := by decide

/-- Bob has a name. -/
theorem bob_named : "MEM-00002" ≠ "" := by decide

/-- The youth group, led by Ann. -/
def youth : Group where
  name := "North-Youth"
  branch := some "North"
  leader := some "MEM-00001"
  lft := 1
  rgt := 2
  named := youth_named

/-- The choir, led by Bob. -/
def choir : Group where
  name := "North-Choir"
  branch := some "North"
  leader := some "MEM-00002"
  lft := 3
  rgt := 4
  named := by decide

/-- Two leaders without a bypass role, each with one group. -/
def northTables : Tables where
  groups := ⟨[youth, choir], by decide⟩
  members := ⟨[⟨"MEM-00001", some "ann@example.org", ann_named⟩,
    ⟨"MEM-00002", some "bob@example.org", bob_named⟩], by decide⟩
  getRoles := fun _ => [roleGroupLeader]

/-- An attendance row about Ann, without a group. -/
def annsRow : Row where
  name := "1"
  column := fun column => if column = "member" then some "MEM-00001" else none

/-- Ann's own row is seen alike by the hook and the guard. -/
theorem ann_sees_her_row :
    (assertGroupScope (annsRow.docGroup "Flock Attendance Record")
        (annsRow.docMember "Flock Attendance Record") "ann@example.org"
        (frappePermissionGateway northTables) = .ok () →
      northTables.selects (getGroupScopedConditions (frappePermissionGateway northTables) ""
        (some "ann@example.org") (some "Flock Attendance Record")) annsRow = true) ∧
    ((northTables.selects (getGroupScopedConditions (frappePermissionGateway northTables) ""
        (some "ann@example.org") (some "Flock Attendance Record")) annsRow = true ↔
      assertGroupScope (annsRow.docGroup "Flock Attendance Record")
        (annsRow.docMember "Flock Attendance Record") "ann@example.org"
        (frappePermissionGateway northTables) = .ok ()) ↔
      SeenAlike northTables "ann@example.org" "Flock Attendance Record" annsRow) :=
  hook_and_guard_agree_iff northTables "" (some "ann@example.org") "Flock Attendance Record"
    (by decide) annsRow (by decide)

/-- Ann's row is on Bob's list, and the guard refuses it to him. -/
theorem bob_lists_what_the_guard_refuses :
    isBypassUser (northTables.getRoles "bob@example.org") = false ∧
      "Flock Attendance Record" ∈ scopedDoctypes ∧
      northTables.selects (getGroupScopedConditions (frappePermissionGateway northTables) ""
        (some "bob@example.org") (some "Flock Attendance Record")) annsRow = true ∧
      assertGroupScope (annsRow.docGroup "Flock Attendance Record")
        (annsRow.docMember "Flock Attendance Record") "bob@example.org"
        (frappePermissionGateway northTables) ≠ .ok () := by
  decide

end FlockOs.Directory
