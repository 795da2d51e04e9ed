import FlockOs.NotificationFanout
import FlockOs.Verif.Leadership
import FlockOs.Verif.Subtrees

/-!
# What a push reaches

A push that its scope admits goes to the anchor and to what lies below it, once each, and names the
leaders there. The rooms are those of the nodes whatever publishes fail, and the push is recorded by
one event.
-/

namespace FlockOs.Notifications

open Lib Directory Leadership Realtime Trees

section ChildMaps

variable {Row : Type} {tree : TreeDoctype Row} {rows : List Row}

/-- A node has a row exactly when its name is one of the rows. -/
theorem rowByName_isSome (keyed : (rows.map tree.name).Nodup) {node : String} :
    (tree.rowByName rows node).isSome = true ↔ node ∈ rows.map tree.name := by
  constructor
  · intro there
    obtain ⟨row, found⟩ := Option.isSome_iff_exists.mp there
    obtain ⟨inside, same⟩ := of_rowByName found
    exact same ▸ List.mem_map_of_mem inside
  · intro there
    obtain ⟨row, inside, same⟩ := List.mem_map.mp there
    rw [← same, rowByName_name keyed inside]
    rfl

/-- A child of the map is a child of a node with a row. -/
theorem child_childMap (keyed : (rows.map tree.name).Nodup) {upper lower : String} :
    Levels.Child (childMap tree rows).childrenOf upper lower ↔
      upper ∈ rows.map tree.name ∧ Levels.Child (tree.childrenOf rows) upper lower := by
  show lower ∈ (if (tree.rowByName rows upper).isSome then tree.childrenOf rows upper else []) ↔ _
  split
  · next there => exact (and_iff_right ((rowByName_isSome keyed).mp there)).symm
  · next absent =>
    constructor
    · intro none
      cases none
    · intro ⟨there, _⟩
      exact absurd ((rowByName_isSome keyed).mpr there) absent

/-- From a node with a row, the map reaches what the rows reach. -/
theorem reaches_childMap (keyed : (rows.map tree.name).Nodup) {node name : String}
    (there : node ∈ rows.map tree.name) :
    Reaches (Levels.Child (childMap tree rows).childrenOf) node name ↔
      Reaches (Levels.Child (tree.childrenOf rows)) node name := by
  constructor
  · intro reached
    induction reached with
    | refl => exact .refl
    | tail _ child ih => exact ih.tail ((child_childMap keyed).mp child).2
  · intro reached
    have both : Reaches (Levels.Child (childMap tree rows).childrenOf) node name ∧
        name ∈ rows.map tree.name := by
      induction reached with
      | refl => exact ⟨.refl, there⟩
      | tail _ child ih =>
        exact ⟨ih.1.tail ((child_childMap keyed).mpr ⟨ih.2, child⟩), child_listed _ _ child⟩
    exact both.1

/-- Rows with different names make a map in which no node is a child twice. -/
theorem arboreal_childMap (keyed : (rows.map tree.name).Nodup) :
    Levels.Arboreal (childMap tree rows).childrenOf := by
  have whole : Levels.Arboreal (tree.childrenOf rows) := arboreal keyed
  constructor
  · intro upper
    show (if (tree.rowByName rows upper).isSome then tree.childrenOf rows upper else []).Nodup
    split
    · exact whole.nodup upper
    · exact List.nodup_nil
  · intro upper other lower first second
    exact whole.single upper other lower ((child_childMap keyed).mp first).2
      ((child_childMap keyed).mp second).2

variable (tree) in
/-- The subtree over the map of a tree without cycles is the node and what lies below it, each
once. -/
theorem subtree_childMap (keyed : (rows.map tree.name).Nodup) {node : String}
    (rooted : Rooted (Levels.Child (tree.childrenOf rows)) node)
    (there : node ∈ rows.map tree.name) :
    ∃ names, (childMap tree rows).subtree node = .ok names ∧ names.Nodup ∧
      ∀ name, name ∈ names ↔ Reaches (Levels.Child (tree.childrenOf rows)) node name := by
  have listed (upper lower : String)
      (child : Levels.Child (childMap tree rows).childrenOf upper lower) :
      lower ∈ rows.map tree.name := child_listed upper lower ((child_childMap keyed).mp child).2
  have apart : Rooted (Levels.Child (childMap tree rows).childrenOf) node := fun cycle =>
    rooted (Relation.TransGen.mono (fun _ _ child => ((child_childMap keyed).mp child).2) _ _ cycle)
  obtain ⟨reached, ends, nodup, all⟩ := Levels.walk_children (arboreal_childMap keyed) listed
    (Nat.le_of_lt names_lt_turns) apart
  refine ⟨node :: reached, ?_, nodup, fun name => (all name).trans (reaches_childMap keyed there)⟩
  rw [ChildMap.subtree, subtreeOf, descendantsOf]
  have walked : Levels.walk (childMap tree rows).childrenOf node ((childMap tree rows).size + 1) []
      ((childMap tree rows).childrenOf node) = .ok reached := ends
  rw [walked]
  rfl

end ChildMaps

/-- Neither tree has a cycle. -/
structure Forests (tables : Tables) (branches : Table Branch Branch.name) : Prop where
  /-- The groups. -/
  groups : ∀ node, Rooted (Levels.Child (groupTree.childrenOf tables.groups.rows)) node
  /-- The branches. -/
  branches : ∀ node, Rooted (Levels.Child (branchTree.childrenOf branches.rows)) node

/-- Every row of a roster has the branch of its group. -/
def RosterBound (tables : Tables) : Prop :=
  ∀ row ∈ tables.roster, ∃ group ∈ tables.groups.rows,
    group.name = row.group ∧ group.branch = row.branch

/-- A node is the anchor of a scope or lies below it. -/
def Below (tables : Tables) (branches : Table Branch Branch.name) (scope : NotificationScope)
    (node : String) : Prop :=
  match truthy scope.group with
  | some group => Reaches (Levels.Child (groupTree.childrenOf tables.groups.rows)) group node
  | none =>
    Reaches (Levels.Child (branchTree.childrenOf branches.rows)) (scope.branch.getD "") node

/-- The leaders of a group are among those whom a scope is for. -/
def Targeted (tables : Tables) (branches : Table Branch Branch.name) (scope : NotificationScope)
    (group : Group) : Prop :=
  match truthy scope.group with
  | some _ => Below tables branches scope group.name
  | none => ∃ branch, group.branch = some branch ∧ Below tables branches scope branch

/-- The audience is the subtree of the anchor with its leaders, each once. -/
structure AudienceOf (tables : Tables) (branches : Table Branch Branch.name)
    (scope : NotificationScope) (audience : ScopedAudience) : Prop where
  /-- No node twice. -/
  nodup : audience.nodes.Nodup
  /-- The nodes. -/
  nodes : ∀ node, node ∈ audience.nodes ↔ Below tables branches scope node
  /-- No leader twice. -/
  once : audience.leaders.Nodup
  /-- The leaders. -/
  leaders : ∀ member, member ∈ audience.leaders ↔ member ≠ "" ∧
    ∃ group ∈ tables.groups.rows, Targeted tables branches scope group ∧
      ActiveLeaderOf tables member group.name

section Audiences

variable {tables : Tables} {branches : Table Branch Branch.name} {scope : NotificationScope}

/-- No leader is listed twice. -/
theorem leaders_nodup (tables : Tables) (filtersBranch filtersGroup : List String) :
    (leaders tables filtersBranch filtersGroup).Nodup := by
  have distinct := nodup_firstPerKey (id : String → String)
    (accountableLeaders tables filtersBranch filtersGroup ++
      activeRosterLeaders tables filtersBranch filtersGroup)
  rw [List.map_id] at distinct
  exact distinct

/-- A group whose anchor a scope admits has a row. -/
theorem group_of_valid {group : String} (anchored : truthy scope.group = some group)
    (valid : validateScope scope (frappeNotificationFanoutGateway tables branches) = .ok ()) :
    group ∈ tables.groups.rows.map Group.name := by
  rw [validateScope, anchored] at valid
  split at valid
  · cases valid
  · dsimp only at valid
    rw [validateGroupAnchor] at valid
    split at valid
    · cases valid
    · next there =>
      obtain ⟨row, found⟩ := Option.isSome_iff_exists.mp (not_not.mp there)
      obtain ⟨inside, same⟩ := tables.groups.find?_eq_some.mp found
      exact same ▸ List.mem_map_of_mem inside

/-- A branch whose anchor a scope admits has a row. -/
theorem branch_of_valid (unanchored : truthy scope.group = none)
    (valid : validateScope scope (frappeNotificationFanoutGateway tables branches) = .ok ()) :
    ∃ branch, truthy scope.branch = some branch ∧ branch ∈ branches.rows.map Branch.name := by
  rw [validateScope, unanchored] at valid
  split at valid
  · cases valid
  · cases named : truthy scope.branch with
    | none =>
      rw [named] at valid
      cases valid
    | some branch =>
      rw [named] at valid
      dsimp only at valid
      split at valid
      · cases valid
      · next there =>
        have admitted : branchExists branches branch scope.organization = true := not_not.mp there
        rw [branchExists] at admitted
        split at admitted
        · cases admitted
        · next row found =>
          obtain ⟨inside, same⟩ := branches.find?_eq_some.mp found
          exact ⟨branch, rfl, same ▸ List.mem_map_of_mem inside⟩

/-- The audience of a group anchor is its subtree with the leaders there. -/
theorem audienceOf_group (forests : Forests tables branches) {group : String}
    (anchored : truthy scope.group = some group)
    (valid : validateScope scope (frappeNotificationFanoutGateway tables branches) = .ok ()) :
    ∃ audience,
      resolveScopedAudience scope (frappeNotificationFanoutGateway tables branches) =
        .ok audience ∧ audience.axis = .group ∧ AudienceOf tables branches scope audience := by
  have there := group_of_valid anchored valid
  obtain ⟨names, walked, nodup, all⟩ :=
    subtree_childMap groupTree tables.groups.keyed (forests.groups group) there
  have below (node : String) : node ∈ names ↔ Below tables branches scope node := by
    rw [all node, Below, anchored]
  have filled : names ≠ [] := List.ne_nil_of_mem ((all group).mpr .refl)
  refine ⟨⟨.group, names, leadersInGroups tables names⟩, ?_, rfl, nodup, below,
    leaders_nodup tables [] names, fun member => ?_⟩
  · rw [resolveScopedAudience, valid, anchored]
    show ((childMap groupTree tables.groups.rows).subtree group >>= _) = _
    rw [walked]
    rfl
  · dsimp only
    rw [mem_leadersInGroups_iff filled]
    apply and_congr_right
    intro _
    constructor
    · intro ⟨name, inside, leads⟩
      have row : name ∈ tables.groups.rows.map Group.name := by
        cases ((all name).mp inside).cases_tail with
        | inl same => exact same ▸ there
        | inr step =>
          obtain ⟨upper, _, child⟩ := step
          exact child_listed upper name child
      obtain ⟨stored, member, same⟩ := List.mem_map.mp row
      refine ⟨stored, member, ?_, same ▸ leads⟩
      rw [Targeted, anchored]
      exact (below stored.name).mp (same ▸ inside)
    · intro ⟨stored, member, targeted, leads⟩
      rw [Targeted, anchored] at targeted
      exact ⟨stored.name, (below stored.name).mpr targeted, leads⟩

/-- The leaders in branches are those of the groups there, when every row of a roster has the branch
of its group. -/
theorem mem_leadersInBranches_iff (bound : RosterBound tables) {names : List String}
    (filled : names ≠ []) {member : String} :
    member ∈ leadersInBranches tables names ↔ member ≠ "" ∧ ∃ group ∈ tables.groups.rows,
      (∃ branch, group.branch = some branch ∧ branch ∈ names) ∧
        ActiveLeaderOf tables member group.name := by
  rw [leadersInBranches, mem_leaders_iff fun both => filled both.1]
  apply and_congr_right
  intro _
  constructor
  · intro either
    cases either with
    | inl accountable =>
      obtain ⟨row, inside, within, _, leads⟩ := accountable
      obtain ⟨node, wanted, same⟩ := (passes_iff filled).mp within
      exact ⟨row, inside, ⟨node, same, wanted⟩, .inl ⟨row, inside, rfl, leads⟩⟩
    | inr rostered =>
      obtain ⟨row, inside, within, _, same, role, active⟩ := rostered
      obtain ⟨node, wanted, own⟩ := (passes_iff filled).mp within
      obtain ⟨group, stored, called, copied⟩ := bound row inside
      exact ⟨group, stored, ⟨node, copied.trans own, wanted⟩,
        .inr ⟨row, inside, called.symm, same, role, active⟩⟩
  · intro ⟨group, stored, ⟨node, own, wanted⟩, leads⟩
    have within : passes names group.branch = true := (passes_iff filled).mpr ⟨node, wanted, own⟩
    cases leads with
    | inl accountable =>
      obtain ⟨row, inside, called, leads⟩ := accountable
      have same := tables.groups.eq_of_key inside stored called
      rw [same] at leads
      exact .inl ⟨group, stored, within, passes_nil _, leads⟩
    | inr rostered =>
      obtain ⟨row, inside, called, same, role, active⟩ := rostered
      obtain ⟨other, kept, named, copied⟩ := bound row inside
      have twin := tables.groups.eq_of_key kept stored (named.trans called)
      rw [← twin, copied] at within
      exact .inr ⟨row, inside, within, passes_nil _, same, role, active⟩

/-- The audience of a branch anchor is its subtree with the leaders of the groups there. -/
theorem audienceOf_branch (forests : Forests tables branches) (bound : RosterBound tables)
    (unanchored : truthy scope.group = none)
    (valid : validateScope scope (frappeNotificationFanoutGateway tables branches) = .ok ()) :
    ∃ audience,
      resolveScopedAudience scope (frappeNotificationFanoutGateway tables branches) =
        .ok audience ∧ audience.axis = .branch ∧ AudienceOf tables branches scope audience := by
  obtain ⟨branch, named, there⟩ := branch_of_valid unanchored valid
  have given : scope.branch = some branch := truthy_eq_some named
  obtain ⟨names, walked, nodup, all⟩ :=
    subtree_childMap branchTree branches.keyed (forests.branches branch) there
  have below (node : String) : node ∈ names ↔ Below tables branches scope node := by
    rw [all node, Below, unanchored, given]
    rfl
  have filled : names ≠ [] := List.ne_nil_of_mem ((all branch).mpr .refl)
  refine ⟨⟨.branch, names, leadersInBranches tables names⟩, ?_, rfl, nodup, below,
    leaders_nodup tables names [], fun member => ?_⟩
  · rw [resolveScopedAudience, valid, unanchored, given]
    show (computeBranchSubtree (childMap branchTree branches.rows) branch >>= _) = _
    rw [computeBranchSubtree, if_neg (truthy_nonempty named), walked]
    rfl
  · rw [mem_leadersInBranches_iff bound filled]
    have targeted (group : Group) : (∃ node, group.branch = some node ∧ node ∈ names) ↔
        Targeted tables branches scope group := by
      rw [Targeted, unanchored]
      exact exists_congr fun node => and_congr_right fun _ => below node
    simp only [targeted]

/-- The audience of a scope is the subtree of its anchor with the leaders there. -/
theorem audienceOf (forests : Forests tables branches) (bound : RosterBound tables)
    (valid : validateScope scope (frappeNotificationFanoutGateway tables branches) = .ok ()) :
    ∃ audience,
      resolveScopedAudience scope (frappeNotificationFanoutGateway tables branches) =
        .ok audience ∧ AudienceOf tables branches scope audience := by
  cases anchored : truthy scope.group with
  | some group =>
    obtain ⟨audience, resolved, _, whole⟩ := audienceOf_group forests anchored valid
    exact ⟨audience, resolved, whole⟩
  | none =>
    obtain ⟨audience, resolved, _, whole⟩ := audienceOf_branch forests bound anchored valid
    exact ⟨audience, resolved, whole⟩

end Audiences

/-- The outbox after a publish that may have failed. -/
def Outbox.tried (outbox : Outbox) (publisher : RealtimePublisher) (emission : RealtimeEmission) :
    Outbox :=
  { outbox with
    attempts := outbox.attempts ++ [emission]
    delivered := match publisher outbox.attempts emission with
      | .ok _ => outbox.delivered ++ [emission]
      | .error _ => outbox.delivered }

/-- A publish is tried, and its failure goes no further. -/
theorem publishBestEffort_run (publisher : RealtimePublisher) (emission : RealtimeEmission)
    (outbox : Outbox) :
    publishBestEffort publisher emission outbox =
      .ok ⟨⟩ (outbox.tried publisher emission) := by
  have ran : publish publisher emission outbox =
      (Exec.ofExcept (publisher outbox.attempts emission) >>= fun _ =>
        modify fun outbox => { outbox with delivered := outbox.delivered ++ [emission] } :
          Exec Error Outbox Unit) { outbox with attempts := outbox.attempts ++ [emission] } := by
    rw [publish, Exec.bind_run_ok (Exec.get_run outbox)]
    rfl
  rw [publishBestEffort, Outbox.tried]
  cases ended : publisher outbox.attempts emission with
  | ok _ =>
    rw [ended] at ran
    exact Exec.tryCatch_run_ok ran
  | error raised =>
    rw [ended] at ran
    exact Exec.tryCatch_run_error ran

/-- What a loop of publishes leaves behind. -/
theorem attempts_of_tried (publisher : RealtimePublisher) (emissionOf : String → RealtimeEmission) :
    ∀ (rooms : List String) (outbox : Outbox),
      (rooms.foldl (fun outbox room => outbox.tried publisher (emissionOf room)) outbox).attempts =
          outbox.attempts ++ rooms.map emissionOf ∧
        (rooms.foldl (fun outbox room =>
          outbox.tried publisher (emissionOf room)) outbox).publishedEvents = outbox.publishedEvents
  | [], outbox => ⟨(List.append_nil _).symm, rfl⟩
  | room :: rest, outbox => by
    obtain ⟨attempts, events⟩ := attempts_of_tried publisher emissionOf rest
      (outbox.tried publisher (emissionOf room))
    rw [List.foldl_cons, attempts, events, List.map_cons, Outbox.tried, List.append_assoc]
    exact ⟨rfl, rfl⟩

/-- What one push leaves behind: an attempt for each room, and the record. -/
structure Pushed (scope : NotificationScope) (push : Push) (audience : ScopedAudience)
    (before after : Outbox) : Prop where
  /-- The attempts. -/
  attempts : after.attempts = before.attempts ++ (pushRooms audience).map fun room =>
    ⟨rtNotification, room, message scope audience push⟩
  /-- The one event. -/
  event : after.publishedEvents = before.publishedEvents ++ [sentEvent scope audience push]

/-- A push whose scope resolves is published and recorded, whatever publishes fail. -/
theorem fanout_run {gateway : NotificationFanoutGateway} {scope : NotificationScope}
    {audience : ScopedAudience} (resolved : resolveScopedAudience scope gateway = .ok audience)
    (publisher : RealtimePublisher) (push : Push) (outbox : Outbox) :
    ∃ result next, fanout gateway publisher scope push outbox = .ok result next ∧
      result.audience = audience ∧ result.rooms = pushRooms audience ∧
      Pushed scope push audience outbox next := by
  let emissionOf (room : String) : RealtimeEmission :=
    ⟨rtNotification, room, message scope audience push⟩
  let published := (pushRooms audience).foldl
    (fun outbox room => outbox.tried publisher (emissionOf room)) outbox
  have loop : (pushRooms audience).forM (fun room => publishBestEffort publisher (emissionOf room))
      outbox = .ok ⟨⟩ published :=
    Exec.forM_run _ _ (fun room outbox => publishBestEffort_run publisher (emissionOf room) outbox)
      (pushRooms audience) outbox
  obtain ⟨attempts, events⟩ := attempts_of_tried publisher emissionOf (pushRooms audience) outbox
  refine ⟨⟨scope, audience, pushRooms audience, sentEvent scope audience push, push⟩,
    { published with
      publishedEvents := published.publishedEvents ++ [sentEvent scope audience push] },
    ?_, rfl, rfl, attempts, ?_⟩
  · rw [fanout, resolved]
    exact Exec.bind_run_ok loop _
  · exact congrArg (· ++ [sentEvent scope audience push]) events

/-- The room of a node tells the node. -/
theorem notificationRoom_injective {axis : Axis} {node other : String}
    (same : notificationRoom axis node = notificationRoom axis other) : node = other := by
  have text := congrArg String.toList same
  simp only [notificationRoom, String.toList_append] at text
  exact String.toList_inj.mp (List.append_cancel_left
    (List.append_cancel_right (List.append_cancel_right text)))

/-- The rooms of an audience are those of its nodes. -/
theorem roomsFor_eq (audience : ScopedAudience) :
    roomsFor audience = audience.nodes.map (notificationRoom audience.axis) := by
  rw [roomsFor]
  cases audience.axis with
  | group => rfl
  | branch => rfl

/-- A push that its scope admits goes to the anchor and to what lies below it, one room for each
node or none without a leader, whatever publishes fail; its leaders are those of the groups there,
each once, and it is recorded by one event. -/
theorem push_reaches_subtree {tables : Tables} {branches : Table Branch Branch.name}
    (forests : Forests tables branches) (bound : RosterBound tables) {scope : NotificationScope}
    (valid : validateScope scope (frappeNotificationFanoutGateway tables branches) = .ok ())
    (publisher : RealtimePublisher) (push : Push) (outbox : Outbox) :
    ∃ result next,
      fanout (frappeNotificationFanoutGateway tables branches) publisher scope push outbox =
        .ok result next ∧
      resolveScopedAudience scope (frappeNotificationFanoutGateway tables branches) =
        .ok result.audience ∧
      AudienceOf tables branches scope result.audience ∧
      result.rooms = (if result.audience.leaders = [] then []
        else result.audience.nodes.map (notificationRoom result.audience.axis)) ∧
      result.rooms.Nodup ∧ Pushed scope push result.audience outbox next ∧
      next.attempts.map RealtimeEmission.room =
        outbox.attempts.map RealtimeEmission.room ++ result.rooms := by
  have ⟨audience, resolved, whole⟩ := audienceOf forests bound valid
  have ⟨result, next, ran, same, rooms, pushed⟩ := fanout_run resolved publisher push outbox
  have one : pushRooms audience = if audience.leaders = [] then []
      else audience.nodes.map (notificationRoom audience.axis) := by
    rw [pushRooms, ← roomsFor_eq]
    cases audience.leaders with
    | nil => rfl
    | cons leader rest => rfl
  refine ⟨result, next, ran, ?_, ?_, ?_, ?_, ?_, ?_⟩
  · rw [same]
    exact resolved
  · rw [same]
    exact whole
  · rw [same, rooms, one]
  · rw [rooms, one]
    split
    · exact List.nodup_nil
    · exact whole.nodup.map fun _ _ => notificationRoom_injective
  · rw [same]
    exact pushed
  · rw [pushed.attempts, List.map_append, List.map_map, rooms]
    exact congrArg (outbox.attempts.map RealtimeEmission.room ++ ·) (List.map_id _)

/-- A choir of the lower branch. -/
def hillChoir : Group where
  name := "Hill-Choir"
  branch := some "Hill"
  leader := some "MEM-00001"
  lft := 1
  rgt := 2
  named := by decide

/-- The second leader has a name. -/
theorem secondLeader_named : "MEM-00002" ≠ "" := by decide

/-- The choir with a second leader on its roster. -/
def hillTables : Tables where
  groups := ⟨[hillChoir], by decide⟩
  roster := [{
    group := "Hill-Choir"
    member := "MEM-00002"
    branch := some "Hill"
    role := "Co-Leader"
    grouped := by decide
    anchored := secondLeader_named }]
  getRoles := fun _ => []

/-- The choir and the two branches are forests. -/
theorem hillTables_forests : Forests hillTables districts := by
  have nested : NestedOrder (hillTables.groups.rows.map groupTree.nestedRow) :=
    ⟨.node "Hill-Choir" .nil .nil, 1, id, strictMono_id, .refl _⟩
  exact ⟨rooted_of_subset nested hillTables.groups.keyed (List.Subset.refl _),
    rooted_of_subset districts_nested districts.keyed (List.Subset.refl _)⟩

/-- A push to the upper branch reaches the leaders of the choir below, though every publish
fails. -/
theorem push_reaches_choir :
    ∃ result next,
      fanout (frappeNotificationFanoutGateway hillTables districts)
        (fun _ _ => .error .infrastructure) { organization := "Flock", branch := some "North" }
        { subject := "Picnic" } {} = .ok result next ∧
      AudienceOf hillTables districts { organization := "Flock", branch := some "North" }
        result.audience ∧ result.rooms.Nodup := by
  have bound : RosterBound hillTables := by
    intro row inside
    rw [List.mem_singleton.mp inside]
    exact ⟨hillChoir, List.mem_singleton.mpr rfl, rfl, rfl⟩
  have valid : validateScope { organization := "Flock", branch := some "North" }
      (frappeNotificationFanoutGateway hillTables districts) = .ok () := rfl
  have ⟨result, next, ran, _, whole, _, once, _⟩ := push_reaches_subtree hillTables_forests bound
    valid (fun _ _ => .error .infrastructure) { subject := "Picnic" } {}
  exact ⟨result, next, ran, whole, once⟩

end FlockOs.Notifications
