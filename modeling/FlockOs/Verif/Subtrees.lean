import FlockOs.Trees
import FlockOs.Verif.GroupScope

/-!
# Bounds against pointers

On rows that are numbered in the order of a walk, the rows inside the bounds of a node are the
nodes that the walk by levels finds below it. The traversal service, which fetches by bounds and
then walks what it fetched, returns what it fetched, and the bounds of several led groups select
the union of their subtrees.
-/

namespace FlockOs.Trees

open Lib Directory Permissions

section Tree

variable {Row : Type} {tree : TreeDoctype Row} {rows : List Row}

/-- A child by the pointers is a child by the links of the numbered rows. -/
theorem child_iff_linked {upper lower : String} :
    Levels.Child (tree.childrenOf rows) upper lower ↔
      Linked (rows.map tree.nestedRow) upper lower := by
  constructor
  · intro child
    obtain ⟨row, kept, named⟩ := List.mem_map.mp child
    obtain ⟨member, link⟩ := List.mem_filter.mp kept
    exact ⟨_, List.mem_map_of_mem member, named, of_decide_eq_true link⟩
  · intro ⟨numbered, member, named, link⟩
    obtain ⟨row, inside, same⟩ := List.mem_map.mp member
    rw [← same] at named link
    exact List.mem_map.mpr ⟨row, List.mem_filter.mpr ⟨inside, decide_eq_true link⟩, named⟩

/-- What is found under a name is a row with that name. -/
theorem of_rowByName {name : String} {row : Row} (found : tree.rowByName rows name = some row) :
    row ∈ rows ∧ tree.name row = name := by
  have passed := List.find?_some found
  exact ⟨List.mem_of_find?_eq_some found, of_decide_eq_true passed⟩

/-- A row is found under its name. -/
theorem rowByName_name (keyed : (rows.map tree.name).Nodup) {row : Row} (inside : row ∈ rows) :
    tree.rowByName rows (tree.name row) = some row := by
  cases found : tree.rowByName rows (tree.name row) with
  | none => exact absurd (decide_eq_true rfl) (List.find?_eq_none.mp found row inside)
  | some other =>
    obtain ⟨member, same⟩ := of_rowByName found
    rw [List.inj_on_of_nodup_map keyed member inside same]

/-- The names of numbered rows. -/
theorem nestedRow_names : (rows.map tree.nestedRow).map NestedRow.name = rows.map tree.name := by
  rw [List.map_map]
  rfl

/-- Rows with different names have children of at most one parent each. -/
theorem arboreal (keyed : (rows.map tree.name).Nodup) :
    Levels.Arboreal (tree.childrenOf rows) := by
  constructor
  · exact fun upper => (List.filter_sublist.map tree.name).nodup keyed
  · intro upper other lower first second
    obtain ⟨row, member, named, link⟩ := child_iff_linked.mp first
    obtain ⟨twin, inside, called, join⟩ := child_iff_linked.mp second
    rw [← nestedRow_names] at keyed
    rw [List.inj_on_of_nodup_map keyed inside member (called.trans named.symm), link] at join
    exact Option.some.inj join

/-- A child over some rows is the name of one of them. -/
theorem child_listed (upper lower : String)
    (child : Levels.Child (tree.childrenOf rows) upper lower) : lower ∈ rows.map tree.name :=
  (List.filter_sublist.map tree.name).subset child

/-- The turns of a walk over some rows are more than their names. -/
theorem names_lt_turns : (rows.map tree.name).length < rows.length + 1 := by
  rw [List.length_map]
  omega

/-- The turns that a walk over some rows is given end it, whatever the links of the rows. -/
theorem subtreeOver_turns (extra : Nat) (node : String) :
    subtreeOf (tree.childrenOf rows) (rows.length + 1 + extra) node =
      tree.subtreeOver rows node := by
  have enough : (rows.map tree.name).length < ([] : List String).length + (rows.length + 1) := by
    rw [List.length_nil, Nat.zero_add]
    exact names_lt_turns
  rw [TreeDoctype.subtreeOver, subtreeOf, subtreeOf, descendantsOf, descendantsOf,
    Levels.walk_more child_listed extra _ List.nodup_nil (List.nil_subset _) (child_listed node)
      enough]

/-- A walk over some rows that ends without an error starts at a node that does not lie below
itself. -/
theorem rooted_of_subtreeOver {node : String}
    {names : List String} (walked : tree.subtreeOver rows node = .ok names) :
    Rooted (Levels.Child (tree.childrenOf rows)) node := by
  rw [TreeDoctype.subtreeOver, subtreeOf, descendantsOf] at walked
  cases ended : Levels.walk (tree.childrenOf rows) node (rows.length + 1) []
      (tree.childrenOf rows node) with
  | error child =>
    rw [ended] at walked
    cases walked
  | ok reached => exact Levels.rooted_of_walk child_listed names_lt_turns ended

/-- The walk over some rows from a node that does not lie below itself ends with what is reached by
their children, each once. -/
theorem subtreeOver_ok (keyed : (rows.map tree.name).Nodup) {node : String}
    (rooted : Rooted (Levels.Child (tree.childrenOf rows)) node) :
    ∃ names, tree.subtreeOver rows node = .ok names ∧ names.Nodup ∧ ∀ name, name ∈ names ↔
      Reaches (Levels.Child (tree.childrenOf rows)) node name := by
  obtain ⟨reached, ends, nodup, all⟩ :=
    Levels.walk_children (arboreal keyed) child_listed (Nat.le_of_lt names_lt_turns) rooted
  refine ⟨node :: reached, ?_, nodup, all⟩
  rw [TreeDoctype.subtreeOver, subtreeOf, descendantsOf, ends]
  rfl

variable (nested : NestedOrder (rows.map tree.nestedRow)) (keyed : (rows.map tree.name).Nodup)
include nested keyed

/-- Among some rows of a numbered tree no node lies below itself. -/
theorem rooted_of_subset {part : List Row} (among : part ⊆ rows) (node : String) :
    Rooted (Levels.Child (tree.childrenOf part)) node := by
  intro cycle
  rw [← nestedRow_names] at keyed
  refine nested.acyclic keyed node (Relation.TransGen.mono (fun upper lower child => ?_) _ _ cycle)
  obtain ⟨row, member, link⟩ := child_iff_linked.mp child
  exact ⟨row, List.map_subset _ among member, link⟩

/-- A row lies inside the bounds of another exactly where the walk reaches it. -/
theorem bounds_iff_reached {outer inner : Row} (outside : outer ∈ rows) (inside : inner ∈ rows) :
    (tree.lft outer ≤ tree.lft inner ∧ tree.rgt inner ≤ tree.rgt outer) ↔
      Relation.ReflTransGen (Levels.Child (tree.childrenOf rows)) (tree.name outer)
        (tree.name inner) := by
  have same : Levels.Child (tree.childrenOf rows) = Linked (rows.map tree.nestedRow) := by
    funext upper lower
    exact propext child_iff_linked
  rw [← nestedRow_names] at keyed
  rw [same]
  exact nested.encloses_iff_reached keyed (List.mem_map_of_mem outside)
    (List.mem_map_of_mem inside)

/-- What the walk reaches from a row is a row inside its bounds. -/
theorem reached_row {outer : Row} (outside : outer ∈ rows) {name : String}
    (reached : Relation.ReflTransGen (Levels.Child (tree.childrenOf rows)) (tree.name outer) name) :
    ∃ inner ∈ rows, tree.name inner = name ∧
      tree.lft outer ≤ tree.lft inner ∧ tree.rgt inner ≤ tree.rgt outer := by
  obtain ⟨inner, inside, same⟩ : ∃ inner ∈ rows, tree.name inner = name := by
    cases reached with
    | refl => exact ⟨outer, outside, rfl⟩
    | tail _ child =>
      obtain ⟨row, kept, named⟩ := List.mem_map.mp child
      exact ⟨row, (List.mem_filter.mp kept).1, named⟩
  rw [← same] at reached
  exact ⟨inner, inside, same, (bounds_iff_reached nested keyed outside inside).mpr reached⟩

omit nested in
/-- The rows that are fetched for a node. -/
theorem mem_fetchSubtreeRows {outer row : Row} (outside : outer ∈ rows) :
    row ∈ tree.fetchSubtreeRows rows (some (tree.name outer)) ↔
      row ∈ rows ∧ tree.lft outer ≤ tree.lft row ∧ tree.rgt row ≤ tree.rgt outer := by
  rw [TreeDoctype.fetchSubtreeRows, rowByName_name keyed outside]
  dsimp only
  rw [List.mem_insertionSort, List.mem_filter, decide_eq_true_iff]

omit nested in
/-- No row is fetched twice. -/
theorem fetchSubtreeRows_keyed {outer : Row} (outside : outer ∈ rows) :
    ((tree.fetchSubtreeRows rows (some (tree.name outer))).map tree.name).Nodup := by
  rw [TreeDoctype.fetchSubtreeRows, rowByName_name keyed outside]
  dsimp only
  exact ((List.perm_insertionSort _ _).map tree.name).nodup_iff.mpr
    ((List.filter_sublist.map tree.name).nodup keyed)

/-- The rows that are fetched for a node are those that the walk over the whole tree finds, each
once. -/
theorem fetched_perm {outer : Row} (outside : outer ∈ rows) :
    ∃ names, tree.subtreeOver rows (tree.name outer) = .ok names ∧
      ((tree.fetchSubtreeRows rows (some (tree.name outer))).map tree.name).Perm names := by
  obtain ⟨names, walked, nodup, all⟩ :=
    subtreeOver_ok keyed (rooted_of_subset nested keyed (List.Subset.refl rows) (tree.name outer))
  refine ⟨names, walked, ?_⟩
  rw [List.perm_ext_iff_of_nodup (fetchSubtreeRows_keyed keyed outside) nodup]
  intro name
  rw [all name]
  constructor
  · intro fetched
    obtain ⟨row, inside, same⟩ := List.mem_map.mp fetched
    obtain ⟨member, bounds⟩ := (mem_fetchSubtreeRows keyed outside).mp inside
    rw [← same]
    exact (bounds_iff_reached nested keyed outside member).mp bounds
  · intro reached
    obtain ⟨row, inside, same, bounds⟩ := reached_row nested keyed outside reached
    exact List.mem_map.mpr ⟨row, (mem_fetchSubtreeRows keyed outside).mpr ⟨inside, bounds⟩, same⟩

/-- What the walk reaches it also reaches over the rows that were fetched: each node on the way lies
inside the bounds. -/
theorem reached_over_fetched {outer : Row} (outside : outer ∈ rows) {name : String}
    (reached : Relation.ReflTransGen (Levels.Child (tree.childrenOf rows)) (tree.name outer) name) :
    Relation.ReflTransGen (Levels.Child (tree.childrenOf
      (tree.fetchSubtreeRows rows (some (tree.name outer))))) (tree.name outer) name := by
  induction reached with
  | refl => exact .refl
  | @tail upper lower before child ih =>
    obtain ⟨row, kept, named⟩ := List.mem_map.mp child
    obtain ⟨member, link⟩ := List.mem_filter.mp kept
    have down : Relation.ReflTransGen (Levels.Child (tree.childrenOf rows)) (tree.name outer)
        (tree.name row) := named ▸ before.tail child
    have bounds := (bounds_iff_reached nested keyed outside member).mpr down
    have fetched := (mem_fetchSubtreeRows keyed outside).mpr ⟨member, bounds⟩
    exact ih.tail (List.mem_map.mpr ⟨row, List.mem_filter.mpr ⟨fetched, link⟩, named⟩)

/-- The walk over the rows that were fetched finds all of them. -/
theorem walk_fetched_perm {outer : Row} (outside : outer ∈ rows) :
    ∃ names, tree.subtreeOver (tree.fetchSubtreeRows rows (some (tree.name outer)))
        (tree.name outer) = .ok names ∧
      ((tree.fetchSubtreeRows rows (some (tree.name outer))).map tree.name).Perm names := by
  have once := fetchSubtreeRows_keyed keyed outside
  have among : tree.fetchSubtreeRows rows (some (tree.name outer)) ⊆ rows := fun row there =>
    ((mem_fetchSubtreeRows keyed outside).mp there).1
  obtain ⟨names, walked, nodup, all⟩ :=
    subtreeOver_ok once (rooted_of_subset nested keyed among (tree.name outer))
  refine ⟨names, walked, ?_⟩
  rw [List.perm_ext_iff_of_nodup once nodup]
  intro name
  rw [all name]
  constructor
  · intro fetched
    obtain ⟨row, inside, same⟩ := List.mem_map.mp fetched
    obtain ⟨member, bounds⟩ := (mem_fetchSubtreeRows keyed outside).mp inside
    have reached := (bounds_iff_reached nested keyed outside member).mp bounds
    rw [← same]
    exact reached_over_fetched nested keyed outside reached
  · intro reached
    cases reached with
    | refl =>
      exact List.mem_map_of_mem ((mem_fetchSubtreeRows keyed outside).mpr
        ⟨outside, Int.le_refl _, Int.le_refl _⟩)
    | tail _ child => exact (List.filter_sublist.map tree.name).subset child

/-- The service returns the rows that it fetched, each once. -/
theorem subtree_ok {outer : Row} (outside : outer ∈ rows) :
    ∃ returned, tree.subtree rows (tree.name outer) = .ok returned ∧
      returned.Perm (tree.fetchSubtreeRows rows (some (tree.name outer))) := by
  obtain ⟨names, walked, same⟩ := walk_fetched_perm nested keyed outside
  have once := fetchSubtreeRows_keyed keyed outside
  refine ⟨tree.rowsFor names (tree.fetchSubtreeRows rows (some (tree.name outer))), ?_, ?_⟩
  · rw [TreeDoctype.subtree, rowByName_name keyed outside]
    dsimp only
    rw [walked]
    rfl
  · refine (same.symm.filterMap _).trans (List.Perm.of_eq ?_)
    rw [List.filterMap_map]
    exact (List.filterMap_congr fun row there => rowByName_name once there).trans
      List.filterMap_some

/-- The service returns the node and what the pointers reach from it. -/
theorem subtree_names {outer : Row} (outside : outer ∈ rows) :
    ∃ returned, tree.subtree rows (tree.name outer) = .ok returned ∧
      ∀ name, name ∈ returned.map tree.name ↔
        Reaches (Levels.Child (tree.childrenOf rows)) (tree.name outer) name := by
  obtain ⟨returned, ends, back⟩ := subtree_ok nested keyed outside
  obtain ⟨names, walked, same⟩ := fetched_perm nested keyed outside
  obtain ⟨found, again, _, all⟩ :=
    subtreeOver_ok keyed (rooted_of_subset nested keyed (List.Subset.refl rows) (tree.name outer))
  rw [walked] at again
  cases again
  refine ⟨returned, ends, fun name => ?_⟩
  rw [(back.map tree.name).mem_iff, same.mem_iff, all name]

end Tree

section Led

variable {tables : Tables} (nested : NestedOrder (tables.groups.rows.map groupTree.nestedRow))
include nested

/-- The bounds of some led groups select the union of their subtrees. -/
theorem mem_subtreeSelect {led : List Group} (stored : ∀ leader ∈ led, leader ∈ tables.groups.rows)
    {name : String} :
    name ∈ subtreeSelect tables (led.map boundsOf) ↔ ∃ leader ∈ led, ∃ names,
      groupTree.subtreeOver tables.groups.rows leader.name = .ok names ∧ name ∈ names := by
  have keyed : (tables.groups.rows.map groupTree.name).Nodup := tables.groups.keyed
  constructor
  · intro selected
    obtain ⟨group, kept, named⟩ := List.mem_map.mp selected
    obtain ⟨inside, ranges⟩ := List.mem_filter.mp kept
    obtain ⟨bounds, listed, both⟩ := List.any_eq_true.mp ranges
    obtain ⟨leader, leads, same⟩ := List.mem_map.mp listed
    obtain ⟨left, right⟩ := Bool.and_eq_true_iff.mp both
    rw [← same] at left right
    have outside := stored leader leads
    obtain ⟨names, walked, _, all⟩ :=
      subtreeOver_ok keyed (rooted_of_subset nested keyed (List.Subset.refl _) leader.name)
    refine ⟨leader, leads, names, walked, (all name).mpr ?_⟩
    rw [← named]
    exact (bounds_iff_reached nested keyed outside inside).mp
      ⟨of_decide_eq_true left, of_decide_eq_true right⟩
  · intro ⟨leader, leads, names, walked, there⟩
    have outside := stored leader leads
    obtain ⟨found, again, _, all⟩ :=
      subtreeOver_ok keyed (rooted_of_subset nested keyed (List.Subset.refl _) leader.name)
    rw [walked] at again
    cases again
    have reached : Relation.ReflTransGen (Levels.Child (groupTree.childrenOf tables.groups.rows))
        (groupTree.name leader) name := (all name).mp there
    obtain ⟨group, inside, same, left, right⟩ := reached_row nested keyed outside reached
    refine List.mem_map.mpr ⟨group, List.mem_filter.mpr ⟨inside, ?_⟩, same⟩
    exact List.any_eq_true.mpr ⟨boundsOf leader, List.mem_map_of_mem leads,
      Bool.and_eq_true_iff.mpr ⟨decide_eq_true left, decide_eq_true right⟩⟩

omit nested in
/-- The subselect is what the subtree clause compares a column with. -/
theorem satisfies_iff_selected {row : Row} {column : String} {ledBounds : List GroupBounds} :
    tables.satisfies row (.inSubtree column ledBounds) = true ↔
      ∃ name, row.value column = some name ∧ name ∈ subtreeSelect tables ledBounds := by
  rw [Tables.satisfies]
  cases row.value column with
  | none =>
    refine ⟨fun holds => (Bool.false_ne_true holds).elim, ?_⟩
    rintro ⟨_, given, _⟩
    cases given
  | some value =>
    dsimp only
    rw [List.any_eq_true]
    constructor
    · rintro ⟨group, inside, both⟩
      obtain ⟨named, ranges⟩ := Bool.and_eq_true_iff.mp both
      exact ⟨value, rfl, List.mem_map.mpr
        ⟨group, List.mem_filter.mpr ⟨inside, ranges⟩, of_decide_eq_true named⟩⟩
    · rintro ⟨name, given, selected⟩
      cases given
      obtain ⟨group, kept, named⟩ := List.mem_map.mp selected
      obtain ⟨inside, ranges⟩ := List.mem_filter.mp kept
      exact ⟨group, inside, Bool.and_eq_true_iff.mpr ⟨decide_eq_true named, ranges⟩⟩

end Led

/-- The rows fetched by the bounds of a node are the names that the walk over all rows finds, each
once, and the service returns just these rows. -/
def Coincide {Row : Type} (tree : TreeDoctype Row) (rows : List Row)
    (fetch : Option String → List Row) (subtree : String → Except Error (List Row))
    (node : Row) : Prop :=
  ∃ names returned, tree.subtreeOver rows (tree.name node) = .ok names ∧ names.Nodup ∧
    ((fetch (some (tree.name node))).map tree.name).Perm names ∧
    subtree (tree.name node) = .ok returned ∧ returned.Perm (fetch (some (tree.name node)))

/-- The two views of one tree. -/
theorem coincide {Row : Type} {tree : TreeDoctype Row} {rows : List Row}
    (nested : NestedOrder (rows.map tree.nestedRow)) (keyed : (rows.map tree.name).Nodup)
    {node : Row} (inside : node ∈ rows) :
    Coincide tree rows (tree.fetchSubtreeRows rows) (tree.subtree rows) node := by
  obtain ⟨names, walked, same⟩ := fetched_perm nested keyed inside
  obtain ⟨returned, ends, back⟩ := subtree_ok nested keyed inside
  exact ⟨names, returned, walked, same.nodup_iff.mp (fetchSubtreeRows_keyed keyed inside), same,
    ends, back⟩

/-- The column that the query hook compares with the groups of a DocType. -/
def groupColumn (doctype : String) : String := if doctype = groupDoctype then "name" else "group"

/-- The fragment of the query hook asks for the subtrees of the led groups. -/
theorem inSubtree_mem {doctype : String} {scope : LeaderScope} {clauses : List Clause}
    (built : buildGroupScopeSql doctype scope = some clauses) :
    .inSubtree (groupColumn doctype) scope.ledBounds ∈ clauses := by
  rw [buildGroupScopeSql] at built
  rw [groupColumn]
  split at built
  · cases built
  · split at built
    · next own =>
      cases built
      rw [if_pos own]
      exact List.mem_cons_self
    · next other =>
      cases built
      rw [if_neg other]
      exact List.mem_cons_of_mem _ List.mem_cons_self

/-- On trees that are numbered in the order of a walk, the bounds of a node and the pointers below
it give the same rows, the traversal service returns them, and the ranges of the query hook select
the union of the subtrees of the led groups, each group once. -/
theorem bounds_and_pointers_coincide (tables : Tables) (branches : Table Branch Branch.name)
    (groupsNested : NestedOrder (tables.groups.rows.map groupTree.nestedRow))
    (branchesNested : NestedOrder (branches.rows.map branchTree.nestedRow)) :
    (∀ group ∈ tables.groups.rows, Coincide groupTree tables.groups.rows
      (fetchGroupSubtreeRows tables) (groupSubtree tables) group) ∧
    (∀ branch ∈ branches.rows, Coincide branchTree branches.rows
      (fetchBranchSubtreeRows branches) (branchSubtree branches) branch) ∧
    ∀ led : List Group, (∀ leader ∈ led, leader ∈ tables.groups.rows) →
      (subtreeSelect tables (led.map boundsOf)).Nodup ∧
      (∀ name, name ∈ subtreeSelect tables (led.map boundsOf) ↔ ∃ leader ∈ led, ∃ names,
        groupTree.subtreeOver tables.groups.rows leader.name = .ok names ∧ name ∈ names) ∧
      ∀ doctype scope clauses, scope.ledBounds = led.map boundsOf →
        buildGroupScopeSql doctype scope = some clauses →
        .inSubtree (groupColumn doctype) (led.map boundsOf) ∈ clauses ∧
        ∀ row, tables.satisfies row (.inSubtree (groupColumn doctype) (led.map boundsOf)) = true ↔
          ∃ name, row.value (groupColumn doctype) = some name ∧ ∃ leader ∈ led, ∃ names,
            groupTree.subtreeOver tables.groups.rows leader.name = .ok names ∧ name ∈ names := by
  refine ⟨fun group inside => coincide groupsNested tables.groups.keyed inside,
    fun branch inside => coincide branchesNested branches.keyed inside, fun led stored => ?_⟩
  refine ⟨(List.filter_sublist.map Group.name).nodup tables.groups.keyed,
    fun name => mem_subtreeSelect groupsNested stored, fun doctype scope clauses bounds built => ?_⟩
  refine ⟨bounds ▸ inSubtree_mem built, fun row => ?_⟩
  rw [satisfies_iff_selected]
  exact exists_congr fun name =>
    and_congr_right fun _ => mem_subtreeSelect groupsNested stored

/-- A ministry with a group below it. -/
def ministry : Group where
  name := "North-Ministry"
  lft := 1
  rgt := 4
  named := by decide

/-- The group below the ministry. -/
def teens : Group where
  name := "North-Teens"
  parentGroup := some "North-Ministry"
  lft := 2
  rgt := 3
  named := by decide

/-- The two groups. -/
def ministryTables : Tables where
  groups := ⟨[teens, ministry], by decide⟩
  getRoles := fun _ => []

/-- A branch with a branch below it, numbered with a gap. -/
def districts : Table Branch Branch.name :=
  ⟨[⟨"North", "Flock", none, 1, 8⟩, ⟨"Hill", "Flock", some "North", 2, 5⟩], by decide⟩

/-- The two groups are numbered in order. -/
theorem ministryTables_nested :
    NestedOrder (ministryTables.groups.rows.map groupTree.nestedRow) :=
  ⟨.node "North-Ministry" (.node "North-Teens" .nil .nil) .nil, 1, id, strictMono_id,
    List.Perm.swap ..⟩

/-- The two branches are numbered in order. -/
theorem districts_nested : NestedOrder (districts.rows.map branchTree.nestedRow) := by
  refine ⟨.node "North" (.node "Hill" .nil .nil) .nil, 0,
    fun number => if number ≤ 1 then number + 1 else 3 * number - 1, ?_, .refl _⟩
  intro first second order
  dsimp only
  split <;> split <;> omega

/-- A led ministry and the led group below it select each group once. -/
theorem bounds_and_pointers_coincide_ministry :
    Coincide groupTree ministryTables.groups.rows (fetchGroupSubtreeRows ministryTables)
        (groupSubtree ministryTables) ministry ∧
      Coincide branchTree districts.rows (fetchBranchSubtreeRows districts)
        (branchSubtree districts) ⟨"Hill", "Flock", some "North", 2, 5⟩ ∧
      (subtreeSelect ministryTables ([ministry, teens].map boundsOf)).Nodup := by
  have ⟨groups, branches, selects⟩ := bounds_and_pointers_coincide ministryTables districts
    ministryTables_nested districts_nested
  exact ⟨groups ministry (by decide), branches _ (by decide),
    (selects [ministry, teens] (by decide)).1⟩

end FlockOs.Trees
