import FlockOs.Lib.Forests
import FlockOs.Verif.TraversalEnds
import Mathlib.Data.Set.Card

/-!
# Traversal of a forest

On a map of parents and a map of children that describe one forest, the walk up and the search down
say the same of every node. The traversal service, over a gateway that returns the rows of the
forest, returns the rows of the nodes that they find.
-/

namespace FlockOs.TreeMaps

open Lib Directory Trees

/-- The ancestors depend on the parents only, not on the keys of the map. -/
theorem ancestorsOf_congr {parents parents' : ParentMap} (same : parents.parentOf = parents'.parentOf)
    (node : String) : ancestorsOf node parents = ancestorsOf node parents' := by
  obtain ⟨result, own⟩ := Option.isSome_iff_exists.mp (climb_isSome node parents)
  have other : climb node parents' parents.keys.length = some result := by
    rw [climb, ← same]
    exact own
  rw [ancestorsOf_eq own, ancestorsOf_eq other]

/-- Where no node below is listed twice, the descendants are all levels after the node itself. -/
theorem descendantsOf_ok {children : ChildMap} {node : String}
    (distinct : ∀ depth, (Levels.upTo children.childrenOf node depth).Nodup) :
    ∃ reached last, descendantsOf node children = .ok reached ∧
      node :: reached = Levels.upTo children.childrenOf node last ∧
      Levels.levelAt children.childrenOf node (last + 1) = [] := by
  rcases search_cases node children with ⟨_, _, _, meets⟩ | ⟨reached, _, returned, _, searched⟩
  · exact absurd meets (Levels.not_meets distinct)
  · obtain ⟨last, whole, _, ended⟩ := searched
    exact ⟨reached, last, returned, whole, ended⟩

/-- A finite forest: a map of parents and a map of children that say the same. -/
structure ForestMaps where
  /-- `parent_of`. -/
  parents : ParentMap
  /-- `children_of`. -/
  children : ChildMap
  /-- They describe one forest. -/
  isForest : Forests.IsForest parents.parentOf children.childrenOf

namespace ForestMaps

variable (forest : ForestMaps)

/-- A node is the parent of another. -/
def Link (lower upper : String) : Prop := forest.parents.parentOf lower = some upper

/-- The climb from a node returns what is above it. -/
theorem ancestorsOf_ok (node : String) :
    ∃ chain, ancestorsOf node forest.parents = .ok chain ∧
      Chains.Behind forest.parents.parentOf node chain none := by
  rcases climb_cases node forest.parents with ⟨_, _, _, revisits⟩ | ⟨chain, _, returned, _, behind⟩
  · exact absurd revisits (forest.isForest.not_revisits node)
  · exact ⟨chain, returned, behind⟩

/-- The path from a node is the node and what is above it. -/
theorem mem_pathToRoot (name node : String) :
    (∃ path, pathToRoot name forest.parents = .ok path ∧ node ∈ path) ↔
      Relation.ReflTransGen forest.Link name node := by
  obtain ⟨chain, returned, behind⟩ := forest.ancestorsOf_ok name
  have path : pathToRoot name forest.parents = .ok (name :: chain) := by
    rw [pathToRoot, returned]
    rfl
  rw [path, Relation.reflTransGen_iff_eq_or_transGen]
  constructor
  · rintro ⟨_, same, there⟩
    cases same
    exact (List.mem_cons.mp there).imp_right behind.mem_iff.mp
  · intro reached
    exact ⟨_, rfl, List.mem_cons.mpr (reached.imp_right behind.mem_iff.mpr)⟩

/-- The subtree of a node is all its levels. -/
theorem subtreeOf_ok (node : String) :
    ∃ last, subtreeOf node forest.children =
        .ok (Levels.upTo forest.children.childrenOf node last) ∧
      Levels.levelAt forest.children.childrenOf node (last + 1) = [] := by
  obtain ⟨reached, last, returned, whole, ended⟩ :=
    descendantsOf_ok (forest.isForest.nodup_upTo node)
  refine ⟨last, ?_, ended⟩
  rw [subtreeOf, returned, ← whole]
  rfl

/-- The height of a node is the length of its chain. -/
theorem depthOf_ok {node : String} {chain : List String}
    (returned : ancestorsOf node forest.parents = .ok chain) :
    depthOf node forest.parents = .ok chain.length := by
  rw [depthOf, returned]
  rfl

/-- The number of proper ancestors is the depth. -/
theorem encard_ancestors (node : String) :
    ∃ depth : Nat, depthOf node forest.parents = .ok depth ∧
      {upper | Relation.TransGen forest.Link node upper}.encard = depth := by
  obtain ⟨chain, returned, behind⟩ := forest.ancestorsOf_ok node
  obtain ⟨_, distinct⟩ := List.nodup_cons.mp behind.distinct
  have same : {upper | Relation.TransGen forest.Link node upper} = chain.toFinset := by
    ext upper
    rw [Set.mem_ofPred_eq, Finset.mem_coe, List.mem_toFinset]
    exact behind.mem_iff.symm
  refine ⟨chain.length, forest.depthOf_ok returned, ?_⟩
  rw [same, Set.encard_coe_eq_coe_finsetCard, List.toFinset_card_of_nodup distinct]

/-- The levels are listed in the order of the depths. -/
theorem depths_sorted (node : String) (last : Nat) :
    (Levels.upTo forest.children.childrenOf node last).Pairwise fun first second =>
      ∃ depth depth', depthOf first forest.parents = .ok depth ∧
        depthOf second forest.parents = .ok depth' ∧ depth ≤ depth' := by
  have height (name : String) : ∃ depth, depthOf name forest.parents = .ok depth := by
    obtain ⟨chain, returned, _⟩ := forest.ancestorsOf_ok name
    exact ⟨_, forest.depthOf_ok returned⟩
  choose depth known using height
  have leveled (level : Nat) (name : String)
      (there : name ∈ Levels.levelAt forest.children.childrenOf node level) :
      depth name = depth node + level := by
    have visited := forest.isForest.mem_levelAt_iff.mp there
    obtain ⟨chain, returned, behind⟩ := forest.ancestorsOf_ok name
    obtain ⟨chain', returned', behind'⟩ := forest.ancestorsOf_ok node
    have length : depth name = chain.length :=
      Except.ok.inj ((known name).symm.trans (forest.depthOf_ok returned))
    have length' : depth node = chain'.length :=
      Except.ok.inj ((known node).symm.trans (forest.depthOf_ok returned'))
    rw [length, length']
    have rest := congrArg List.length (behind.drop_eq behind' visited)
    rw [behind.visit_eq] at visited
    obtain ⟨inside, _⟩ := List.getElem?_eq_some_iff.mp visited
    rw [List.length_drop, List.length_cons, List.length_cons] at rest
    rw [List.length_cons] at inside
    omega
  exact (Forests.pairwise_upTo leveled last).imp fun {first second} order =>
    ⟨_, _, known first, known second, order⟩

/-- The leaves are the nodes of the subtree that are no parent. -/
theorem leavesUnder_ok {node : String} {subtree : List String}
    (returned : subtreeOf node forest.children = .ok subtree) :
    ∃ leaves, leavesUnder node forest.children = .ok leaves ∧ leaves.Sublist subtree ∧
      ∀ name, name ∈ leaves ↔ name ∈ subtree ∧ ∀ lower, ¬forest.Link lower name := by
  refine ⟨_, by rw [leavesUnder, returned]; rfl, List.filter_sublist, fun name => ?_⟩
  rw [List.mem_filter, List.isEmpty_iff, List.eq_nil_iff_forall_not_mem]
  exact and_congr_right fun _ => forall_congr' fun lower =>
    not_congr (forest.isForest.linked name lower)

end ForestMaps

/-- A gateway that returns the rows of a forest, each once and one for each node that is a parent;
for a root those of its subtree, in which siblings stand in the order of the forest. -/
structure Serves {Row : Type} (tree : TreeDoctype Row) (gateway : TreeReadGateway Row)
    (forest : ForestMaps) : Prop where
  keyed : ((gateway.fetchSubtreeRows none).map tree.name).Nodup
  found : ∀ name, gateway.get name = tree.rowByName (gateway.fetchSubtreeRows none) name
  parents : (parentMap tree (gateway.fetchSubtreeRows none)).parentOf = forest.parents.parentOf
  stored : ∀ lower upper, forest.Link lower upper →
    upper ∈ (gateway.fetchSubtreeRows none).map tree.name
  below : ∀ root ∈ gateway.fetchSubtreeRows none, ∀ row,
    row ∈ gateway.fetchSubtreeRows (some (tree.name root)) ↔
      row ∈ gateway.fetchSubtreeRows none ∧
        Relation.ReflTransGen forest.Link (tree.name row) (tree.name root)
  siblings : ∀ root ∈ gateway.fetchSubtreeRows none, ∀ upper,
    (tree.childrenOf (gateway.fetchSubtreeRows (some (tree.name root))) upper).Sublist
      (forest.children.childrenOf upper)

section Service

variable {Row : Type} {tree : TreeDoctype Row}

/-- Names of rows are projected to rows with these names. -/
theorem rowsFor_names {rows : List Row} {names : List String}
    (stored : names ⊆ rows.map tree.name) :
    (tree.rowsFor names rows).map tree.name = names ∧ tree.rowsFor names rows ⊆ rows := by
  constructor
  · rw [TreeDoctype.rowsFor, List.map_filterMap]
    refine (List.filterMap_congr fun name there => ?_).trans List.filterMap_some
    obtain ⟨row, inside, same⟩ := List.mem_map.mp (stored there)
    cases found : tree.rowByName rows name with
    | none => exact absurd (decide_eq_true same) (List.find?_eq_none.mp found row inside)
    | some row => exact congrArg some (of_rowByName found).2
  · intro row projected
    obtain ⟨_, _, found⟩ := List.mem_filterMap.mp projected
    exact (of_rowByName found).1

variable {gateway : TreeReadGateway Row} {forest : ForestMaps} (serves : Serves tree gateway forest)
include serves

/-- A node that a row names is not refused. -/
theorem Serves.require {row : Row} (inside : row ∈ gateway.fetchSubtreeRows none) :
    require tree gateway (tree.name row) = .ok row := by
  rw [TreeMaps.require, serves.found, rowByName_name serves.keyed inside]

/-- The rows of the ancestors. -/
theorem Serves.ancestors {row : Row} (inside : row ∈ gateway.fetchSubtreeRows none) :
    ∃ chain rows, ancestorsOf (tree.name row) forest.parents = .ok chain ∧
      ancestors tree gateway (tree.name row) = .ok rows ∧ rows.map tree.name = chain ∧
      rows ⊆ gateway.fetchSubtreeRows none := by
  obtain ⟨chain, returned, behind⟩ := forest.ancestorsOf_ok (tree.name row)
  have stored : chain ⊆ (gateway.fetchSubtreeRows none).map tree.name := by
    intro upper there
    have links := behind.mem_iff.mp there
    obtain ⟨lower, _, link⟩ := Relation.TransGen.tail'_iff.mp links
    exact serves.stored lower upper link
  obtain ⟨names, among⟩ := rowsFor_names stored
  refine ⟨chain, _, returned, ?_, names, among⟩
  rw [TreeMaps.ancestors, serves.require inside]
  dsimp only [bind, Except.bind]
  rw [ancestorsOf_congr serves.parents, returned]

/-- Among the rows of a subtree a node of it has the children that it has in the forest. -/
theorem Serves.children_part {root : Row} (inside : root ∈ gateway.fetchSubtreeRows none)
    {name : String} (reached : Relation.ReflTransGen forest.Link name (tree.name root)) :
    tree.childrenOf (gateway.fetchSubtreeRows (some (tree.name root))) name =
      forest.children.childrenOf name := by
  apply (serves.siblings root inside name).eq_of_length_le
  refine ((forest.isForest.once name).subperm fun lower child => ?_).length_le
  have link := (forest.isForest.linked name lower).mp child
  rw [← serves.parents, parentOf_parentMap] at link
  obtain ⟨row, found, parent⟩ := Option.bind_eq_some_iff.mp link
  obtain ⟨there, named⟩ := of_rowByName found
  have fetched : row ∈ gateway.fetchSubtreeRows (some (tree.name root)) := by
    rw [serves.below root inside, named]
    exact ⟨there, .head ((forest.isForest.linked name lower).mp child) reached⟩
  rw [← named]
  exact List.mem_map_of_mem (List.mem_filter.mpr ⟨fetched, decide_eq_true parent⟩)

/-- The rows of the descendants. -/
theorem Serves.descendants {row : Row} (inside : row ∈ gateway.fetchSubtreeRows none) :
    ∃ reached rows, descendantsOf (tree.name row) forest.children = .ok reached ∧
      descendants tree gateway (tree.name row) = .ok rows ∧ rows.map tree.name = reached ∧
      rows ⊆ gateway.fetchSubtreeRows none := by
  let part := gateway.fetchSubtreeRows (some (tree.name row))
  have levels (depth : Nat) :
      Levels.levelAt (childMap tree part).childrenOf (tree.name row) depth =
        Levels.levelAt forest.children.childrenOf (tree.name row) depth := by
    refine Forests.levelAt_congr fun level _ name there => ?_
    have visited := forest.isForest.mem_levelAt_iff.mp there
    rw [childrenOf_childMap]
    exact serves.children_part inside (Chains.reflTransGen_iff_visit.mpr ⟨level, visited⟩)
  have same (depth : Nat) : Levels.upTo (childMap tree part).childrenOf (tree.name row) depth =
      Levels.upTo forest.children.childrenOf (tree.name row) depth :=
    List.flatMap_congr fun level _ => levels level
  have once := forest.isForest.nodup_upTo (tree.name row)
  obtain ⟨reached, last, returned, whole, ended⟩ := descendantsOf_ok once
  obtain ⟨reached', last', returned', whole', ended'⟩ :=
    descendantsOf_ok fun depth => (same depth).symm ▸ once depth
  rw [levels] at ended'
  rw [same, ← Forests.upTo_ended_unique ended ended', ← whole] at whole'
  cases whole'
  have stored : reached ⊆ part.map tree.name := by
    intro name there
    have listed : name ∈ Levels.upTo (childMap tree part).childrenOf (tree.name row) last := by
      rw [same, ← whole]
      exact List.mem_cons_of_mem _ there
    obtain ⟨level, _, stands⟩ := Levels.mem_upTo.mp listed
    cases level with
    | zero =>
      rw [List.mem_singleton.mp stands]
      exact List.mem_map_of_mem ((serves.below row inside row).mpr ⟨inside, .refl⟩)
    | succ level =>
      obtain ⟨upper, _, child⟩ := List.mem_flatMap.mp stands
      rw [childrenOf_childMap] at child
      exact child_listed upper name child
  obtain ⟨names, among⟩ := rowsFor_names stored
  have whole : tree.rowsFor reached part ⊆ gateway.fetchSubtreeRows none := fun projected there =>
    ((serves.below row inside projected).mp (among there)).1
  refine ⟨reached, _, returned, ?_, names, whole⟩
  rw [TreeMaps.descendants, serves.require inside]
  dsimp only [bind, Except.bind]
  rw [returned']

end Service

section Numbered

variable {Row : Type} {tree : TreeDoctype Row} {rows : List Row}

/-- Sorting keeps a part a part. -/
theorem insertionSort_sublist {earlier : Row → Row → Prop} [DecidableRel earlier]
    [Std.Total earlier] [IsTrans Row earlier] {part whole : List Row} (sub : part.Sublist whole) :
    (part.insertionSort earlier).Sublist (whole.insertionSort earlier) := by
  induction sub with
  | slnil => exact .slnil
  | cons row _ ih => exact ih.trans (List.sublist_orderedInsert _ _)
  | cons_cons row _ ih => exact ih.orderedInsert_sublist row (List.pairwise_insertionSort _ _)

/-- A row is the child of a node exactly where the node is its parent. -/
theorem child_iff_parent (keyed : (rows.map tree.name).Nodup) (upper lower : String) :
    lower ∈ tree.childrenOf rows upper ↔ (parentMap tree rows).parentOf lower = some upper := by
  rw [parentOf_parentMap, Option.bind_eq_some_iff, TreeDoctype.childrenOf, List.mem_map]
  constructor
  · rintro ⟨row, kept, named⟩
    obtain ⟨inside, link⟩ := List.mem_filter.mp kept
    rw [← named]
    exact ⟨row, rowByName_name keyed inside, of_decide_eq_true link⟩
  · rintro ⟨row, found, link⟩
    obtain ⟨inside, named⟩ := of_rowByName found
    exact ⟨row, List.mem_filter.mpr ⟨inside, decide_eq_true link⟩, named⟩

/-- The rows in the order of their left bounds. -/
def byLft (tree : TreeDoctype Row) (rows : List Row) : List Row :=
  rows.insertionSort fun first second => tree.lft first ≤ tree.lft second

variable (nested : NestedOrder (rows.map tree.nestedRow)) (keyed : (rows.map tree.name).Nodup)

/-- The forest of the rows of a numbered table, with siblings in the order of their left bounds. -/
def numberedForest : ForestMaps where
  parents := parentMap tree rows
  children := childMap tree (byLft tree rows)
  isForest := by
    have sorted : (byLft tree rows).Perm rows := List.perm_insertionSort _ _
    have once : ((byLft tree rows).map tree.name).Nodup :=
      (sorted.map tree.name).nodup_iff.mpr keyed
    rw [childrenOf_childMap]
    refine ⟨fun upper lower => ?_, fun upper => (arboreal once).nodup upper, fun node around => ?_⟩
    · rw [← child_iff_parent keyed]
      exact ((sorted.filter _).map tree.name).mem_iff
    · refine rooted_of_subset nested keyed (List.Subset.refl rows) node ?_
      rw [← Relation.transGen_swap]
      refine Relation.TransGen.mono (fun lower upper link => ?_) _ _ around
      exact (child_iff_parent keyed upper lower).mpr link

/-- The production gateway over a numbered table returns the rows of its forest. -/
theorem frappeTreeReadGateway_serves :
    Serves tree (frappeTreeReadGateway tree rows) (numberedForest nested keyed) where
  keyed := keyed
  found _ := rfl
  parents := rfl
  stored := by
    intro lower upper link
    obtain ⟨row, kept, _⟩ := List.mem_map.mp ((child_iff_parent keyed upper lower).mpr link)
    obtain ⟨inside, parent⟩ := List.mem_filter.mp kept
    obtain ⟨above, numbered, named, _⟩ :=
      nested.within (List.mem_map_of_mem inside) (of_decide_eq_true parent)
    obtain ⟨row', inside', same⟩ := List.mem_map.mp numbered
    rw [← same] at named
    exact List.mem_map.mpr ⟨row', inside', named⟩
  below := by
    intro root inside row
    have fetched : row ∈ (frappeTreeReadGateway tree rows).fetchSubtreeRows (some (tree.name root)) ↔
        row ∈ rows ∧ tree.lft root ≤ tree.lft row ∧ tree.rgt row ≤ tree.rgt root :=
      mem_fetchSubtreeRows keyed inside
    have swapped : (numberedForest nested keyed).Link =
        Function.swap (Levels.Child (tree.childrenOf rows)) := by
      funext lower upper
      exact propext (child_iff_parent keyed upper lower).symm
    rw [fetched]
    refine and_congr_right fun there => ?_
    rw [bounds_iff_reached nested keyed inside there, swapped, Relation.reflTransGen_swap]
  siblings := by
    intro root inside upper
    have order : Std.Total fun first second : Row => tree.lft first ≤ tree.lft second :=
      ⟨fun _ _ => Int.le_total _ _⟩
    have order' : IsTrans Row fun first second => tree.lft first ≤ tree.lft second :=
      ⟨fun _ _ _ => Int.le_trans⟩
    have fetched : ((frappeTreeReadGateway tree rows).fetchSubtreeRows
        (some (tree.name root))).Sublist (byLft tree rows) := by
      show (tree.fetchSubtreeRows rows (some (tree.name root))).Sublist _
      rw [TreeDoctype.fetchSubtreeRows, rowByName_name keyed inside]
      exact insertionSort_sublist List.filter_sublist
    have children : (numberedForest nested keyed).children.childrenOf =
        tree.childrenOf (byLft tree rows) := childrenOf_childMap tree (byLft tree rows)
    rw [children]
    exact (fetched.filter _).map tree.name

end Numbered

/-- On every forest a node's subtree holds each node once whose path leads through it, in the order
of the depths; its leaves are the nodes of it that are no parent, and a node's depth is the number
of its proper ancestors. Over a gateway that returns the rows of the forest the service returns the
rows of the ancestors and of the descendants, in the order in which they are found. -/
theorem forest_traversed (forest : ForestMaps) :
    (∀ node, ∃ subtree, subtreeOf node forest.children = .ok subtree ∧ subtree.Nodup ∧
      (∀ name, name ∈ subtree ↔
        ∃ path, pathToRoot name forest.parents = .ok path ∧ node ∈ path) ∧
      (subtree.Pairwise fun first second => ∃ depth depth',
        depthOf first forest.parents = .ok depth ∧ depthOf second forest.parents = .ok depth' ∧
          depth ≤ depth') ∧
      (∃ leaves, leavesUnder node forest.children = .ok leaves ∧ leaves.Sublist subtree ∧
        ∀ name, name ∈ leaves ↔ name ∈ subtree ∧ ∀ lower, ¬forest.Link lower name) ∧
      ∃ depth : Nat, depthOf node forest.parents = .ok depth ∧
        {upper | Relation.TransGen forest.Link node upper}.encard = depth) ∧
    ∀ gateway : TreeReadGateway Branch, Serves branchTree gateway forest →
      ∀ branch ∈ gateway.fetchSubtreeRows none,
        (∃ chain rows, ancestorsOf branch.name forest.parents = .ok chain ∧
          branchAncestors gateway branch.name = .ok rows ∧ rows.map Branch.name = chain ∧
          rows ⊆ gateway.fetchSubtreeRows none) ∧
        ∃ reached rows, descendantsOf branch.name forest.children = .ok reached ∧
          branchDescendants gateway branch.name = .ok rows ∧ rows.map Branch.name = reached ∧
          rows ⊆ gateway.fetchSubtreeRows none := by
  constructor
  · intro node
    have ⟨last, returned, ended⟩ := forest.subtreeOf_ok node
    refine ⟨_, returned, forest.isForest.nodup_upTo node last, fun name => ?_,
      forest.depths_sorted node last, forest.leavesUnder_ok returned, forest.encard_ancestors node⟩
    rw [forest.mem_pathToRoot]
    exact forest.isForest.mem_upTo_iff ended
  · intro gateway serves branch inside
    exact ⟨serves.ancestors inside, serves.descendants inside⟩

/-- The district below North is its only descendant. -/
theorem districts_traversed :
    ∃ reached rows,
      descendantsOf "North" (numberedForest districts_nested districts.keyed).children =
        .ok reached ∧
      branchDescendants (frappeTreeReadGateway branchTree districts.rows) "North" = .ok rows ∧
      rows.map Branch.name = reached ∧ rows ⊆ districts.rows :=
  have serves := frappeTreeReadGateway_serves districts_nested districts.keyed
  ((forest_traversed (numberedForest districts_nested districts.keyed)).2 _ serves
    ⟨"North", "Flock", none, 1, 8⟩ List.mem_cons_self).2

end FlockOs.TreeMaps
