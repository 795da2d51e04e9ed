import FlockOs.Lib.Chains
import FlockOs.Lib.Routes
import FlockOs.Trees

/-!
# Traversals over adjacency maps

The functions of `trees.py` over any two finite maps, and the methods of the traversal service
that materialize the maps from the rows of a gateway. The loops stop on every finite map, so that
the functions are total.
-/

namespace FlockOs.TreeMaps

open Lib Directory Trees

/-- A Python mapping: it has a value for some of its keys and for nothing else. -/
structure Mapping (β : Type) where
  /-- The keys. -/
  keys : List String
  /-- The value of a name. -/
  get : String → Option β
  /-- Only keys have a value. -/
  get_eq_none : ∀ name, name ∉ keys → get name = none

/-- `ParentMap`: the parent of a node, or `None` for a root. -/
abbrev ParentMap := Mapping (Option String)

/-- `ChildMap`: the children of a node in order. -/
abbrev ChildMap := Mapping (List String)

/-- `parent_of.get(node)`. -/
def ParentMap.parentOf (parents : ParentMap) (node : String) : Option String :=
  (parents.get node).join

/-- `children_of.get(node, ())`. -/
def ChildMap.childrenOf (children : ChildMap) (node : String) : List String :=
  (children.get node).getD []

/-- Only a key has a parent. -/
theorem ParentMap.mem_keys (parents : ParentMap) (lower upper : String)
    (link : parents.parentOf lower = some upper) : lower ∈ parents.keys := by
  by_contra absent
  rw [parentOf, parents.get_eq_none lower absent] at link
  cases link

/-- The children of all keys. -/
def ChildMap.nodes (children : ChildMap) : List String :=
  children.keys.flatMap children.childrenOf

/-- Only a key has children. -/
theorem ChildMap.mem_nodes (children : ChildMap) (upper lower : String)
    (child : Levels.Child children.childrenOf upper lower) : lower ∈ children.nodes := by
  refine List.mem_flatMap.mpr ⟨upper, ?_, child⟩
  by_contra absent
  rw [Levels.Child, childrenOf, children.get_eq_none upper absent] at child
  cases child

/-- The loop of `ancestors_of`, for a number of turns. -/
def climb (node : String) (parents : ParentMap) (turns : Nat) :
    Option (Except String (List String)) :=
  Chains.climb parents.parentOf node turns [] (parents.parentOf node)

/-- The climb needs no more turns than there are keys. -/
theorem climb_isSome (node : String) (parents : ParentMap) :
    (climb node parents parents.keys.length).isSome = true := by
  have among (upper : String) (link : parents.parentOf node = some upper) :
      ∀ behind ∈ [node], behind ∈ parents.keys := by
    intro behind there
    rw [List.mem_singleton.mp there]
    exact parents.mem_keys node upper link
  obtain ⟨result, stopped⟩ := Chains.climb_stops parents.mem_keys parents.keys.length
    (List.nodup_singleton node)
    (fun more => (Option.ne_none_iff_exists'.mp more).elim among)
    (Nat.le_of_eq (Nat.zero_add _).symm)
  exact Option.isSome_iff_exists.mpr ⟨result, stopped⟩

/-- What `ancestors_of` raises at a node that it has seen. -/
def parentCycle (node current : String) : Error :=
  .value s!"Cycle detected in parent chain at {quoted current} (from {quoted node})."

/-- `ancestors_of`. -/
def ancestorsOf (node : String) (parents : ParentMap) : Except Error (List String) :=
  ((climb node parents parents.keys.length).get (climb_isSome node parents)).mapError
    (parentCycle node)

/-- `path_to_root`. -/
def pathToRoot (node : String) (parents : ParentMap) : Except Error (List String) :=
  (ancestorsOf node parents).map (node :: ·)

/-- `depth_of`. -/
def depthOf (node : String) (parents : ParentMap) : Except Error Nat :=
  (ancestorsOf node parents).map List.length

/-- The loop of `descendants_of`, a turn for each level. -/
def search (node : String) (children : ChildMap) (turns : Nat) :
    Option (Except String (List String)) :=
  Levels.search children.childrenOf node turns [] (children.childrenOf node)

/-- The search needs no more turns than there are children, and one. -/
theorem search_isSome (node : String) (children : ChildMap) :
    (search node children (children.nodes.length + 1)).isSome = true := by
  have enough : children.nodes.length < ([] : List String).length + (children.nodes.length + 1) := by
    rw [List.length_nil]
    omega
  have stops : ∃ result, search node children (children.nodes.length + 1) = some result :=
    Levels.search_stops children.mem_nodes _ List.nodup_nil (List.nil_subset _)
      (children.mem_nodes node) enough
  exact Option.isSome_iff_exists.mpr stops

/-- What `descendants_of` raises at a child that it has seen. -/
def childCycle (node child : String) : Error :=
  .value s!"Cycle detected in child graph at {quoted child} (under {quoted node})."

/-- `descendants_of`. -/
def descendantsOf (node : String) (children : ChildMap) : Except Error (List String) :=
  ((search node children (children.nodes.length + 1)).get (search_isSome node children)).mapError
    (childCycle node)

/-- `subtree_of`. -/
def subtreeOf (node : String) (children : ChildMap) : Except Error (List String) :=
  (descendantsOf node children).map (node :: ·)

/-- `leaves_under`. -/
def leavesUnder (node : String) (children : ChildMap) : Except Error (List String) :=
  (subtreeOf node children).map (List.filter fun name => (children.childrenOf name).isEmpty)

/-- What the service reads of one tree: `get_branch` and `fetch_branch_subtree_rows`, or those of
the groups. -/
structure TreeReadGateway (Row : Type) where
  /-- One row, if there is one. -/
  get : String → Option Row
  /-- The rows of a subtree, or of the whole tree. -/
  fetchSubtreeRows : Option String → List Row

section Service

variable {Row : Type} (tree : TreeDoctype Row)

/-- `FrappeTreeReadGateway`, for one tree. -/
def frappeTreeReadGateway (rows : List Row) : TreeReadGateway Row :=
  ⟨tree.rowByName rows, tree.fetchSubtreeRows rows⟩

/-- `parent_of` of `_build_adjacency`. -/
def parentMap (rows : List Row) : ParentMap where
  keys := rows.map tree.name
  get name := (tree.rowByName rows name).map fun row => truthy (tree.parent row)
  get_eq_none name absent := by
    rw [Option.map_eq_none_iff, TreeDoctype.rowByName, List.find?_eq_none]
    intro row member same
    exact absent (List.mem_map.mpr ⟨row, member, of_decide_eq_true same⟩)

/-- `children_of` of `_build_adjacency`. -/
def childMap (rows : List Row) : ChildMap where
  keys := rows.filterMap fun row => truthy (tree.parent row)
  get name := if tree.childrenOf rows name = [] then none else some (tree.childrenOf rows name)
  get_eq_none name absent := by
    rw [if_pos]
    rw [TreeDoctype.childrenOf, List.map_eq_nil_iff, List.filter_eq_nil_iff]
    intro row member link
    exact absent (List.mem_filterMap.mpr ⟨row, member, of_decide_eq_true link⟩)

variable (gateway : TreeReadGateway Row)

/-- `_require_branch` and `_require_group`. -/
def require (name : String) : Except Error Row :=
  match gateway.get name with
  | none => .error (.value s!"{tree.doctype} {quoted name} not found.")
  | some row => .ok row

/-- `branch_ancestors` and `group_ancestors`. -/
def ancestors (name : String) : Except Error (List Row) := do
  let _ ← require tree gateway name
  let rows := gateway.fetchSubtreeRows none
  let names ← ancestorsOf name (parentMap tree rows)
  .ok (tree.rowsFor names rows)

/-- `branch_descendants` and `group_descendants`. -/
def descendants (name : String) : Except Error (List Row) := do
  let _ ← require tree gateway name
  let rows := gateway.fetchSubtreeRows (some name)
  let names ← descendantsOf name (childMap tree rows)
  .ok (tree.rowsFor names rows)

end Service

/-- `branch_ancestors`. -/
def branchAncestors (gateway : TreeReadGateway Branch) (branch : String) :
    Except Error (List Branch) := ancestors branchTree gateway branch

/-- `branch_descendants`. -/
def branchDescendants (gateway : TreeReadGateway Branch) (branch : String) :
    Except Error (List Branch) := descendants branchTree gateway branch

/-- `group_ancestors`. -/
def groupAncestors (gateway : TreeReadGateway Group) (group : String) :
    Except Error (List Group) := ancestors groupTree gateway group

/-- `group_descendants`. -/
def groupDescendants (gateway : TreeReadGateway Group) (group : String) :
    Except Error (List Group) := descendants groupTree gateway group

end FlockOs.TreeMaps
