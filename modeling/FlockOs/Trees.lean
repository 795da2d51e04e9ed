import FlockOs.Directory
import FlockOs.Lib.Levels
import FlockOs.Lib.NestedSet
import Mathlib.Data.List.Sort

/-!
# The two trees

The binding of a group to the branch of its parent, and subtrees as `trees.py` walks them over the
parent links and as `traversal.py` fetches them by the bounds of the nested set. Branches and groups
are read alike but for the names of their columns.
-/

namespace FlockOs.Trees

open Lib Directory

/-- `validate_group_branch_binding`. -/
def validateGroupBranchBinding (parentBranch : Option String) (childBranch : String) :
    Except Error Unit :=
  if childBranch = "" then .error (.value
    "Flock Group.branch is required (the group scoping anchor).")
  else match parentBranch with
    | none => .ok ()
    | some parentBranch =>
      if parentBranch ≠ childBranch then .error (.value
        s!"A child group must inherit its parent group's branch (parent branch {quoted parentBranch} != this branch {quoted childBranch}). A group subtree is branch-bound and its branch is immutable.")
      else .ok ()

/-- `descendants_of`. A turn walks a level, so that a graph without a repeated name needs no more
turns than it has names. -/
def descendantsOf (childrenOf : String → List String) (turns : Nat) (node : String) :
    Except Error (List String) :=
  match Levels.walk childrenOf node turns [] (childrenOf node) with
  | .ok reached => .ok reached
  | .error child => .error (.value
      s!"Cycle detected in child graph at {quoted child} (under {quoted node}).")

/-- `subtree_of`. -/
def subtreeOf (childrenOf : String → List String) (turns : Nat) (node : String) :
    Except Error (List String) :=
  (descendantsOf childrenOf turns node).map (node :: ·)

/-- The columns of a DocType that is a tree. -/
structure TreeDoctype (Row : Type) where
  /-- DocType. -/
  doctype : String
  /-- Primary key. -/
  name : Row → String
  /-- `parent_key`: the link to the parent. -/
  parent : Row → Option String
  /-- Left bound. -/
  lft : Row → Int
  /-- Right bound. -/
  rgt : Row → Int

/-- A row of `tabFlock Branch`. -/
structure Branch where
  /-- Primary key. -/
  name : String
  /-- Organization. -/
  organization : String := ""
  /-- Parent in the tree. -/
  parentBranch : Option String := none
  /-- Left bound of the nested set. -/
  lft : Int
  /-- Right bound of the nested set. -/
  rgt : Int
deriving DecidableEq, Repr

/-- `Flock Branch`. -/
def branchTree : TreeDoctype Branch :=
  ⟨"Flock Branch", Branch.name, Branch.parentBranch, Branch.lft, Branch.rgt⟩

/-- `Flock Group`. -/
def groupTree : TreeDoctype Group :=
  ⟨"Flock Group", Group.name, Group.parentGroup, Group.lft, Group.rgt⟩

namespace TreeDoctype

variable {Row : Type} (tree : TreeDoctype Row)

/-- A row as a numbered node. -/
def nestedRow (row : Row) : NestedRow String :=
  ⟨tree.name row, truthy (tree.parent row), tree.lft row, tree.rgt row⟩

/-- `children_of` of `_build_adjacency`: the children of a node in the order of the rows. -/
def childrenOf (rows : List Row) (node : String) : List String :=
  (rows.filter fun row => truthy (tree.parent row) = some node).map tree.name

/-- `row_by_name` of `_build_adjacency`; no two rows of a tree have one name. -/
def rowByName (rows : List Row) (name : String) : Option Row :=
  rows.find? fun row => tree.name row = name

/-- `subtree_of` over the children of some rows. -/
def subtreeOver (rows : List Row) (node : String) : Except Error (List String) :=
  subtreeOf (tree.childrenOf rows) (rows.length + 1) node

/-- `fetch_branch_subtree_rows` and `fetch_group_subtree_rows`. -/
def fetchSubtreeRows (rows : List Row) (root : Option String) : List Row :=
  match root with
  | none => rows
  | some root =>
    match tree.rowByName rows root with
    | none => []
    | some bounds => (rows.filter fun row =>
        tree.lft bounds ≤ tree.lft row ∧ tree.rgt row ≤ tree.rgt bounds).insertionSort
          fun first second => tree.lft first ≤ tree.lft second

/-- `_rows_for`. -/
def rowsFor (names : List String) (rows : List Row) : List Row :=
  names.filterMap (tree.rowByName rows)

/-- `branch_subtree` and `group_subtree`, with `_require_branch` and `_require_group`. -/
def subtree (rows : List Row) (node : String) : Except Error (List Row) :=
  match tree.rowByName rows node with
  | none => .error (.value s!"{tree.doctype} {quoted node} not found.")
  | some _ =>
    (tree.subtreeOver (tree.fetchSubtreeRows rows (some node)) node).map fun names =>
      tree.rowsFor names (tree.fetchSubtreeRows rows (some node))

end TreeDoctype

/-- `fetch_branch_subtree_rows`. -/
def fetchBranchSubtreeRows (branches : Table Branch Branch.name) (root : Option String) :
    List Branch :=
  branchTree.fetchSubtreeRows branches.rows root

/-- `fetch_group_subtree_rows`. -/
def fetchGroupSubtreeRows (tables : Tables) (root : Option String) : List Group :=
  groupTree.fetchSubtreeRows tables.groups.rows root

/-- `branch_subtree`. -/
def branchSubtree (branches : Table Branch Branch.name) (branch : String) :
    Except Error (List Branch) :=
  branchTree.subtree branches.rows branch

/-- `group_subtree`. -/
def groupSubtree (tables : Tables) (group : String) : Except Error (List Group) :=
  groupTree.subtree tables.groups.rows group

/-- The bounds of a group. -/
def boundsOf (group : Group) : Permissions.GroupBounds := ⟨group.name, group.lft, group.rgt⟩

/-- The names that `subtree_subselect` selects. -/
def subtreeSelect (tables : Tables) (ledBounds : List Permissions.GroupBounds) : List String :=
  (tables.groups.rows.filter fun group =>
    ledBounds.any fun led => decide (led.lft ≤ group.lft) && decide (group.rgt ≤ led.rgt)).map
      Group.name

end FlockOs.Trees
