import FlockOs.Directory

/-!
# The path to the root

`ancestors_of` and `path_to_root` of `trees.py`, and `group_path_to_root` of the traversal
service over the group table.
-/

namespace FlockOs.Traversal

open Directory

/-- The loop of `ancestors_of`, for a number of turns. A chain without a repeated name needs no
more turns than there are rows. -/
def climb (above : String → Option String) (node : String) :
    Nat → List String → Option String → Except Error (List String)
  | _, chain, none => .ok chain
  | 0, chain, some _ => .ok chain
  | turns + 1, chain, some current =>
    if current = node ∨ current ∈ chain then .error (.value
      s!"Cycle detected in parent chain at {quoted current} (from {quoted node}).")
    else climb above node turns (chain ++ [current]) (above current)

/-- `parent_of`: the parent of a row, when it has one. -/
def parentOf (tables : Tables) (name : String) : Option String :=
  (tables.groups.find? name).bind fun group => truthy group.parentGroup

/-- `ancestors_of`. -/
def ancestorsOf (tables : Tables) (node : String) : Except Error (List String) :=
  climb (parentOf tables) node tables.groups.rows.length [] (parentOf tables node)

/-- `path_to_root`. -/
def pathToRoot (tables : Tables) (node : String) : Except Error (List String) :=
  (ancestorsOf tables node).map (node :: ·)

/-- `group_path_to_root`: names without a row are skipped. -/
def groupPathToRoot (tables : Tables) (group : String) : Except Error (List Group) :=
  match tables.groups.find? group with
  | none => .error (.value s!"Flock Group {quoted group} not found.")
  | some _ => (pathToRoot tables group).map (List.filterMap tables.groups.find?)

end FlockOs.Traversal
