import FlockOs.Traversal
import FlockOs.TreeMaps
import FlockOs.Verif.Subtrees

/-!
# Traversals end

On every finite map the loops of `ancestors_of` and `descendants_of` stop. They raise exactly where
the chain of parents visits a node twice, and where two paths of children lead to one node.
-/

namespace FlockOs.TreeMaps

open Lib Directory Trees

variable {node : String}

/-- Whenever the climb stops it has found what `ancestors_of` returns or raises. -/
theorem ancestorsOf_eq {parents : ParentMap} {turns : Nat} {result : Except String (List String)}
    (stopped : climb node parents turns = some result) :
    ancestorsOf node parents = result.mapError (parentCycle node) := by
  obtain ⟨found, own⟩ := Option.isSome_iff_exists.mp (climb_isSome node parents)
  have late := Chains.climb_mono turns parents.keys.length stopped
  have late' := Chains.climb_mono parents.keys.length turns own
  rw [Nat.add_comm, late] at late'
  cases late'
  rw [ancestorsOf]
  simp only [own, Option.get_some]

/-- Whenever the search stops it has found what `descendants_of` returns or raises. -/
theorem descendantsOf_eq {children : ChildMap} {turns : Nat}
    {result : Except String (List String)} (stopped : search node children turns = some result) :
    descendantsOf node children = result.mapError (childCycle node) := by
  obtain ⟨found, own⟩ := Option.isSome_iff_exists.mp (search_isSome node children)
  have late := Levels.search_mono turns (children.nodes.length + 1) stopped
  have late' := Levels.search_mono (children.nodes.length + 1) turns own
  rw [Nat.add_comm, late] at late'
  cases late'
  rw [descendantsOf]
  simp only [own, Option.get_some]

/-- The climb stops, with the chain that `ancestors_of` returns or the cycle that it raises. -/
theorem climb_cases (node : String) (parents : ParentMap) :
    (∃ current, climb node parents parents.keys.length = some (.error current) ∧
      ancestorsOf node parents = .error (parentCycle node current) ∧
      Chains.Revisits parents.parentOf node) ∨
    ∃ chain, climb node parents parents.keys.length = some (.ok chain) ∧
      ancestorsOf node parents = .ok chain ∧ ¬Chains.Revisits parents.parentOf node ∧
      Chains.Behind parents.parentOf node chain none := by
  obtain ⟨found, own⟩ := Option.isSome_iff_exists.mp (climb_isSome node parents)
  obtain ⟨climbed, raises⟩ := Chains.climb_start own
  have same := ancestorsOf_eq own
  cases found with
  | error current => exact Or.inl ⟨current, own, same, raises.mp ⟨current, rfl⟩⟩
  | ok chain => exact Or.inr ⟨chain, own, same, climbed.not_revisits, climbed⟩

/-- The search stops, with the nodes that `descendants_of` returns or the cycle that it raises. -/
theorem search_cases (node : String) (children : ChildMap) :
    (∃ child, search node children (children.nodes.length + 1) = some (.error child) ∧
      descendantsOf node children = .error (childCycle node child) ∧
      Levels.Meets children.childrenOf node) ∨
    ∃ reached, search node children (children.nodes.length + 1) = some (.ok reached) ∧
      descendantsOf node children = .ok reached ∧ ¬Levels.Meets children.childrenOf node ∧
      Levels.Searched children.childrenOf node (.ok reached) := by
  obtain ⟨found, own⟩ := Option.isSome_iff_exists.mp (search_isSome node children)
  obtain ⟨searched, raises⟩ := Levels.search_children own
  have same := descendantsOf_eq own
  cases found with
  | error child => exact Or.inl ⟨child, own, same, raises.mp ⟨child, rfl⟩⟩
  | ok reached =>
    refine Or.inr ⟨reached, own, same, fun meets => ?_, searched⟩
    obtain ⟨_, raised⟩ := raises.mpr meets
    cases raised

/-- On every finite map of parents the loop of `ancestors_of` stops after some number of turns; it
raises exactly where the chain of parents visits some node twice, and returns everywhere else. On
every finite map of children the loop of `descendants_of` stops; it raises exactly where two
different paths lead from the node to one node, and returns everywhere else. -/
theorem traversals_end (node : String) (parents : ParentMap) (children : ChildMap) :
    ((∃ turns result, climb node parents turns = some result) ∧
      ((∃ raised, ancestorsOf node parents = .error raised) ↔
        Chains.Revisits parents.parentOf node) ∧
      ((∃ chain, ancestorsOf node parents = .ok chain) ↔
        ¬Chains.Revisits parents.parentOf node)) ∧
    (∃ turns result, search node children turns = some result) ∧
      ((∃ raised, descendantsOf node children = .error raised) ↔
        Levels.Meets children.childrenOf node) ∧
      ((∃ reached, descendantsOf node children = .ok reached) ↔
        ¬Levels.Meets children.childrenOf node) := by
  constructor
  · rcases climb_cases node parents with ⟨current, own, same, revisits⟩ | ⟨chain, own, same, none, _⟩
    · refine ⟨⟨_, _, own⟩, iff_of_true ⟨_, same⟩ revisits, iff_of_false ?_ (not_not.mpr revisits)⟩
      rintro ⟨_, returned⟩
      rw [same] at returned
      cases returned
    · refine ⟨⟨_, _, own⟩, iff_of_false ?_ none, iff_of_true ⟨_, same⟩ none⟩
      rintro ⟨_, raised⟩
      rw [same] at raised
      cases raised
  · rcases search_cases node children with ⟨child, own, same, meets⟩ | ⟨reached, own, same, none, _⟩
    · refine ⟨⟨_, _, own⟩, iff_of_true ⟨_, same⟩ meets, iff_of_false ?_ (not_not.mpr meets)⟩
      rintro ⟨_, returned⟩
      rw [same] at returned
      cases returned
    · refine ⟨⟨_, _, own⟩, iff_of_false ?_ none, iff_of_true ⟨_, same⟩ none⟩
      rintro ⟨_, raised⟩
      rw [same] at raised
      cases raised

/-- The children that a map of rows has are those of the rows. -/
theorem childrenOf_childMap {Row : Type} (tree : TreeDoctype Row) (rows : List Row) :
    (childMap tree rows).childrenOf = tree.childrenOf rows := by
  funext name
  show (if tree.childrenOf rows name = [] then none else some _).getD [] = _
  split
  next childless => rw [childless, Option.getD_none]
  next => rw [Option.getD_some]

/-- The parent that a map of rows has for a name is the one in its row. -/
theorem parentOf_parentMap {Row : Type} (tree : TreeDoctype Row) (rows : List Row)
    (name : String) : (parentMap tree rows).parentOf name =
      (tree.rowByName rows name).bind fun row => truthy (tree.parent row) := by
  show ((tree.rowByName rows name).map fun row => truthy (tree.parent row)).join = _
  cases tree.rowByName rows name <;> rfl

/-- The subtree over some rows is `subtree_of` over the map of them. -/
theorem subtreeOver_eq {Row : Type} (tree : TreeDoctype Row) (rows : List Row) (node : String) :
    tree.subtreeOver rows node = subtreeOf node (childMap tree rows) := by
  obtain ⟨result, stopped⟩ :
      ∃ result, Levels.search (tree.childrenOf rows) node (rows.length + 1) [] (tree.childrenOf rows node) = some result := by
    apply Levels.search_stops child_listed _ List.nodup_nil (List.nil_subset _) (child_listed node)
    rw [List.length_nil, Nat.zero_add]
    exact names_lt_turns
  have found : search node (childMap tree rows) (rows.length + 1) = some result := by
    rw [search, childrenOf_childMap]
    exact stopped
  rw [TreeDoctype.subtreeOver, Trees.subtreeOf, Trees.descendantsOf, subtreeOf,
    Levels.walk_of_search _ stopped, descendantsOf_eq found]
  cases result <;> rfl

/-- A climb that stops is the loop over the groups. -/
theorem climb_of_stopped {above : String → Option String} : ∀ (turns : Nat) {chain : List String}
    {current : Option String} {result : Except String (List String)},
    Chains.climb above node turns chain current = some result →
    Traversal.climb above node turns chain current = result.mapError (parentCycle node)
  | turns, chain, none, result, stopped => by
    cases turns <;> cases stopped <;> rfl
  | 0, _, some _, _, stopped => by cases stopped
  | turns + 1, chain, some current, result, stopped => by
    rw [Chains.climb] at stopped
    rw [Traversal.climb]
    split at stopped
    next again =>
      cases stopped
      rw [if_pos again]
      rfl
    next fresh =>
      rw [if_neg fresh]
      exact climb_of_stopped turns stopped

/-- The ancestors of a group are `ancestors_of` over the map of the groups. -/
theorem ancestorsOf_tables (tables : Tables) (node : String) :
    Traversal.ancestorsOf tables node =
      ancestorsOf node (parentMap groupTree tables.groups.rows) := by
  have same : Traversal.parentOf tables = (parentMap groupTree tables.groups.rows).parentOf := by
    funext name
    exact (parentOf_parentMap groupTree tables.groups.rows name).symm
  obtain ⟨result, own⟩ := Option.isSome_iff_exists.mp
    (climb_isSome node (parentMap groupTree tables.groups.rows))
  have turns : (parentMap groupTree tables.groups.rows).keys.length = tables.groups.rows.length :=
    List.length_map _
  rw [ancestorsOf_eq own, Traversal.ancestorsOf, same]
  rw [climb, turns] at own
  rw [climb_of_stopped _ own]

end FlockOs.TreeMaps
