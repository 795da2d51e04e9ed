import Mathlib

/-!
# Nested sets

A forest whose nodes are numbered by a depth-first walk, once on the way down and once on the
way up. The two numbers of a node enclose those of the nodes below it, so that a row can be
tested for lying below another by two comparisons.
-/

namespace FlockOs.Lib

variable {α : Type*}

/-- A forest: nothing, or the root of a tree, the forest below it and the trees behind it. -/
inductive Forest (α : Type*) where
  | nil
  | node (root : α) (below behind : Forest α)
deriving Repr

/-- A numbered node with the name of its parent. -/
structure NestedRow (α : Type*) where
  /-- The node. -/
  name : α
  /-- Its parent. -/
  parent : Option α
  /-- The number given on the way down. -/
  lft : Int
  /-- The number given on the way up. -/
  rgt : Int
deriving DecidableEq, Repr

/-- The interval of one row lies in that of another. -/
def NestedRow.Encloses (outer inner : NestedRow α) : Prop :=
  outer.lft ≤ inner.lft ∧ inner.rgt ≤ outer.rgt

/-- A node is a child of another by the links of the rows. -/
def Linked (rows : List (NestedRow α)) (upper lower : α) : Prop :=
  ∃ row ∈ rows, row.name = lower ∧ row.parent = some upper

namespace Forest

/-- The next free number after a walk. -/
def after : Forest α → Int → Int
  | nil, next => next
  | node _ below behind, next => behind.after (below.after (next + 1) + 1)

/-- The rows of a walk in the order of the way down. -/
def number : Forest α → Option α → Int → List (NestedRow α)
  | nil, _, _ => []
  | node root below behind, parent, next =>
    ⟨root, parent, next, below.after (next + 1)⟩ ::
      (below.number (some root) (next + 1) ++
        behind.number parent (below.after (next + 1) + 1))

/-- A walk gives out numbers upwards. -/
theorem le_after (forest : Forest α) (next : Int) : next ≤ forest.after next := by
  induction forest generalizing next with
  | nil => exact Int.le_refl next
  | node root below behind ihBelow ihBehind =>
    have down := ihBelow (next + 1)
    have up := ihBehind (below.after (next + 1) + 1)
    rw [after]
    omega

/-- The numbers of a walk lie between its first one and the next free one. -/
theorem number_within {forest : Forest α} {parent : Option α} {next : Int} {row : NestedRow α}
    (member : row ∈ forest.number parent next) :
    next ≤ row.lft ∧ row.rgt < forest.after next := by
  induction forest generalizing parent next with
  | nil => cases member
  | node root below behind ihBelow ihBehind =>
    have down := below.le_after (next + 1)
    have up := behind.le_after (below.after (next + 1) + 1)
    rw [after]
    rcases List.mem_cons.mp member with rfl | later
    · refine ⟨Int.le_refl next, ?_⟩
      show below.after (next + 1) < _
      omega
    · rcases List.mem_append.mp later with inner | other
      · have bounds := ihBelow inner
        omega
      · have bounds := ihBehind other
        omega

/-- A row's number on the way down is the smaller one. -/
theorem number_lt {forest : Forest α} {parent : Option α} {next : Int} {row : NestedRow α}
    (member : row ∈ forest.number parent next) : row.lft < row.rgt := by
  induction forest generalizing parent next with
  | nil => cases member
  | node root below behind ihBelow ihBehind =>
    cases List.mem_cons.mp member with
    | inl same =>
      have down := below.le_after (next + 1)
      rw [same]
      show next < below.after (next + 1)
      omega
    | inr later => exact (List.mem_append.mp later).elim ihBelow ihBehind

/-- Every row of a walk has the parent it started from, or lies strictly in the interval of its
parent's row. -/
theorem number_parent {forest : Forest α} {parent : Option α} {next : Int} {row : NestedRow α}
    (member : row ∈ forest.number parent next) :
    row.parent = parent ∨ ∃ above ∈ forest.number parent next,
      row.parent = some above.name ∧ above.lft < row.lft ∧ row.rgt < above.rgt := by
  induction forest generalizing parent next with
  | nil => cases member
  | node root below behind ihBelow ihBehind =>
    rcases List.mem_cons.mp member with rfl | later
    · exact .inl rfl
    · rcases List.mem_append.mp later with inner | other
      · right
        rcases ihBelow inner with child | ⟨above, inside, same, within⟩
        · have bounds := number_within inner
          refine ⟨_, List.mem_cons_self, child, ?_, ?_⟩
          · show next < row.lft
            omega
          · show row.rgt < below.after (next + 1)
            omega
        · exact ⟨above, List.mem_cons_of_mem _ (List.mem_append_left _ inside), same, within⟩
      · rcases ihBehind other with child | ⟨above, inside, same, within⟩
        · exact .inl child
        · exact .inr ⟨above, List.mem_cons_of_mem _ (List.mem_append_right _ inside), same, within⟩

/-- The rows of a walk that started below a node are reached from the node over the links. -/
theorem number_reached {forest : Forest α} {upper : α} {next : Int} {row : NestedRow α}
    {rows : List (NestedRow α)} (among : forest.number (some upper) next ⊆ rows)
    (member : row ∈ forest.number (some upper) next) :
    Relation.ReflTransGen (Linked rows) upper row.name := by
  induction forest generalizing upper next with
  | nil => cases member
  | node root below behind ihBelow ihBehind =>
    have inner : below.number (some root) (next + 1) ⊆ rows := fun _ there =>
      among (List.mem_cons_of_mem _ (List.mem_append_left _ there))
    have other : behind.number (some upper) (below.after (next + 1) + 1) ⊆ rows := fun _ there =>
      among (List.mem_cons_of_mem _ (List.mem_append_right _ there))
    have first : Linked rows upper root := ⟨_, among List.mem_cons_self, rfl, rfl⟩
    rcases List.mem_cons.mp member with rfl | later
    · exact .single first
    · rcases List.mem_append.mp later with down | aside
      · exact .head first (ihBelow inner down)
      · exact ihBehind other aside

/-- A row of a walk whose interval lies in that of another one is reached from it over the links. -/
theorem reached_of_encloses {forest : Forest α} {parent : Option α} {next : Int}
    {outer inner : NestedRow α} {rows : List (NestedRow α)}
    (among : forest.number parent next ⊆ rows) (outside : outer ∈ forest.number parent next)
    (inside : inner ∈ forest.number parent next) (encloses : outer.Encloses inner) :
    Relation.ReflTransGen (Linked rows) outer.name inner.name := by
  induction forest generalizing parent next with
  | nil => cases outside
  | node root below behind ihBelow ihBehind =>
    have left : below.number (some root) (next + 1) ⊆ rows := fun _ there =>
      among (List.mem_cons_of_mem _ (List.mem_append_left _ there))
    have right : behind.number parent (below.after (next + 1) + 1) ⊆ rows := fun _ there =>
      among (List.mem_cons_of_mem _ (List.mem_append_right _ there))
    have wide := number_lt inside
    obtain ⟨above, under⟩ := encloses
    rcases List.mem_cons.mp outside with rfl | outside
    · rcases List.mem_cons.mp inside with rfl | inside
      · exact .refl
      · rcases List.mem_append.mp inside with inside | inside
        · exact number_reached left inside
        · -- A tree behind begins after the root has ended.
          have start := (number_within inside).1
          have finish : inner.rgt ≤ below.after (next + 1) := under
          omega
    · rcases List.mem_append.mp outside with outside | outside
      · have place := number_within outside
        rcases List.mem_cons.mp inside with rfl | inside
        · have start : outer.lft ≤ next := above
          omega
        · rcases List.mem_append.mp inside with inside | inside
          · exact ihBelow left outside inside
          · have start := (number_within inside).1
            omega
      · have place := (number_within outside).1
        rcases List.mem_cons.mp inside with rfl | inside
        · have start : outer.lft ≤ next := above
          have down := below.le_after (next + 1)
          omega
        · rcases List.mem_append.mp inside with inside | inside
          · have finish := (number_within inside).2
            omega
          · exact ihBehind right outside inside

end Forest

/-- The rows are those of a walk through a forest, in any order. -/
def NestedSet (rows : List (NestedRow α)) : Prop :=
  ∃ (forest : Forest α) (start : Int), rows.Perm (forest.number none start)

/-- The rows are those of a walk through a forest, in any order, with their numbers moved to other
places in the same order. -/
def NestedOrder (rows : List (NestedRow α)) : Prop :=
  ∃ (forest : Forest α) (start : Int) (place : Int → Int), StrictMono place ∧
    rows.Perm ((forest.number none start).map fun row =>
      ⟨row.name, row.parent, place row.lft, place row.rgt⟩)

/-- The numbers of a walk are in order. -/
theorem NestedSet.nestedOrder {rows : List (NestedRow α)} (nested : NestedSet rows) :
    NestedOrder rows := by
  obtain ⟨forest, start, walked⟩ := nested
  refine ⟨forest, start, id, strictMono_id, ?_⟩
  have same : (forest.number none start).map
      (fun row => (⟨row.name, row.parent, id row.lft, id row.rgt⟩ : NestedRow α)) =
        forest.number none start := List.map_id' _
  rw [same]
  exact walked

/-- A row that names a parent lies strictly in the interval of its parent's row. -/
theorem NestedOrder.within {rows : List (NestedRow α)} (nested : NestedOrder rows)
    {row : NestedRow α} (member : row ∈ rows) {name : α} (child : row.parent = some name) :
    ∃ above ∈ rows, above.name = name ∧ above.lft < row.lft ∧ row.rgt < above.rgt := by
  obtain ⟨forest, start, place, mono, walked⟩ := nested
  obtain ⟨source, numbered, same⟩ := List.mem_map.mp (walked.mem_iff.mp member)
  rw [← same] at child
  rcases Forest.number_parent numbered with root | ⟨above, inside, link, left, right⟩
  · rw [show source.parent = some name from child] at root
    cases root
  · refine ⟨_, walked.mem_iff.mpr (List.mem_map_of_mem inside), ?_, ?_⟩
    · exact Option.some.inj (link.symm.trans child)
    · rw [← same]
      exact ⟨mono left, mono right⟩

/-- A row that names a parent lies in the interval of its parent's row. -/
theorem NestedSet.encloses {rows : List (NestedRow α)} (nested : NestedSet rows)
    {row : NestedRow α} (member : row ∈ rows) {name : α} (child : row.parent = some name) :
    ∃ above ∈ rows, above.name = name ∧ above.Encloses row := by
  obtain ⟨above, inside, same, left, right⟩ := nested.nestedOrder.within member child
  exact ⟨above, inside, same, Int.le_of_lt left, Int.le_of_lt right⟩

namespace NestedOrder

variable {rows : List (NestedRow α)} (nested : NestedOrder rows)
  (keyed : (rows.map NestedRow.name).Nodup)
include nested keyed

/-- A link leads to a row that begins later. -/
theorem linked_lft {upper lower : NestedRow α} (above : upper ∈ rows) (below : lower ∈ rows)
    (link : Linked rows upper.name lower.name) : upper.lft < lower.lft ∧ lower.rgt < upper.rgt := by
  obtain ⟨row, member, same, child⟩ := link
  have own : row = lower := List.inj_on_of_nodup_map keyed member below same
  rw [own] at child
  obtain ⟨parent, inside, named, within⟩ := nested.within below child
  have found : parent = upper := List.inj_on_of_nodup_map keyed inside above named
  rw [← found]
  exact within

/-- What is reached from a row over the links is a row that lies in its interval. -/
theorem encloses_of_reached {outer : NestedRow α} (outside : outer ∈ rows) {name : α}
    (reached : Relation.ReflTransGen (Linked rows) outer.name name) :
    ∃ inner ∈ rows, inner.name = name ∧ outer.Encloses inner := by
  induction reached with
  | refl => exact ⟨outer, outside, rfl, Int.le_refl _, Int.le_refl _⟩
  | tail _ link ih =>
    obtain ⟨middle, inside, same, encloses⟩ := ih
    have ⟨row, member, named, child⟩ := link
    rw [← same, ← named] at link
    obtain ⟨left, right⟩ := nested.linked_lft keyed inside member link
    exact ⟨row, member, named, Int.le_trans encloses.1 (Int.le_of_lt left),
      Int.le_trans (Int.le_of_lt right) encloses.2⟩

/-- The interval of one row lies in that of another exactly where it is reached from it over the
links. -/
theorem encloses_iff_reached {outer inner : NestedRow α} (outside : outer ∈ rows)
    (inside : inner ∈ rows) :
    outer.Encloses inner ↔ Relation.ReflTransGen (Linked rows) outer.name inner.name := by
  constructor
  · intro encloses
    obtain ⟨forest, start, place, mono, walked⟩ := nested
    obtain ⟨first, numbered, same⟩ := List.mem_map.mp (walked.mem_iff.mp outside)
    obtain ⟨second, counted, twin⟩ := List.mem_map.mp (walked.mem_iff.mp inside)
    have narrow : first.Encloses second := by
      rw [← same, ← twin] at encloses
      exact ⟨mono.le_iff_le.mp encloses.1, mono.le_iff_le.mp encloses.2⟩
    have reached := Forest.reached_of_encloses (List.Subset.refl _) numbered counted narrow
    rw [← same, ← twin]
    refine Relation.ReflTransGen.mono (fun upper lower link => ?_) _ _ reached
    obtain ⟨row, member, named, child⟩ := link
    exact ⟨_, walked.mem_iff.mpr (List.mem_map_of_mem member), named, child⟩
  · intro reached
    obtain ⟨row, member, named, encloses⟩ := nested.encloses_of_reached keyed outside reached
    rw [List.inj_on_of_nodup_map keyed member inside named] at encloses
    exact encloses

/-- No row is reached from itself by a step. -/
theorem acyclic (name : α) : ¬ Relation.TransGen (Linked rows) name name := by
  intro cycle
  obtain ⟨row, member, named, child⟩ : ∃ row ∈ rows, row.name = name ∧
      ∃ upper, row.parent = some upper := by
    obtain ⟨upper, _, link⟩ := Relation.TransGen.tail'_iff.mp cycle
    obtain ⟨row, member, named, child⟩ := link
    exact ⟨row, member, named, upper, child⟩
  obtain ⟨next, link, reached⟩ := Relation.TransGen.head'_iff.mp cycle
  have ⟨lower, inside, same, _⟩ := link
  rw [← named, ← same] at link
  obtain ⟨left, _⟩ := nested.linked_lft keyed member inside link
  rw [← same, ← named] at reached
  have encloses := (nested.encloses_iff_reached keyed inside member).mpr reached
  exact absurd encloses.1 (by omega)

end NestedOrder

end FlockOs.Lib
