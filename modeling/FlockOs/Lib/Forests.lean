import FlockOs.Lib.Chains
import FlockOs.Lib.Routes

/-!
# Forests

A map of parents and a map of children that say the same, with no node above itself. The levels
below a node then hold each node once, and a node stands on the level of as many links as lead up
from it.
-/

namespace FlockOs.Lib.Forests

open Chains Levels

variable {α : Type}

/-- A map of parents and a map of children describe one forest. -/
structure IsForest (above : α → Option α) (childrenOf : α → List α) : Prop where
  linked : ∀ upper lower, lower ∈ childrenOf upper ↔ above lower = some upper
  once : ∀ upper, (childrenOf upper).Nodup
  acyclic : ∀ node, ¬Relation.TransGen (fun lower upper => above lower = some upper) node node

variable {above : α → Option α} {childrenOf : α → List α}

/-- Links that lead down in some rank never come back. -/
theorem acyclic_of_rank {rank : α → Nat}
    (down : ∀ lower upper, above lower = some upper → rank upper < rank lower) (node : α) :
    ¬Relation.TransGen (fun lower upper => above lower = some upper) node node := by
  have deeper {lower upper : α}
      (links : Relation.TransGen (fun lower upper => above lower = some upper) lower upper) :
      rank upper < rank lower := by
    induction links with
    | single link => exact down _ _ link
    | tail _ link ih => exact Nat.lt_trans (down _ _ link) ih
  exact fun around => Nat.lt_irrefl _ (deeper around)

namespace IsForest

variable (forest : IsForest above childrenOf)

include forest

/-- A chain of parents visits no node twice. -/
theorem not_revisits (node : α) : ¬Revisits above node := by
  intro revisits
  obtain ⟨name, around⟩ := revisits.cycle
  exact forest.acyclic name around

/-- A node is visited at one step only. -/
theorem visit_inj {start name : α} {first second : Nat}
    (visited : visit above start first = some name)
    (again : visit above start second = some name) : first = second := by
  rcases Nat.lt_trichotomy first second with before | same | after
  · exact absurd ⟨first, second, name, before, visited, again⟩ (forest.not_revisits start)
  · exact same
  · exact absurd ⟨second, first, name, after, again, visited⟩ (forest.not_revisits start)

/-- A node is on a level below another when as many links lead up from it to the other. -/
theorem mem_levelAt_iff {node name : α} {depth : Nat} :
    name ∈ levelAt childrenOf node depth ↔ visit above name depth = some node := by
  induction depth generalizing name with
  | zero =>
    rw [levelAt, List.mem_singleton]
    exact (Option.some_inj (a := name)).symm
  | succ depth ih =>
    rw [levelAt, List.mem_flatMap, visit_succ, Option.bind_eq_some_iff]
    refine exists_congr fun upper => ?_
    rw [ih, forest.linked, and_comm]

/-- No node is on a level twice. -/
theorem nodup_levelAt (node : α) (depth : Nat) : (levelAt childrenOf node depth).Nodup := by
  induction depth with
  | zero => exact List.nodup_singleton node
  | succ depth ih =>
    rw [levelAt, List.nodup_flatMap]
    refine ⟨fun upper _ => forest.once upper, ih.imp fun {upper upper'} differ => ?_⟩
    intro lower child child'
    have link := (forest.linked upper lower).mp child
    rw [(forest.linked upper' lower).mp child'] at link
    exact differ (Option.some.inj link).symm

/-- No node is on two levels. -/
theorem nodup_upTo (node : α) (depth : Nat) : (upTo childrenOf node depth).Nodup := by
  refine nodup_upTo_iff.mpr ⟨fun level _ => forest.nodup_levelAt node level, ?_⟩
  intro level _ level' _ name there there'
  exact forest.visit_inj (forest.mem_levelAt_iff.mp there) (forest.mem_levelAt_iff.mp there')

/-- The levels down to the last one hold what leads up to the node. -/
theorem mem_upTo_iff {node name : α} {last : Nat}
    (ended : levelAt childrenOf node (last + 1) = []) :
    name ∈ upTo childrenOf node last ↔
      Relation.ReflTransGen (fun lower upper => above lower = some upper) name node := by
  rw [mem_upTo, reflTransGen_iff_visit]
  constructor
  · rintro ⟨level, _, there⟩
    exact ⟨level, forest.mem_levelAt_iff.mp there⟩
  · rintro ⟨steps, visited⟩
    have there := forest.mem_levelAt_iff.mpr visited
    refine ⟨steps, ?_, there⟩
    by_contra late
    have past := levelAt_nil ended (steps - (last + 1))
    rw [Nat.add_sub_cancel' (by omega)] at past
    rw [past] at there
    cases there

end IsForest

/-- Nodes are listed level by level. -/
theorem pairwise_upTo {node : α} {height : α → Nat} {base : Nat}
    (leveled : ∀ level, ∀ name ∈ levelAt childrenOf node level, height name = base + level)
    (depth : Nat) : (upTo childrenOf node depth).Pairwise fun first second =>
      height first ≤ height second := by
  induction depth with
  | zero => exact List.pairwise_singleton _ _
  | succ depth ih =>
    rw [upTo_succ, List.pairwise_append]
    refine ⟨ih, List.pairwise_of_forall_mem_list fun first there second there' => ?_,
      fun first there second there' => ?_⟩
    · exact Nat.le_of_eq ((leveled _ first there).trans (leveled _ second there').symm)
    · obtain ⟨level, low, inside⟩ := mem_upTo.mp there
      rw [leveled level first inside, leveled _ second there']
      omega

/-- Two graphs with the same children below a node have the same levels below it. -/
theorem levelAt_congr {childrenOf' : α → List α} {node : α} {depth : Nat}
    (same : ∀ level < depth, ∀ name ∈ levelAt childrenOf node level,
      childrenOf' name = childrenOf name) :
    levelAt childrenOf' node depth = levelAt childrenOf node depth := by
  induction depth with
  | zero => rfl
  | succ depth ih =>
    rw [levelAt, levelAt, ih fun level low => same level (by omega)]
    exact List.flatMap_congr (same depth (Nat.lt_succ_self depth))

/-- Past the last level no more is listed. -/
theorem upTo_of_ended {node : α} {last : Nat} (ended : levelAt childrenOf node (last + 1) = [])
    (more : Nat) : upTo childrenOf node (last + more) = upTo childrenOf node last := by
  induction more with
  | zero => rfl
  | succ more ih =>
    have empty := levelAt_nil ended more
    rw [← Nat.add_assoc, upTo_succ, ih, Nat.add_right_comm, empty, List.append_nil]

/-- The whole list does not depend on which empty level is looked at. -/
theorem upTo_ended_unique {node : α} {last last' : Nat}
    (ended : levelAt childrenOf node (last + 1) = [])
    (ended' : levelAt childrenOf node (last' + 1) = []) :
    upTo childrenOf node last = upTo childrenOf node last' := by
  rcases Nat.le_total last last' with early | late
  · rw [← upTo_of_ended ended (last' - last), Nat.add_sub_cancel' early]
  · rw [← upTo_of_ended ended' (last - last'), Nat.add_sub_cancel' late]

end FlockOs.Lib.Forests
