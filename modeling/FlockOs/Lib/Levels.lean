import FlockOs.Lib.Reparent
import Mathlib.Data.List.Nodup
import Mathlib.Data.List.Perm.Subperm

/-!
# A walk by levels

The nodes below a node of a graph of children, level by level, with the first node that is met
twice as an error. In a graph in which no node has two parents the walk ends without an error
exactly where the first node does not lie below itself, with each node below it exactly once.
-/

namespace FlockOs.Lib.Levels

variable {α : Type} [DecidableEq α]

/-- The nodes of a level behind those that were seen, or the first of them that was seen. -/
def level (node : α) : List α → List α → Except α (List α)
  | seen, [] => .ok seen
  | seen, child :: rest =>
    if child = node ∨ child ∈ seen then .error child else level node (seen ++ [child]) rest

/-- The walk behind the nodes that were seen, a turn for each level. -/
def walk (childrenOf : α → List α) (node : α) : Nat → List α → List α → Except α (List α)
  | _, seen, [] => .ok seen
  | 0, seen, _ => .ok seen
  | turns + 1, seen, frontier => do
    let reached ← level node seen frontier
    walk childrenOf node turns reached (frontier.flatMap childrenOf)

/-- One node is a child of another. -/
def Child (childrenOf : α → List α) (upper lower : α) : Prop := lower ∈ childrenOf upper

/-- A graph in which no node is a child twice. -/
structure Arboreal (childrenOf : α → List α) : Prop where
  /-- No child is listed twice. -/
  nodup : ∀ upper, (childrenOf upper).Nodup
  /-- No node has two parents. -/
  single : ∀ upper other lower, Child childrenOf upper lower → Child childrenOf other lower →
    upper = other

variable {childrenOf : α → List α} {node : α}

omit [DecidableEq α] in
/-- The children of different nodes are listed once. -/
theorem Arboreal.flatMap_nodup (arboreal : Arboreal childrenOf) {frontier : List α}
    (nodup : frontier.Nodup) : (frontier.flatMap childrenOf).Nodup := by
  rw [List.nodup_flatMap]
  refine ⟨fun upper _ => arboreal.nodup upper, nodup.imp fun {upper other} differ => ?_⟩
  intro lower first second
  exact differ (arboreal.single _ _ _ first second)

/-- A level of new nodes is seen whole. -/
theorem level_ok : ∀ {frontier seen : List α}, (seen ++ frontier).Nodup →
    node ∉ seen ++ frontier → level node seen frontier = .ok (seen ++ frontier)
  | [], seen, _, _ => by rw [level, List.append_nil]
  | child :: rest, seen, nodup, absent => by
    have whole : seen ++ child :: rest = seen ++ [child] ++ rest :=
      (List.append_cons seen child rest)
    have fresh : ¬ (child = node ∨ child ∈ seen) := by
      rintro (own | twice)
      · exact absent (List.mem_append_right _ (own ▸ List.mem_cons_self))
      · exact (List.nodup_append.mp nodup).2.2 child twice child List.mem_cons_self rfl
    rw [whole] at nodup absent
    rw [level, if_neg fresh, level_ok nodup absent, whole]

/-- What holds of the nodes seen and of the level ahead. -/
structure Ahead (childrenOf : α → List α) (node : α) (seen frontier : List α) : Prop where
  /-- Nothing is met twice. -/
  nodup : (seen ++ frontier).Nodup
  /-- Each of them is a child of a node that was walked through. -/
  child : ∀ lower ∈ seen ++ frontier, ∃ upper ∈ node :: seen, Child childrenOf upper lower
  /-- Each of them lies below the first node. -/
  below : ∀ lower ∈ seen ++ frontier, Relation.TransGen (Child childrenOf) node lower

omit [DecidableEq α] in
/-- The next level is as new as this one. -/
theorem Ahead.next (arboreal : Arboreal childrenOf) (rooted : Rooted (Child childrenOf) node)
    {seen frontier : List α}
    (ahead : Ahead childrenOf node seen frontier) :
    Ahead childrenOf node (seen ++ frontier) (frontier.flatMap childrenOf) := by
  have later {lower : α} (there : lower ∈ frontier.flatMap childrenOf) :
      ∃ upper ∈ frontier, Child childrenOf upper lower := List.mem_flatMap.mp there
  constructor
  · have levelNodup := (List.nodup_append.mp ahead.nodup).2.1
    refine List.nodup_append.mpr ⟨ahead.nodup, arboreal.flatMap_nodup levelNodup, ?_⟩
    rintro lower early other late rfl
    obtain ⟨upper, inFrontier, link⟩ := later late
    obtain ⟨walked, inWalked, earlier⟩ := ahead.child lower early
    rw [arboreal.single _ _ _ earlier link] at inWalked
    -- The one parent of the node would be both ahead and behind.
    cases List.mem_cons.mp inWalked with
    | inl own =>
      exact rooted (own ▸ ahead.below upper (List.mem_append_right _ inFrontier))
    | inr inSeen =>
      exact (List.nodup_append.mp ahead.nodup).2.2 upper inSeen upper inFrontier rfl
  · intro lower there
    cases List.mem_append.mp there with
    | inl early =>
      obtain ⟨upper, walked, link⟩ := ahead.child lower early
      refine ⟨upper, ?_, link⟩
      rw [← List.cons_append]
      exact List.mem_append_left _ walked
    | inr late =>
      obtain ⟨upper, inFrontier, link⟩ := later late
      exact ⟨upper, List.mem_cons_of_mem _ (List.mem_append_right _ inFrontier), link⟩
  · intro lower there
    cases List.mem_append.mp there with
    | inl early => exact ahead.below lower early
    | inr late =>
      obtain ⟨upper, inFrontier, link⟩ := later late
      exact (ahead.below upper (List.mem_append_right _ inFrontier)).tail link

/-- The walk ends with the nodes seen and all that lies below the level ahead, each once, when the
turns are as many as the nodes that are still to be seen. -/
theorem walk_ok (arboreal : Arboreal childrenOf) (rooted : Rooted (Child childrenOf) node)
    {nodes : List α}
    (listed : ∀ upper lower, Child childrenOf upper lower → lower ∈ nodes) :
    ∀ (turns : Nat) {seen frontier : List α}, Ahead childrenOf node seen frontier →
      nodes.length ≤ seen.length + turns →
      ∃ reached, walk childrenOf node turns seen frontier = .ok reached ∧ reached.Nodup ∧
        ∀ lower, lower ∈ reached ↔ lower ∈ seen ∨
          ∃ upper ∈ frontier, Relation.ReflTransGen (Child childrenOf) upper lower
  | turns, seen, [], ahead, _ => by
    have nodup := ahead.nodup
    rw [List.append_nil] at nodup
    have ends : walk childrenOf node turns seen [] = .ok seen := by cases turns <;> rfl
    refine ⟨seen, ends, nodup, fun lower => ⟨.inl, ?_⟩⟩
    rintro (inSeen | ⟨_, inNone, _⟩)
    · exact inSeen
    · cases inNone
  | 0, seen, first :: rest, ahead, enough => by
    have inside : seen ++ first :: rest ⊆ nodes := fun lower there => by
      obtain ⟨upper, _, link⟩ := ahead.child lower there
      exact listed upper lower link
    have short := (ahead.nodup.subperm inside).length_le
    rw [List.length_append, List.length_cons] at short
    omega
  | turns + 1, seen, first :: rest, ahead, enough => by
    have absent : node ∉ seen ++ first :: rest := fun there =>
      rooted (ahead.below node there)
    have more : nodes.length ≤ (seen ++ first :: rest).length + turns := by
      rw [List.length_append, List.length_cons]
      omega
    obtain ⟨reached, ends, nodup, all⟩ :=
      walk_ok arboreal rooted listed turns (ahead.next arboreal rooted) more
    refine ⟨reached, ?_, nodup, fun lower => (all lower).trans ?_⟩
    · show (level node seen (first :: rest)).bind _ = _
      rw [level_ok ahead.nodup absent]
      exact ends
    · constructor
      · rintro (early | ⟨upper, late, down⟩)
        · cases List.mem_append.mp early with
          | inl inSeen => exact .inl inSeen
          | inr inFrontier => exact .inr ⟨lower, inFrontier, .refl⟩
        · obtain ⟨above, inFrontier, link⟩ := List.mem_flatMap.mp late
          exact .inr ⟨above, inFrontier, .head link down⟩
      · rintro (inSeen | ⟨upper, inFrontier, down⟩)
        · exact .inl (List.mem_append_left _ inSeen)
        · cases down.cases_head with
          | inl same => exact .inl (List.mem_append_right _ (same ▸ inFrontier))
          | inr step =>
            obtain ⟨middle, link, rest⟩ := step
            exact .inr ⟨middle, List.mem_flatMap.mpr ⟨upper, inFrontier, link⟩, rest⟩

/-- The walk from the children of a node ends with the nodes below it, each once. -/
theorem walk_children (arboreal : Arboreal childrenOf) {nodes : List α}
    (listed : ∀ upper lower, Child childrenOf upper lower → lower ∈ nodes) {turns : Nat}
    (enough : nodes.length ≤ turns) (rooted : Rooted (Child childrenOf) node) :
    ∃ reached, walk childrenOf node turns [] (childrenOf node) = .ok reached ∧
      (node :: reached).Nodup ∧
      ∀ lower, lower ∈ node :: reached ↔ Relation.ReflTransGen (Child childrenOf) node lower := by
  have start : Ahead childrenOf node [] (childrenOf node) :=
    ⟨arboreal.nodup node, fun lower there => ⟨node, List.mem_cons_self, there⟩,
      fun lower there => .single there⟩
  obtain ⟨reached, ends, nodup, all⟩ :=
    walk_ok arboreal rooted listed turns start (by rw [List.length_nil, Nat.zero_add]; exact enough)
  have below (lower : α) :
      lower ∈ reached ↔ Relation.TransGen (Child childrenOf) node lower := by
    rw [all lower, or_iff_right List.not_mem_nil]
    exact (Relation.TransGen.head'_iff (r := Child childrenOf)).symm
  refine ⟨reached, ends, List.nodup_cons.mpr ⟨?_, nodup⟩, fun lower => ?_⟩
  · exact fun there => rooted ((below node).mp there)
  · rw [List.mem_cons, below, Relation.reflTransGen_iff_eq_or_transGen]

/-- A level that was seen whole was new. -/
theorem of_level : ∀ {frontier seen reached : List α}, level node seen frontier = .ok reached →
    reached = seen ++ frontier ∧ node ∉ frontier ∧ (seen.Nodup → reached.Nodup)
  | [], seen, reached, found => by
    cases found
    exact ⟨(List.append_nil seen).symm, List.not_mem_nil, id⟩
  | child :: rest, seen, reached, found => by
    rw [level] at found
    split at found
    · cases found
    · next fresh =>
      obtain ⟨whole, absent, nodup⟩ := of_level found
      have once (distinct : seen.Nodup) : (seen ++ [child]).Nodup := by
        refine List.nodup_append.mpr ⟨distinct, List.nodup_singleton child, ?_⟩
        rintro other inSeen _ last rfl
        exact fresh (.inr (List.mem_singleton.mp last ▸ inSeen))
      refine ⟨whole.trans (List.append_assoc ..), fun there => ?_, nodup ∘ once⟩
      exact (List.mem_cons.mp there).elim (fun own => fresh (.inl own.symm)) absent

/-- More turns than there are nodes change nothing, whatever the graph. -/
theorem walk_more {nodes : List α} (listed : ∀ upper lower, Child childrenOf upper lower →
    lower ∈ nodes) (extra : Nat) : ∀ (turns : Nat) {seen frontier : List α}, seen.Nodup →
      seen ⊆ nodes → frontier ⊆ nodes → nodes.length < seen.length + turns →
      walk childrenOf node (turns + extra) seen frontier = walk childrenOf node turns seen frontier
  | turns, seen, [], _, _, _, _ => by
    cases turns with
    | zero => cases extra <;> rfl
    | succ turns =>
      rw [Nat.succ_add]
      rfl
  | 0, seen, _ :: _, nodup, inside, _, enough =>
    absurd (nodup.subperm inside).length_le (Nat.not_le.mpr enough)
  | turns + 1, seen, first :: rest, nodup, inside, ahead, enough => by
    rw [Nat.succ_add]
    show (level node seen (first :: rest)).bind _ = (level node seen (first :: rest)).bind _
    cases found : level node seen (first :: rest) with
    | error child => rfl
    | ok reached =>
      obtain ⟨whole, _, once⟩ := of_level found
      refine walk_more listed extra turns (once nodup) ?_ ?_ ?_
      · rw [whole]
        exact List.append_subset.mpr ⟨inside, ahead⟩
      · intro lower there
        obtain ⟨upper, _, child⟩ := List.mem_flatMap.mp there
        exact listed upper lower child
      · rw [whole, List.length_append, List.length_cons]
        omega

/-- A walk that ended without an error has not come back to its node and left no child out. -/
theorem closed_of_walk {nodes : List α} (listed : ∀ upper lower, Child childrenOf upper lower →
    lower ∈ nodes) : ∀ (turns : Nat) {seen frontier reached : List α}, seen.Nodup →
      seen ⊆ nodes → frontier ⊆ nodes → nodes.length < seen.length + turns → node ∉ seen →
      (∀ upper ∈ node :: seen, ∀ lower, Child childrenOf upper lower → lower ∈ seen ++ frontier) →
      walk childrenOf node turns seen frontier = .ok reached →
      node ∉ reached ∧ ∀ upper ∈ node :: reached, ∀ lower, Child childrenOf upper lower →
        lower ∈ reached
  | turns, seen, [], reached, _, _, _, _, absent, closed, ended => by
    have same : reached = seen := by cases turns <;> cases ended <;> rfl
    rw [List.append_nil] at closed
    rw [same]
    exact ⟨absent, closed⟩
  | 0, seen, _ :: _, _, nodup, inside, _, enough, _, _, _ =>
    absurd (nodup.subperm inside).length_le (Nat.not_le.mpr enough)
  | turns + 1, seen, first :: rest, reached, nodup, inside, ahead, enough, absent, closed, ended => by
    change (level node seen (first :: rest)).bind (fun levelled =>
      walk childrenOf node turns levelled ((first :: rest).flatMap childrenOf)) = _ at ended
    cases found : level node seen (first :: rest) with
    | error child =>
      rw [found] at ended
      cases ended
    | ok levelled =>
      rw [found] at ended
      obtain ⟨whole, away, once⟩ := of_level found
      have deep (lower : α) (there : lower ∈ (first :: rest).flatMap childrenOf) : lower ∈ nodes := by
        obtain ⟨upper, _, child⟩ := List.mem_flatMap.mp there
        exact listed upper lower child
      refine closed_of_walk listed turns (once nodup) ?_ deep ?_ ?_ ?_ ended
      · rw [whole]
        exact List.append_subset.mpr ⟨inside, ahead⟩
      · rw [whole, List.length_append, List.length_cons]
        omega
      · rw [whole]
        exact fun there => (List.mem_append.mp there).elim absent away
      · intro upper there lower child
        rw [whole, ← List.cons_append] at there
        cases List.mem_append.mp there with
        | inl before =>
          rw [whole]
          exact List.mem_append_left _ (closed upper before lower child)
        | inr now => exact List.mem_append_right _ (List.mem_flatMap.mpr ⟨upper, now, child⟩)

/-- A walk from the children of a node that ends without an error starts at a node that does not lie
below itself. -/
theorem rooted_of_walk {nodes : List α} (listed : ∀ upper lower, Child childrenOf upper lower →
    lower ∈ nodes) {turns : Nat} (enough : nodes.length < turns) {reached : List α}
    (ended : walk childrenOf node turns [] (childrenOf node) = .ok reached) :
    Rooted (Child childrenOf) node := by
  have start : ∀ upper ∈ [node], ∀ lower, Child childrenOf upper lower →
      lower ∈ [] ++ childrenOf node := by
    intro upper there lower child
    rw [List.mem_singleton.mp there] at child
    exact child
  obtain ⟨absent, closed⟩ := closed_of_walk listed turns List.nodup_nil (List.nil_subset _)
    (listed node) (by rw [List.length_nil, Nat.zero_add]; exact enough) List.not_mem_nil start ended
  intro cycle
  have below {lower : α} (down : Relation.TransGen (Child childrenOf) node lower) :
      lower ∈ reached := by
    induction down with
    | single child => exact closed node List.mem_cons_self _ child
    | tail _ child ih => exact closed _ (List.mem_cons_of_mem _ ih) _ child
  exact absent (below cycle)

end FlockOs.Lib.Levels
