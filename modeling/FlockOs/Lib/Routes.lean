import FlockOs.Lib.Levels

/-!
# Routes through a graph of children

A route names a place in the list of children at each step. The search by levels reports a node
exactly where two routes lead to one node, whatever the graph, and on finitely many children it
always stops.
-/

namespace FlockOs.Lib.Levels

variable {α : Type}

/-- The nodes that are so many steps below a node, once for each way to them. -/
def levelAt (childrenOf : α → List α) (node : α) : Nat → List α
  | 0 => [node]
  | depth + 1 => (levelAt childrenOf node depth).flatMap childrenOf

/-- The levels down to a depth. -/
def upTo (childrenOf : α → List α) (node : α) (depth : Nat) : List α :=
  (List.range (depth + 1)).flatMap (levelAt childrenOf node)

/-- The node to which a route leads: at each step it names the place of a child. -/
def follow (childrenOf : α → List α) (node : α) (route : List Nat) : Option α :=
  route.foldlM (fun name place => (childrenOf name)[place]?) node

/-- Two routes lead to one node; the empty one leads to the node itself. -/
def Meets (childrenOf : α → List α) (node : α) : Prop :=
  ∃ first second name, first ≠ second ∧ follow childrenOf node first = some name ∧
    follow childrenOf node second = some name

/-- The routes of a length, with the nodes to which they lead. -/
def routes (childrenOf : α → List α) (node : α) : Nat → List (List Nat × α)
  | 0 => [([], node)]
  | depth + 1 => (routes childrenOf node depth).flatMap fun route =>
      (childrenOf route.2).zipIdx.map fun child => (route.1 ++ [child.2], child.1)

variable {childrenOf : α → List α} {node : α}

/-- The levels down to a depth are those above it and its own. -/
theorem upTo_succ (depth : Nat) :
    upTo childrenOf node (depth + 1) =
      upTo childrenOf node depth ++ levelAt childrenOf node (depth + 1) := by
  rw [upTo, List.range_succ, List.flatMap_append, ← upTo]
  exact congrArg _ (List.append_nil _)

/-- A node of a level is one of the levels down to it. -/
theorem mem_upTo {name : α} {depth : Nat} :
    name ∈ upTo childrenOf node depth ↔ ∃ level ≤ depth, name ∈ levelAt childrenOf node level := by
  rw [upTo, List.mem_flatMap]
  exact exists_congr fun level => and_congr_left fun _ => by rw [List.mem_range]; omega

/-- Below an empty level there is nothing. -/
theorem levelAt_nil {depth : Nat} (ended : levelAt childrenOf node depth = []) (more : Nat) :
    levelAt childrenOf node (depth + more) = [] := by
  induction more with
  | zero => exact ended
  | succ more ih =>
    rw [← Nat.add_assoc, levelAt, ih]
    rfl

/-- The last step of a route. -/
theorem follow_snoc (route : List Nat) (place : Nat) :
    follow childrenOf node (route ++ [place]) =
      (follow childrenOf node route).bind fun name => (childrenOf name)[place]? := by
  rw [follow, List.foldlM_append]
  exact congrArg _ (funext fun name => bind_pure _)

/-- The routes of a length are those that lead to a node. -/
theorem mem_routes {depth : Nat} {route : List Nat} {name : α} :
    (route, name) ∈ routes childrenOf node depth ↔
      route.length = depth ∧ follow childrenOf node route = some name := by
  induction depth generalizing route name with
  | zero =>
    rw [routes, List.mem_singleton, List.length_eq_zero_iff, Prod.mk.injEq]
    refine and_congr_right fun same => ?_
    rw [same]
    exact eq_comm.trans (Option.some_inj (a := node)).symm
  | succ depth ih =>
    rw [routes, List.mem_flatMap]
    constructor
    · rintro ⟨⟨before, upper⟩, member, step⟩
      obtain ⟨⟨child, place⟩, listed, same⟩ := List.mem_map.mp step
      obtain ⟨length, led⟩ := ih.mp member
      obtain ⟨routeEq, nameEq⟩ := Prod.mk.inj same
      rw [List.mem_zipIdx_iff_getElem?] at listed
      rw [← routeEq, ← nameEq, follow_snoc, led]
      exact ⟨by rw [List.length_append, length, List.length_singleton], listed⟩
    · rintro ⟨length, led⟩
      have some : route ≠ [] := by
        rintro rfl
        cases length
      rw [← List.dropLast_append_getLast some, follow_snoc] at led
      obtain ⟨upper, before, listed⟩ := Option.bind_eq_some_iff.mp led
      refine ⟨(route.dropLast, upper), ih.mpr ⟨?_, before⟩, List.mem_map.mpr
        ⟨(name, route.getLast some), List.mem_zipIdx_iff_getElem?.mpr listed, ?_⟩⟩
      · rw [List.length_dropLast, length, Nat.add_sub_cancel]
      · rw [List.dropLast_append_getLast some]

/-- The routes of a length lead to the nodes of the level. -/
theorem map_snd_routes (depth : Nat) :
    (routes childrenOf node depth).map Prod.snd = levelAt childrenOf node depth := by
  induction depth with
  | zero => rfl
  | succ depth ih =>
    rw [routes, levelAt, ← ih, List.map_flatMap, List.flatMap_map]
    congr 1
    funext route
    rw [List.map_map]
    exact List.zipIdx_map_fst _ _

/-- No route is listed twice. -/
theorem nodup_routes (depth : Nat) : ((routes childrenOf node depth).map Prod.fst).Nodup := by
  induction depth with
  | zero => exact List.nodup_singleton _
  | succ depth ih =>
    rw [routes, List.map_flatMap, List.nodup_flatMap]
    have places (route : List Nat × α) :
        ((childrenOf route.2).zipIdx.map fun child => (route.1 ++ [child.2], child.1)).map
          Prod.fst = ((childrenOf route.2).zipIdx.map Prod.snd).map (route.1 ++ [·]) := by
      rw [List.map_map, List.map_map]
      rfl
    constructor
    · intro route _
      rw [places]
      have numbered : ((childrenOf route.2).zipIdx.map Prod.snd).Nodup := by
        rw [List.zipIdx_map_snd]
        exact List.nodup_range'
      refine numbered.map fun place place' same => ?_
      exact List.singleton_injective (List.append_cancel_left same)
    · refine (List.pairwise_map.mp ih).imp fun {first second} differ => ?_
      dsimp only [Function.onFun]
      rw [places, places]
      intro route member member'
      obtain ⟨place, _, same⟩ := List.mem_map.mp member
      obtain ⟨place', _, same'⟩ := List.mem_map.mp member'
      exact differ (List.append_inj_left' (same.trans same'.symm) rfl)

/-- A node of a level is where a route of that length leads. -/
theorem mem_levelAt {name : α} {depth : Nat} :
    name ∈ levelAt childrenOf node depth ↔
      ∃ route, route.length = depth ∧ follow childrenOf node route = some name := by
  rw [← map_snd_routes, List.mem_map]
  constructor
  · rintro ⟨⟨route, _⟩, member, rfl⟩
    exact ⟨route, mem_routes.mp member⟩
  · rintro ⟨route, leads⟩
    exact ⟨(route, name), mem_routes.mpr leads, rfl⟩

/-- The levels are disjoint and each without repeats when no node is listed twice. -/
theorem nodup_upTo_iff {depth : Nat} :
    (upTo childrenOf node depth).Nodup ↔
      (∀ level ≤ depth, (levelAt childrenOf node level).Nodup) ∧
      ∀ level ≤ depth, ∀ level' ≤ depth, ∀ name, name ∈ levelAt childrenOf node level →
        name ∈ levelAt childrenOf node level' → level = level' := by
  rw [upTo, List.nodup_flatMap, List.pairwise_iff_getElem]
  simp only [List.mem_range, List.length_range, List.getElem_range, Nat.lt_succ_iff]
  refine and_congr_right fun _ => ⟨fun apart level low level' low' name there there' => ?_, ?_⟩
  · rcases Nat.lt_trichotomy level level' with before | same | after
    · exact absurd there' (apart level level' low low' before there)
    · exact same
    · exact absurd there (apart level' level low' low after there')
  · intro apart level level' low low' before name there there'
    have same := apart level low level' low' name there there'
    omega

/-- Where no node is listed twice, no two routes meet that are not longer than the levels. -/
theorem follow_inj {depth : Nat} (distinct : (upTo childrenOf node depth).Nodup)
    {first second : List Nat} {name : α} (short : first.length ≤ depth)
    (short' : second.length ≤ depth) (leads : follow childrenOf node first = some name)
    (leads' : follow childrenOf node second = some name) : first = second := by
  obtain ⟨once, apart⟩ := nodup_upTo_iff.mp distinct
  have lengths := apart _ short _ short' name (mem_levelAt.mpr ⟨first, rfl, leads⟩)
    (mem_levelAt.mpr ⟨second, rfl, leads'⟩)
  have level := once _ short
  rw [← map_snd_routes] at level
  have same := List.inj_on_of_nodup_map level (mem_routes.mpr ⟨rfl, leads⟩)
    (mem_routes.mpr ⟨lengths.symm, leads'⟩) rfl
  exact congrArg Prod.fst same

/-- Where no node is listed twice at any depth, no two routes meet. -/
theorem not_meets (distinct : ∀ depth, (upTo childrenOf node depth).Nodup) :
    ¬Meets childrenOf node := by
  rintro ⟨first, second, name, differ, leads, leads'⟩
  have deep := distinct (max first.length second.length)
  exact differ (follow_inj deep (Nat.le_max_left _ _) (Nat.le_max_right _ _) leads leads')

/-- Where some node is listed twice, two routes meet. -/
theorem meets_of_not_nodup {depth : Nat} (twice : ¬(upTo childrenOf node depth).Nodup) :
    Meets childrenOf node := by
  by_contra apart
  have unique {first second : List Nat} {name : α}
      (leads : follow childrenOf node first = some name)
      (leads' : follow childrenOf node second = some name) : first = second := by
    by_contra differ
    exact apart ⟨first, second, name, differ, leads, leads'⟩
  refine twice (nodup_upTo_iff.mpr ⟨fun level _ => ?_, fun level _ level' _ name there there' => ?_⟩)
  · rw [← map_snd_routes]
    refine List.Nodup.map_on ?_ (List.Nodup.of_map Prod.fst (nodup_routes level))
    rintro ⟨route, name⟩ member ⟨route', name'⟩ member' same
    cases same
    rw [unique (mem_routes.mp member).2 (mem_routes.mp member').2]
  · obtain ⟨route, length, leads⟩ := mem_levelAt.mp there
    obtain ⟨route', length', leads'⟩ := mem_levelAt.mp there'
    rw [← length, ← length', unique leads leads']

variable [DecidableEq α]

/-- The walk by levels, which has no result when it runs out of turns. -/
def search (childrenOf : α → List α) (node : α) :
    Nat → List α → List α → Option (Except α (List α))
  | _, seen, [] => some (.ok seen)
  | 0, _, _ :: _ => none
  | turns + 1, seen, child :: rest =>
    match level node seen (child :: rest) with
    | .error again => some (.error again)
    | .ok reached => search childrenOf node turns reached ((child :: rest).flatMap childrenOf)

/-- A search that stops has the result of the walk. -/
theorem walk_of_search : ∀ (turns : Nat) {seen frontier : List α} {result : Except α (List α)},
    search childrenOf node turns seen frontier = some result →
    walk childrenOf node turns seen frontier = result
  | turns, seen, [], result, stopped => by
    cases turns <;> exact Option.some.inj stopped
  | 0, _, _ :: _, _, stopped => by cases stopped
  | turns + 1, seen, child :: rest, result, stopped => by
    rw [search] at stopped
    show (level node seen (child :: rest)).bind _ = _
    cases found : level node seen (child :: rest) with
    | error again =>
      rw [found] at stopped
      exact Option.some.inj stopped
    | ok reached =>
      rw [found] at stopped
      exact walk_of_search turns stopped

/-- More turns do not change what a search has found. -/
theorem search_mono : ∀ (turns more : Nat) {seen frontier : List α} {result : Except α (List α)},
    search childrenOf node turns seen frontier = some result →
    search childrenOf node (turns + more) seen frontier = some result
  | turns, more, seen, [], result, stopped => by
    cases turns <;> cases more <;> exact stopped
  | 0, _, _, _ :: _, _, stopped => by cases stopped
  | turns + 1, more, seen, child :: rest, result, stopped => by
    rw [Nat.succ_add, search]
    rw [search] at stopped
    cases found : level node seen (child :: rest) with
    | error again =>
      rw [found] at stopped
      exact stopped
    | ok reached =>
      rw [found] at stopped
      exact search_mono turns more stopped

/-- What a search says of its graph. -/
def Searched (childrenOf : α → List α) (node : α) : Except α (List α) → Prop
  | .ok reached => ∃ depth, node :: reached = upTo childrenOf node depth ∧
      (node :: reached).Nodup ∧ levelAt childrenOf node (depth + 1) = []
  | .error _ => ∃ depth, ¬(upTo childrenOf node depth).Nodup

/-- A search behind some levels stops behind the last one, or at a node that was met before. -/
theorem search_spec : ∀ (turns : Nat) {depth : Nat} {seen : List α} {result : Except α (List α)},
    node :: seen = upTo childrenOf node depth → (node :: seen).Nodup →
    search childrenOf node turns seen (levelAt childrenOf node (depth + 1)) = some result →
    Searched childrenOf node result := by
  intro turns
  induction turns with
  | zero =>
    intro depth seen result behind distinct stopped
    cases ahead : levelAt childrenOf node (depth + 1) with
    | nil =>
      rw [ahead] at stopped
      cases stopped
      exact ⟨depth, behind, distinct, ahead⟩
    | cons child rest =>
      rw [ahead] at stopped
      cases stopped
  | succ turns ih =>
    intro depth seen result behind distinct stopped
    cases ahead : levelAt childrenOf node (depth + 1) with
    | nil =>
      rw [ahead] at stopped
      cases stopped
      exact ⟨depth, behind, distinct, ahead⟩
    | cons child rest =>
      have whole : node :: (seen ++ child :: rest) = upTo childrenOf node (depth + 1) := by
        rw [upTo_succ, ← behind, ahead, List.cons_append]
      rw [ahead, search] at stopped
      cases found : level node seen (child :: rest) with
      | error again =>
        rw [found] at stopped
        cases stopped
        refine ⟨depth + 1, fun once => ?_⟩
        rw [← whole] at once
        obtain ⟨absent, new⟩ := List.nodup_cons.mp once
        rw [level_ok new absent] at found
        cases found
      | ok reached =>
        rw [found] at stopped
        obtain ⟨same, absent, once⟩ := of_level found
        obtain ⟨away, fresh⟩ := List.nodup_cons.mp distinct
        have next : node :: reached = upTo childrenOf node (depth + 1) := by
          rw [same, whole]
        have new : (node :: reached).Nodup := by
          refine List.nodup_cons.mpr ⟨?_, once fresh⟩
          rw [same]
          exact fun there => (List.mem_append.mp there).elim away absent
        have further : levelAt childrenOf node (depth + 1 + 1) =
            (child :: rest).flatMap childrenOf := by rw [levelAt, ahead]
        rw [← further] at stopped
        exact ih next new stopped

/-- On finitely many children a search with a turn for each of them and one more stops. -/
theorem search_stops {nodes : List α}
    (listed : ∀ upper lower, Child childrenOf upper lower → lower ∈ nodes) :
    ∀ (turns : Nat) {seen frontier : List α}, seen.Nodup → seen ⊆ nodes → frontier ⊆ nodes →
      nodes.length < seen.length + turns →
      ∃ result, search childrenOf node turns seen frontier = some result
  | turns, seen, [], _, _, _, _ => ⟨.ok seen, by cases turns <;> rfl⟩
  | 0, seen, _ :: _, distinct, inside, _, enough =>
    absurd (distinct.subperm inside).length_le (Nat.not_le.mpr enough)
  | turns + 1, seen, child :: rest, distinct, inside, ahead, enough => by
    rw [search]
    cases found : level node seen (child :: rest) with
    | error again => exact ⟨_, rfl⟩
    | ok reached =>
      obtain ⟨whole, _, once⟩ := of_level found
      refine search_stops listed turns (once distinct) ?_ ?_ ?_
      · rw [whole]
        exact List.append_subset.mpr ⟨inside, ahead⟩
      · intro lower there
        obtain ⟨upper, _, link⟩ := List.mem_flatMap.mp there
        exact listed upper lower link
      · rw [whole, List.length_append, List.length_cons]
        omega

omit [DecidableEq α] in
/-- Levels that end without a repeat have no repeat at any depth. -/
theorem nodup_upTo_of_last {last : Nat} (distinct : (upTo childrenOf node last).Nodup)
    (ended : levelAt childrenOf node (last + 1) = []) (depth : Nat) :
    (upTo childrenOf node depth).Nodup := by
  obtain ⟨once, apart⟩ := nodup_upTo_iff.mp distinct
  have within {level : Nat} {name : α} (there : name ∈ levelAt childrenOf node level) :
      level ≤ last := by
    by_contra late
    have past := levelAt_nil ended (level - (last + 1))
    rw [Nat.add_sub_cancel' (by omega)] at past
    rw [past] at there
    cases there
  refine nodup_upTo_iff.mpr ⟨fun level _ => ?_, fun level _ level' _ name there there' =>
    apart level (within there) level' (within there') name there there'⟩
  cases names : levelAt childrenOf node level with
  | nil => exact List.nodup_nil
  | cons name rest =>
    rw [← names]
    exact once level (within (names ▸ List.mem_cons_self : name ∈ levelAt childrenOf node level))

/-- A search from the children of a node reports a node exactly where two routes meet. -/
theorem search_children {turns : Nat} {result : Except α (List α)}
    (stopped : search childrenOf node turns [] (childrenOf node) = some result) :
    Searched childrenOf node result ∧ ((∃ again, result = .error again) ↔ Meets childrenOf node) := by
  have first : levelAt childrenOf node (0 + 1) = childrenOf node := List.flatMap_singleton _ _
  rw [← first] at stopped
  have searched := search_spec turns rfl (List.nodup_singleton node) stopped
  refine ⟨searched, ?_⟩
  cases result with
  | error again =>
    obtain ⟨depth, twice⟩ := searched
    exact iff_of_true ⟨again, rfl⟩ (meets_of_not_nodup twice)
  | ok reached =>
    obtain ⟨last, whole, distinct, ended⟩ := searched
    rw [whole] at distinct
    exact iff_of_false (fun ⟨_, same⟩ => by cases same)
      (not_meets (nodup_upTo_of_last distinct ended))

end FlockOs.Lib.Levels
