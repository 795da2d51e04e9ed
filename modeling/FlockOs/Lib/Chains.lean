import Mathlib.Data.List.Nodup
import Mathlib.Data.List.Perm.Subperm
import Mathlib.Logic.Relation

/-!
# Chains of links

Every node has one link at most. The climb along the links from a node stops where they end and at
the first node that it has met before, so on finitely many links it always stops, and it reports a
node exactly where the chain visits one twice.
-/

namespace FlockOs.Lib.Chains

variable {α : Type} (above : α → Option α)

/-- The node that is so many links up. -/
def visit (start : α) : Nat → Option α
  | 0 => some start
  | steps + 1 => (visit start steps).bind above

/-- The chain visits some node twice. -/
def Revisits (start : α) : Prop :=
  ∃ first second name, first < second ∧ visit above start first = some name ∧
    visit above start second = some name

variable {above}

/-- Links taken from a node that was visited are links taken from the start. -/
theorem visit_add {start name : α} {steps : Nat} (visited : visit above start steps = some name) :
    ∀ more, visit above start (steps + more) = visit above name more
  | 0 => visited
  | more + 1 => by
    rw [← Nat.add_assoc, visit, visit_add visited more, visit]

/-- The first link is that of the start. -/
theorem visit_succ (start : α) (steps : Nat) :
    visit above start (steps + 1) = (above start).bind fun upper => visit above upper steps := by
  cases link : above start with
  | none =>
    induction steps with
    | zero => exact link
    | succ steps ended =>
      rw [visit, ended]
      rfl
  | some upper =>
    have first : visit above start 1 = some upper := link
    rw [Nat.add_comm, visit_add first]
    rfl

/-- Past the end of a chain there is nothing. -/
theorem visit_none {start : α} {steps : Nat} (ended : visit above start steps = none) (more : Nat) :
    visit above start (steps + more) = none := by
  induction more with
  | zero => exact ended
  | succ more ih =>
    rw [← Nat.add_assoc, visit, ih]
    rfl

/-- What is reached by links is visited. -/
theorem reflTransGen_iff_visit {start name : α} :
    Relation.ReflTransGen (fun lower upper => above lower = some upper) start name ↔
      ∃ steps, visit above start steps = some name := by
  constructor
  · intro reached
    induction reached with
    | refl => exact ⟨0, rfl⟩
    | tail _ link visited =>
      obtain ⟨steps, there⟩ := visited
      exact ⟨steps + 1, by rw [visit, there]; exact link⟩
  · rintro ⟨steps, there⟩
    induction steps generalizing name with
    | zero =>
      cases there
      exact .refl
    | succ steps ih =>
      obtain ⟨lower, visited, link⟩ := Option.bind_eq_some_iff.mp there
      exact (ih visited).tail link

/-- What is reached by a link or more is visited past the start. -/
theorem transGen_iff_visit {start name : α} :
    Relation.TransGen (fun lower upper => above lower = some upper) start name ↔
      ∃ steps, visit above start (steps + 1) = some name := by
  rw [Relation.TransGen.tail'_iff]
  constructor
  · rintro ⟨lower, reached, link⟩
    obtain ⟨steps, there⟩ := reflTransGen_iff_visit.mp reached
    exact ⟨steps, by rw [visit, there]; exact link⟩
  · rintro ⟨steps, there⟩
    obtain ⟨lower, visited, link⟩ := Option.bind_eq_some_iff.mp there
    exact ⟨lower, reflTransGen_iff_visit.mpr ⟨steps, visited⟩, link⟩

/-- A chain that visits a node twice has come to a node that is above itself. -/
theorem Revisits.cycle {start : α} (revisits : Revisits above start) :
    ∃ name, Relation.TransGen (fun lower upper => above lower = some upper) name name := by
  obtain ⟨first, second, name, before, visited, again⟩ := revisits
  obtain ⟨steps, apart⟩ : ∃ steps, second = first + (steps + 1) := ⟨second - first - 1, by omega⟩
  rw [apart, visit_add visited] at again
  exact ⟨name, transGen_iff_visit.mpr ⟨steps, again⟩⟩

/-- The nodes behind a climb are those visited so far, each once. -/
structure Behind (above : α → Option α) (start : α) (chain : List α) (current : Option α) :
    Prop where
  visited : ∀ steps ≤ chain.length, visit above start steps = (start :: chain)[steps]?
  ahead : visit above start (chain.length + 1) = current
  distinct : (start :: chain).Nodup

/-- A new node is left behind. -/
theorem Behind.next {start current : α} {chain : List α}
    (behind : Behind above start chain (some current)) (fresh : current ∉ start :: chain) :
    Behind above start (chain ++ [current]) (above current) := by
  constructor
  · intro steps within
    rw [List.length_append, List.length_singleton] at within
    by_cases early : steps ≤ chain.length
    · rw [behind.visited steps early, ← List.cons_append, List.getElem?_append_left]
      rw [List.length_cons]
      omega
    · have last : steps = chain.length + 1 := by omega
      rw [last, behind.ahead, ← List.cons_append, List.getElem?_append_right (by simp)]
      simp
  · rw [List.length_append, List.length_singleton, visit, behind.ahead]
    rfl
  · rw [← List.cons_append]
    exact List.Nodup.append behind.distinct (List.nodup_singleton current)
      (List.disjoint_singleton.mpr fresh)

/-- Behind a climb that ended are all nodes of the chain. -/
theorem Behind.visit_eq {start : α} {chain : List α} (behind : Behind above start chain none)
    (steps : Nat) : visit above start steps = (start :: chain)[steps]? := by
  by_cases within : steps ≤ chain.length
  · exact behind.visited steps within
  · have past := visit_none behind.ahead (steps - (chain.length + 1))
    rw [Nat.add_sub_cancel' (by omega)] at past
    rw [past, List.getElem?_eq_none]
    rw [List.length_cons]
    omega

/-- A chain that ended visits no node twice. -/
theorem Behind.not_revisits {start : α} {chain : List α} (behind : Behind above start chain none) :
    ¬Revisits above start := by
  rintro ⟨first, second, name, before, visited, again⟩
  rw [behind.visit_eq] at visited again
  obtain ⟨bound, found⟩ := List.getElem?_eq_some_iff.mp visited
  obtain ⟨bound', found'⟩ := List.getElem?_eq_some_iff.mp again
  have same := (behind.distinct.getElem_inj_iff).mp (found.trans found'.symm)
  omega

/-- A node is behind a climb that ended when a link or more lead to it. -/
theorem Behind.mem_iff {start : α} {chain : List α} (behind : Behind above start chain none)
    {name : α} : name ∈ chain ↔
      Relation.TransGen (fun lower upper => above lower = some upper) start name := by
  rw [transGen_iff_visit, List.mem_iff_getElem?]
  refine exists_congr fun steps => ?_
  rw [behind.visit_eq, List.getElem?_cons_succ]

/-- The chain of a node above is the rest of the chain of the node below. -/
theorem Behind.drop_eq {lower upper : α} {chain chain' : List α} {steps : Nat}
    (behind : Behind above lower chain none) (behind' : Behind above upper chain' none)
    (visited : visit above lower steps = some upper) :
    upper :: chain' = (lower :: chain).drop steps := by
  refine List.ext_getElem? fun more => ?_
  rw [List.getElem?_drop, ← behind.visit_eq, ← behind'.visit_eq, visit_add visited]

/-- At the start of a climb nothing is behind but the start. -/
theorem Behind.start (start : α) : Behind above start [] (above start) := by
  refine ⟨fun steps none => ?_, rfl, List.nodup_singleton start⟩
  rw [Nat.le_zero.mp none]
  rfl

variable [DecidableEq α]

/-- The climb behind the nodes of a chain, a turn for each link: the chain, or the first node that
was met before; nothing when it has run out of turns. -/
def climb (above : α → Option α) (start : α) :
    Nat → List α → Option α → Option (Except α (List α))
  | _, chain, none => some (.ok chain)
  | 0, _, some _ => none
  | turns + 1, chain, some current =>
    if current = start ∨ current ∈ chain then some (.error current)
    else climb above start turns (chain ++ [current]) (above current)

/-- What a climb says of its chain. -/
def Climbed (above : α → Option α) (start : α) : Except α (List α) → Prop
  | .ok chain => Behind above start chain none
  | .error _ => Revisits above start

/-- A climb that stops has come to the end of the chain or to a node that it visited before. -/
theorem climb_spec {start : α} : ∀ (turns : Nat) {chain : List α} {current : Option α}
    {result : Except α (List α)}, Behind above start chain current →
    climb above start turns chain current = some result → Climbed above start result
  | turns, chain, none, result, behind, stopped => by
    have same : some (Except.ok chain) = some result := by
      rw [← stopped]
      cases turns <;> rfl
    cases same
    exact behind
  | 0, _, some _, _, _, stopped => by cases stopped
  | turns + 1, chain, some current, result, behind, stopped => by
    rw [climb] at stopped
    split at stopped
    next again =>
      cases stopped
      obtain ⟨index, inside, found⟩ := List.mem_iff_getElem.mp (List.mem_cons.mpr again)
      have before : index < chain.length + 1 := inside
      refine ⟨index, chain.length + 1, current, before, ?_, behind.ahead⟩
      rw [behind.visited index (by omega), List.getElem?_eq_getElem inside, found]
    next fresh =>
      have new : current ∉ start :: chain := fun there => fresh (List.mem_cons.mp there)
      exact climb_spec turns (behind.next new) stopped

/-- On finitely many links a climb with a turn for each of them stops. -/
theorem climb_stops {start : α} {nodes : List α}
    (listed : ∀ lower upper, above lower = some upper → lower ∈ nodes) :
    ∀ (turns : Nat) {chain : List α} {current : Option α}, (start :: chain).Nodup →
      (current ≠ none → ∀ behind ∈ start :: chain, behind ∈ nodes) →
      nodes.length ≤ chain.length + turns →
      ∃ result, climb above start turns chain current = some result
  | turns, chain, none, _, _, _ => ⟨.ok chain, by cases turns <;> rfl⟩
  | 0, chain, some current, distinct, inside, enough => by
    have room := (distinct.subperm (inside (Option.some_ne_none current))).length_le
    rw [List.length_cons] at room
    omega
  | turns + 1, chain, some current, distinct, inside, enough => by
    rw [climb]
    split
    next => exact ⟨_, rfl⟩
    next fresh =>
      have new : current ∉ start :: chain := fun there => fresh (List.mem_cons.mp there)
      refine climb_stops listed turns ?_ ?_ ?_
      · rw [← List.cons_append]
        exact List.Nodup.append distinct (List.nodup_singleton current)
          (List.disjoint_singleton.mpr new)
      · intro more behind there
        rw [← List.cons_append] at there
        rcases List.mem_append.mp there with old | last
        · exact inside (Option.some_ne_none current) behind old
        · rw [List.mem_singleton.mp last]
          obtain ⟨upper, link⟩ := Option.ne_none_iff_exists'.mp more
          exact listed current upper link
      · rw [List.length_append, List.length_singleton]
        omega

/-- More turns do not change what a climb has found. -/
theorem climb_mono {start : α} : ∀ (turns more : Nat) {chain : List α} {current : Option α}
    {result : Except α (List α)}, climb above start turns chain current = some result →
    climb above start (turns + more) chain current = some result
  | turns, more, chain, none, result, stopped => by
    cases turns <;> cases more <;> exact stopped
  | 0, _, _, some _, _, stopped => by cases stopped
  | turns + 1, more, chain, some current, result, stopped => by
    rw [Nat.succ_add, climb]
    rw [climb] at stopped
    split at stopped
    next again => rw [if_pos again, stopped]
    next fresh =>
      rw [if_neg fresh]
      exact climb_mono turns more stopped

/-- A climb from the link of a node reports a node exactly where the chain visits one twice. -/
theorem climb_start {start : α} {turns : Nat} {result : Except α (List α)}
    (stopped : climb above start turns [] (above start) = some result) :
    Climbed above start result ∧
      ((∃ again, result = .error again) ↔ Revisits above start) := by
  have climbed := climb_spec turns (Behind.start start) stopped
  refine ⟨climbed, ?_⟩
  cases result with
  | error again => exact iff_of_true ⟨again, rfl⟩ climbed
  | ok chain =>
    exact iff_of_false (fun ⟨_, same⟩ => by cases same) (Behind.not_revisits climbed)

end FlockOs.Lib.Chains
