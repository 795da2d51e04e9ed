import FlockOs.Traversal
import Mathlib.Data.List.Nodup
import Mathlib.Data.List.Perm.Subperm
import Mathlib.Logic.Relation

/-!
# The way up

The climb over the parent links returns exactly where the way up from its start ends.
-/

namespace FlockOs.Traversal

open Directory

variable {above : String → Option String} {node : String}

/-- The way up from a node ends. -/
def Grounded (above : String → Option String) (node : String) : Prop :=
  Acc (fun upper lower => above lower = some upper) node

/-- A node whose way up ends is not above itself. -/
theorem Grounded.irreflexive (grounded : Grounded above node) :
    ¬ Relation.TransGen (fun upper lower => above lower = some upper) node node := by
  have steps := acc_transGen_iff.mpr grounded
  induction steps with
  | intro name _ ih => exact fun cycle => ih name cycle (grounded.inv_of_transGen cycle) cycle

/-- A climb on which every name is above all names behind it returns. -/
theorem climb_of_grounded : ∀ (turns : Nat) (chain : List String) (current : Option String),
    (∀ name, current = some name → Grounded above name ∧ ∀ behind ∈ node :: chain,
      Relation.TransGen (fun upper lower => above lower = some upper) name behind) →
    ∃ result, climb above node turns chain current = .ok result
  | _, chain, none, _ => ⟨chain, by rw [climb]⟩
  | 0, chain, some _, _ => ⟨chain, by rw [climb]⟩
  | turns + 1, chain, some name, ahead => by
    obtain ⟨grounded, behind⟩ := ahead name rfl
    have fresh : ¬ (name = node ∨ name ∈ chain) := by
      intro again
      exact grounded.irreflexive (behind name (List.mem_cons.mpr again))
    rw [climb, if_neg fresh]
    refine climb_of_grounded turns _ _ fun upper link => ⟨grounded.inv link, fun lower there => ?_⟩
    cases List.mem_append.mp (List.cons_append ▸ there) with
    | inl old => exact .head link (behind lower old)
    | inr new => exact List.mem_singleton.mp new ▸ .single link

/-- A climb that returns with turns left for every name has found the end. -/
theorem grounded_of_climb {names : List String}
    (listed : ∀ lower upper, above lower = some upper → lower ∈ names) :
    ∀ (turns : Nat) {chain result : List String} {current : Option String},
      climb above node turns chain current = .ok result → (node :: chain).Nodup →
      (current ≠ none → ∀ behind ∈ node :: chain, behind ∈ names) →
      names.length ≤ chain.length + turns → ∀ name, current = some name → Grounded above name
  | 0, chain, _, some name, _, distinct, behind, turns, _, _ => by
    have among : node :: chain ⊆ names := behind (Option.some_ne_none name)
    have room := (List.subperm_of_subset distinct among).length_le
    rw [List.length_cons] at room
    omega
  | turns + 1, chain, _, some name, ran, distinct, behind, room, other, same => by
    rw [climb] at ran
    split at ran
    · cases ran
    · next fresh =>
      cases same
      refine Acc.intro name fun upper link => ?_
      refine grounded_of_climb listed turns ran ?_ ?_ ?_ upper link
      · rw [← List.cons_append]
        exact List.Nodup.append distinct (List.nodup_singleton name)
          (List.disjoint_singleton.mpr fun there => fresh (List.mem_cons.mp there))
      · intro _ lower there
        cases List.mem_append.mp (List.cons_append ▸ there) with
        | inl old => exact behind (Option.some_ne_none name) lower old
        | inr new => exact List.mem_singleton.mp new ▸ listed name upper link
      · rw [List.length_append, List.length_singleton]
        omega

/-- The path to the root starts with the node. -/
theorem mem_pathToRoot {tables : Tables} {path : List String}
    (walked : pathToRoot tables node = .ok path) : node ∈ path := by
  rw [pathToRoot] at walked
  cases ran : ancestorsOf tables node with
  | error raised =>
    rw [ran] at walked
    cases walked
  | ok ancestors =>
    rw [ran] at walked
    cases walked
    exact List.mem_cons_self

/-- The path to the root is returned exactly where the way up ends. -/
theorem pathToRoot_ok_iff {tables : Tables} :
    (∃ path, pathToRoot tables node = .ok path) ↔ Grounded (parentOf tables) node := by
  have listed (lower upper : String) (link : parentOf tables lower = some upper) :
      lower ∈ tables.groups.rows.map Group.name := by
    obtain ⟨row, found, _⟩ := Option.bind_eq_some_iff.mp link
    obtain ⟨member, same⟩ := tables.groups.find?_eq_some.mp found
    exact List.mem_map.mpr ⟨row, member, same⟩
  rw [pathToRoot, ancestorsOf]
  constructor
  · intro ⟨path, walked⟩
    cases ran : climb (parentOf tables) node tables.groups.rows.length []
        (parentOf tables node) with
    | error raised =>
      rw [ran] at walked
      cases walked
    | ok ancestors =>
      refine Acc.intro node fun upper link => ?_
      refine grounded_of_climb listed _ ran (List.nodup_singleton node) ?_ ?_ upper link
      · intro _ lower there
        exact List.mem_singleton.mp there ▸ listed node upper link
      · rw [List.length_map, List.length_nil]
        omega
  · intro grounded
    obtain ⟨ancestors, ran⟩ := climb_of_grounded tables.groups.rows.length []
      (parentOf tables node) fun upper link =>
        ⟨grounded.inv link, fun lower there => List.mem_singleton.mp there ▸ .single link⟩
    exact ⟨node :: ancestors, by rw [ran]; rfl⟩

end FlockOs.Traversal
