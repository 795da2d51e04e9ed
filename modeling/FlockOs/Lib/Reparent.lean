import Mathlib.Logic.Relation

/-!
# Moving a subtree

Links from parents to children in which no node has two parents, and the links after one node got
another parent or none. What lies below a top is the same before and after exactly where the node
stayed outside, or inside and not below itself.
-/

namespace FlockOs.Lib

variable {α : Type*} {link : α → α → Prop} {node top : α} {target : Option α}

/-- The links when one node has another parent, or none. -/
def Moved (link : α → α → Prop) (node : α) (target : Option α) (upper lower : α) : Prop :=
  (lower = node ∧ target = some upper) ∨ (lower ≠ node ∧ link upper lower)

/-- A node is below a top, or is the top. -/
abbrev Reaches (link : α → α → Prop) : α → α → Prop := Relation.ReflTransGen link

/-- A parent that is given is below a top. -/
def Under (link : α → α → Prop) (top : α) (target : Option α) : Prop :=
  ∃ upper, target = some upper ∧ Reaches link top upper

/-- No way from a top leads back to it. -/
def Rooted (link : α → α → Prop) (top : α) : Prop := ¬ Relation.TransGen link top top

/-- A node that gets another parent stays outside of what lies below a top, or inside and not below
itself. -/
def Undisturbed (link : α → α → Prop) (node : α) (target : Option α) (top : α) : Prop :=
  (¬ Reaches link top node ∧ ¬ Under link top target) ∨
    (Reaches link top node ∧ ¬ Under link node target ∧ (node = top ∨ Under link top target))

/-- Two tops have the same nodes below them, and neither lies below itself. -/
def SameBelow (before after : α → α → Prop) (top : α) : Prop :=
  Rooted after top ∧ ∀ lower, Reaches after top lower ↔ Reaches before top lower

/-- A way back to a top ends with a link to it. -/
theorem rooted_iff : Rooted link top ↔ ∀ upper, Reaches link top upper → ¬ link upper top := by
  constructor
  · exact fun rooted upper down back => rooted (Relation.TransGen.tail'_iff.mpr ⟨upper, down, back⟩)
  · intro none cycle
    obtain ⟨upper, down, back⟩ := Relation.TransGen.tail'_iff.mp cycle
    exact none upper down back

/-- Links that agree on what lies below a top lead to the same nodes. -/
theorem sameBelow_of_agree {after : α → α → Prop} (rooted : Rooted link top)
    (agree : ∀ upper, Reaches link top upper → ∀ lower, after upper lower ↔ link upper lower) :
    SameBelow link after top := by
  have back {lower : α} (down : Reaches after top lower) : Reaches link top lower := by
    induction down with
    | refl => exact .refl
    | tail _ step ih => exact ih.tail ((agree _ ih _).mp step)
  refine ⟨rooted_iff.mpr fun upper down step => ?_, fun lower => ⟨back, fun down => ?_⟩⟩
  · exact rooted_iff.mp rooted upper (back down) ((agree upper (back down) top).mp step)
  · induction down with
    | refl => exact .refl
    | tail before step ih => exact ih.tail ((agree _ before _).mpr step)

/-- A node that stays outside leaves what lies below a top. -/
theorem sameBelow_of_outside (rooted : Rooted link top) (outside : ¬ Reaches link top node)
    (away : ¬ Under link top target) : SameBelow link (Moved link node target) top := by
  refine sameBelow_of_agree rooted fun upper down lower => ?_
  constructor
  · intro step
    cases step with
    | inl moved => exact absurd ⟨upper, moved.2, down⟩ away
    | inr kept => exact kept.2
  · intro step
    refine .inr ⟨fun same => outside ?_, step⟩
    exact same ▸ down.tail step

/-- A top that gets a parent that is not below it keeps what lies below it. -/
theorem sameBelow_of_top (rooted : Rooted link top) (away : ¬ Under link top target) :
    SameBelow link (Moved link top target) top := by
  refine sameBelow_of_agree rooted fun upper down lower => ?_
  constructor
  · intro step
    cases step with
    | inl moved => exact absurd ⟨upper, moved.2, down⟩ away
    | inr kept => exact kept.2
  · intro step
    refine .inr ⟨fun same => ?_, step⟩
    exact rooted_iff.mp rooted upper down (same ▸ step)

/-- What lies below a top and not below the node is still below the top. -/
theorem reaches_moved_beside {lower : α} (down : Reaches link top lower)
    (beside : ¬ Reaches link node lower) : Reaches (Moved link node target) top lower := by
  induction down with
  | refl => exact .refl
  | @tail upper lower _ step ih =>
    have above : ¬ Reaches link node upper := fun inside => beside (inside.tail step)
    exact (ih above).tail (.inr ⟨fun same => beside (same ▸ .refl), step⟩)

/-- A node that moves inside, and not below itself, leaves what lies below the top. -/
theorem sameBelow_of_inside (rooted : Rooted link top) (inside : Reaches link top node)
    (beside : ¬ Under link node target) (under : Under link top target) (differs : node ≠ top) :
    SameBelow link (Moved link node target) top := by
  obtain ⟨parent, given, down⟩ := under
  have there : Reaches (Moved link node target) top node :=
    (reaches_moved_beside down fun below => beside ⟨parent, given, below⟩).tail (.inl ⟨rfl, given⟩)
  have below {lower : α} (low : Reaches link node lower) :
      Reaches (Moved link node target) top lower := by
    induction low with
    | refl => exact there
    | @tail upper lower _ step ih =>
      by_cases same : lower = node
      · rw [same]
        exact there
      · exact ih.tail (.inr ⟨same, step⟩)
  have back {lower : α} (low : Reaches (Moved link node target) top lower) :
      Reaches link top lower := by
    induction low with
    | refl => exact .refl
    | tail _ step ih =>
      cases step with
      | inl moved => exact moved.1 ▸ inside
      | inr kept => exact ih.tail kept.2
  refine ⟨rooted_iff.mpr fun upper low step => ?_, fun lower => ⟨back, fun low => ?_⟩⟩
  · cases step with
    | inl moved => exact differs moved.1.symm
    | inr kept => exact rooted_iff.mp rooted upper (back low) kept.2
  · by_cases within : Reaches link node lower
    · exact below within
    · exact reaches_moved_beside low within

variable (single : ∀ upper other lower, link upper lower → link other lower → upper = other)
include single

/-- What the moved links reach from a top above the node does not lie below the node when the node
was moved below itself. -/
theorem beside_of_moved_below (rooted : Rooted link top) (inside : Reaches link top node)
    (under : Under link node target) (differs : node ≠ top) {lower : α}
    (low : Reaches (Moved link node target) top lower) : ¬ Reaches link node lower := by
  induction low with
  | refl =>
    intro cycle
    exact rooted ((Relation.reflTransGen_iff_eq_or_transGen.mp inside).elim
      (fun same => absurd same.symm (Ne.symm differs)) fun steps => steps.trans_left cycle)
  | @tail upper lower _ step ih =>
    intro below
    cases step with
    | inl moved =>
      obtain ⟨parent, given, down⟩ := under
      have same := Option.some.inj (given.symm.trans moved.2)
      exact ih (same ▸ down)
    | inr kept =>
      cases below.cases_tail with
      | inl same => exact kept.1 same
      | inr last =>
        obtain ⟨other, down, parent⟩ := last
        exact ih (single _ _ _ parent kept.2 ▸ down)

/-- What lies below a top is the same before and after exactly where the node stayed outside, or
inside and not below itself. -/
theorem sameBelow_moved_iff (rooted : Rooted link top) :
    SameBelow link (Moved link node target) top ↔ Undisturbed link node target top := by
  constructor
  · intro ⟨stays, same⟩
    by_cases inside : Reaches link top node
    · refine .inr ⟨inside, ?_, ?_⟩
      · intro under
        by_cases differs : node = top
        · obtain ⟨parent, given, down⟩ := under
          rw [differs] at down
          exact rooted_iff.mp stays parent ((same parent).mpr down) (.inl ⟨differs.symm, given⟩)
        · exact beside_of_moved_below single rooted inside under differs ((same node).mpr inside) .refl
      · by_cases differs : node = top
        · exact .inl differs
        · cases ((same node).mpr inside).cases_tail with
          | inl own => exact absurd own differs
          | inr last =>
            obtain ⟨upper, down, step⟩ := last
            cases step with
            | inl moved => exact .inr ⟨upper, moved.2, (same upper).mp down⟩
            | inr kept => exact absurd rfl kept.1
    · refine .inl ⟨inside, fun ⟨parent, given, down⟩ => inside ?_⟩
      exact (same node).mp (((same parent).mpr down).tail (.inl ⟨rfl, given⟩))
  · intro either
    cases either with
    | inl outside => exact sameBelow_of_outside rooted outside.1 outside.2
    | inr within =>
      obtain ⟨inside, beside, rest⟩ := within
      by_cases differs : node = top
      · rw [differs] at beside ⊢
        exact sameBelow_of_top rooted beside
      · exact sameBelow_of_inside rooted inside beside (rest.resolve_left differs) differs

end FlockOs.Lib
