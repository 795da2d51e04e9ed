import Mathlib.Data.List.Basic

/-!
# First entries

The entries that a dictionary keeps when every entry is offered under its key and only the
first one offered stays.
-/

namespace FlockOs.Lib

variable {α β : Type} [DecidableEq β]

/-- The values of a `dict` filled by `setdefault(key(row), row)`, row by row. -/
def firstPerKey (key : α → β) : List α → List α
  | [] => []
  | row :: rest => row :: (firstPerKey key rest).filter fun other => key other ≠ key row

@[simp] theorem firstPerKey_nil (key : α → β) : firstPerKey key [] = [] := rfl

/-- The rows kept come from the rows offered. -/
theorem mem_of_mem_firstPerKey {key : α → β} {row : α} :
    ∀ {rows : List α}, row ∈ firstPerKey key rows → row ∈ rows
  | head :: rest, member => by
    rcases List.mem_cons.mp member with rfl | later
    · exact List.mem_cons_self
    · exact List.mem_cons_of_mem _ (mem_of_mem_firstPerKey (List.mem_of_mem_filter later))

/-- The rows kept stay in their order. -/
theorem firstPerKey_sublist (key : α → β) : ∀ rows : List α, (firstPerKey key rows).Sublist rows
  | [] => .slnil
  | row :: rest => (List.filter_sublist.trans (firstPerKey_sublist key rest)).cons_cons row

/-- The rows kept are those with no row of their key before them. -/
theorem mem_firstPerKey_iff {key : α → β} {row : α} : ∀ {rows : List α},
    row ∈ firstPerKey key rows ↔
      ∃ before after, rows = before ++ row :: after ∧ ∀ other ∈ before, key other ≠ key row
  | [] => by simp
  | head :: rest => by
    rw [firstPerKey, List.mem_cons, List.mem_filter, mem_firstPerKey_iff, decide_eq_true_iff]
    constructor
    · rintro (rfl | ⟨⟨before, after, split, apart⟩, differs⟩)
      · exact ⟨[], rest, rfl, fun _ there => nomatch there⟩
      · rw [split]
        exact ⟨head :: before, after, rfl, List.forall_mem_cons.mpr ⟨Ne.symm differs, apart⟩⟩
    · rintro ⟨before, after, split, apart⟩
      cases before with
      | nil => exact .inl (List.cons.inj split).1.symm
      | cons first others =>
        obtain ⟨rfl, rfl⟩ := List.cons.inj split
        obtain ⟨differs, later⟩ := List.forall_mem_cons.mp apart
        exact .inr ⟨⟨others, after, rfl, later⟩, Ne.symm differs⟩

/-- No key is kept twice. -/
theorem nodup_firstPerKey (key : α → β) : ∀ rows : List α, ((firstPerKey key rows).map key).Nodup
  | [] => List.nodup_nil
  | row :: rest => by
    rw [firstPerKey, List.map_cons, List.nodup_cons]
    constructor
    · intro member
      obtain ⟨other, kept, same⟩ := List.mem_map.mp member
      have different := (List.mem_filter.mp kept).2
      simp [same] at different
    · have distinct := nodup_firstPerKey key rest
      exact distinct.sublist (List.filter_sublist.map key)

/-- Every row offered has its key kept. -/
theorem exists_mem_firstPerKey (key : α → β) {row : α} :
    ∀ {rows : List α}, row ∈ rows → ∃ first ∈ firstPerKey key rows, key first = key row
  | head :: rest, member => by
    by_cases same : key row = key head
    · exact ⟨head, List.mem_cons_self, same.symm⟩
    · have later : row ∈ rest := by
        rcases List.mem_cons.mp member with rfl | later
        · exact absurd rfl same
        · exact later
      obtain ⟨first, kept, agrees⟩ := exists_mem_firstPerKey key later
      have different : decide (key first ≠ key head) = true := by simpa [agrees] using same
      exact ⟨first, List.mem_cons_of_mem _ (List.mem_filter.mpr ⟨kept, different⟩), agrees⟩

/-- The first of each value are the values offered. -/
theorem mem_firstPerKey_id {value : β} {values : List β} :
    value ∈ firstPerKey id values ↔ value ∈ values := by
  refine ⟨mem_of_mem_firstPerKey, fun offered => ?_⟩
  obtain ⟨first, there, own⟩ := exists_mem_firstPerKey id offered
  have agrees : first = value := own
  rw [← agrees]
  exact there

/-- The first of each value that is kept stand in the order of their first places. -/
theorem pairwise_firstPerKey_filter (keep : β → Bool) : ∀ values : List β,
    (firstPerKey id (values.filter keep)).Pairwise fun first second =>
      values.idxOf first < values.idxOf second
  | [] => List.Pairwise.nil
  | value :: rest => by
    have later := pairwise_firstPerKey_filter keep rest
    have moved {values : List β} (apart : ∀ other ∈ values, other ≠ value)
        (ordered : values.Pairwise fun first second => rest.idxOf first < rest.idxOf second) :
        values.Pairwise fun first second =>
          (value :: rest).idxOf first < (value :: rest).idxOf second := by
      refine ordered.imp_of_mem fun left right before => ?_
      rw [List.idxOf_cons_ne _ (apart _ left).symm, List.idxOf_cons_ne _ (apart _ right).symm]
      exact Nat.succ_lt_succ before
    by_cases kept : keep value = true
    · rw [List.filter_cons_of_pos kept, firstPerKey]
      have apart : ∀ other ∈ (firstPerKey id (rest.filter keep)).filter fun other =>
          id other ≠ id value, other ≠ value := fun other member =>
        of_decide_eq_true (List.mem_filter.mp member).2
      refine List.pairwise_cons.mpr ⟨fun other member => ?_, moved apart (later.filter _)⟩
      rw [List.idxOf_cons_self, List.idxOf_cons_ne _ (apart other member).symm]
      exact Nat.succ_pos _
    · rw [List.filter_cons_of_neg kept]
      refine moved (fun other member same => kept ?_) later
      rw [← same]
      exact (List.mem_filter.mp (mem_of_mem_firstPerKey member)).2

/-- The first rows of renamed rows are the renamed first rows. -/
theorem firstPerKey_map {γ : Type} (key : γ → β) (rename : α → γ) : ∀ rows : List α,
    firstPerKey key (rows.map rename) = (firstPerKey (key ∘ rename) rows).map rename
  | [] => rfl
  | row :: rest => by
    rw [List.map_cons, firstPerKey, firstPerKey_map key rename rest, firstPerKey, List.map_cons,
      List.filter_map]
    rfl

/-- One more row offered is kept when no row before it has its key. -/
theorem firstPerKey_concat (key : α → β) (row : α) : ∀ rows : List α,
    firstPerKey key (rows ++ [row]) =
      firstPerKey key rows ++ if key row ∈ rows.map key then [] else [row]
  | [] => rfl
  | head :: rest => by
    rw [List.cons_append, firstPerKey, firstPerKey_concat key row rest, List.filter_append,
      firstPerKey, List.cons_append, List.map_cons]
    by_cases same : key row = key head
    · rw [if_pos (List.mem_cons.mpr (.inl same))]
      split <;> simp [same]
    · by_cases offered : key row ∈ rest.map key
      · rw [if_pos offered, if_pos (List.mem_cons_of_mem _ offered), List.filter_nil]
      · have absent : key row ∉ key head :: rest.map key :=
          List.not_mem_cons_of_ne_of_not_mem same offered
        rw [if_neg offered, if_neg absent]
        simp [same]

end FlockOs.Lib
