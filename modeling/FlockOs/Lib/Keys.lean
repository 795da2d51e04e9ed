import FlockOs.Lib.Table

/-!
# Second keys of a table

A second key of the rows of a table, which a row may lack. It is unique when no two rows share it; a
row that is written keeps it so exactly when no other row has its key.
-/

namespace FlockOs.Lib.Table

variable {α κ β : Type*} {key : α → κ} {second : α → Option β}

/-- No two rows share a second key. -/
def UniqueBy (table : Table α key) (second : α → Option β) : Prop :=
  ∀ left ∈ table.rows, ∀ right ∈ table.rows, ∀ value,
    second left = some value → second right = some value → left = right

/-- No other row has the second key of a row. -/
def Unshared (table : Table α key) (second : α → Option β) (row : α) : Prop :=
  ∀ value, second row = some value →
    ∀ other ∈ table.rows, key other ≠ key row → second other ≠ some value

/-- An empty table shares nothing. -/
theorem uniqueBy_empty : (empty key).UniqueBy second := by
  simp [UniqueBy, empty]

/-- A written row keeps a second key unique exactly when no other row has its own. -/
theorem UniqueBy.wrote_iff {table next : Table α key} {row : α} (unique : table.UniqueBy second)
    (wrote : table.Wrote next row) : next.UniqueBy second ↔ table.Unshared second row := by
  have own : row ∈ next.rows := (wrote row).mpr (.inr rfl)
  constructor
  · intro kept value has other there apart shared
    have after : other ∈ next.rows := (wrote other).mpr (.inl ⟨there, apart⟩)
    exact apart (congrArg key (kept other after row own value shared has))
  · intro unshared left inLeft right inRight value hasLeft hasRight
    cases (wrote left).mp inLeft with
    | inl oldLeft =>
      cases (wrote right).mp inRight with
      | inl oldRight => exact unique left oldLeft.1 right oldRight.1 value hasLeft hasRight
      | inr new =>
        have apart := unshared value (new ▸ hasRight) left oldLeft.1 oldLeft.2
        exact absurd hasLeft apart
    | inr new =>
      cases (wrote right).mp inRight with
      | inl oldRight =>
        have apart := unshared value (new ▸ hasLeft) right oldRight.1 oldRight.2
        exact absurd hasRight apart
      | inr new' => rw [new, new']

/-- A property of the rows is kept by a row that has it. -/
theorem Wrote.every {table next : Table α key} {row : α} {holds : α → Prop}
    (wrote : table.Wrote next row) (before : ∀ other ∈ table.rows, holds other)
    (own : holds row) : ∀ other ∈ next.rows, holds other := by
  intro other there
  cases (wrote other).mp there with
  | inl old => exact before other old.1
  | inr new => exact new ▸ own

end FlockOs.Lib.Table
