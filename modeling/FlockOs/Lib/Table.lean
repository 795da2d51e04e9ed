import Mathlib.Data.List.Nodup

/-!
# Tables under a primary key

A table is a list of rows no two of which have the same key; the proof is part of the
table, so a table with a repeated key cannot be built. Rows are added under a fresh key and
replaced under their own key. The counting rules say by how much each of the two changes
the number of rows with a property.
-/

namespace FlockOs.Lib

/-- Rows in insertion order, keyed by `key`. -/
structure Table (α : Type*) {κ : Type*} (key : α → κ) where
  /-- The rows. -/
  rows : List α
  /-- No two rows have the same key. -/
  keyed : (rows.map key).Nodup

namespace Table

variable {α κ β : Type*} {key : α → κ}

/-- The table without rows. -/
def empty (key : α → κ) : Table α key := ⟨[], List.nodup_nil⟩

/-- Two tables are equal when their rows are. -/
@[ext] theorem ext {left right : Table α key} (same : left.rows = right.rows) : left = right := by
  cases left
  cases right
  cases same
  rfl

/-- Two rows of a table with the same key are one row. -/
theorem eq_of_key (table : Table α key) {left right : α} (hl : left ∈ table.rows)
    (hr : right ∈ table.rows) (same : key left = key right) : left = right :=
  List.inj_on_of_nodup_map table.keyed hl hr same

/-- The number of rows with a property. -/
def count (table : Table α key) (has : α → Bool) : Nat := table.rows.countP has

/-- A property of some row counts at least one. -/
theorem count_pos (table : Table α key) (has : α → Bool) :
    0 < table.count has ↔ ∃ row ∈ table.rows, has row = true :=
  List.countP_pos_iff

/-- A property of no row counts none. -/
theorem count_eq_zero (table : Table α key) (has : α → Bool) :
    table.count has = 0 ↔ ∀ row ∈ table.rows, ¬ has row = true :=
  List.countP_eq_zero

/-- A row is written, over the row with its key or beside the others. -/
def Wrote (table next : Table α key) (row : α) : Prop :=
  ∀ other, other ∈ next.rows ↔ (other ∈ table.rows ∧ key other ≠ key row) ∨ other = row

section Insert

/-- Append a row under a key that no row has yet. -/
def add (table : Table α key) (row : α) (fresh : key row ∉ table.rows.map key) :
    Table α key where
  rows := table.rows ++ [row]
  keyed := by
    rw [List.map_append, List.map_singleton]
    exact List.Nodup.append table.keyed (List.nodup_singleton _)
      (List.disjoint_singleton.mpr fresh)

variable {table : Table α key} {row : α} (fresh : key row ∉ table.rows.map key)

/-- The rows after an insertion. -/
@[simp] theorem mem_add {other : α} :
    other ∈ (table.add row fresh).rows ↔ other ∈ table.rows ∨ other = row := by
  simp [add]

/-- An inserted row is written. -/
theorem wrote_add : table.Wrote (table.add row fresh) row := by
  intro other
  rw [mem_add]
  refine or_congr_left (iff_self_and.mpr fun inside same => fresh ?_)
  exact List.mem_map.mpr ⟨other, inside, same⟩

/-- An inserted row is counted once. -/
theorem count_add (has : α → Bool) :
    (table.add row fresh).count has = table.count has + if has row then 1 else 0 := by
  simp [count, add, List.countP_append, List.countP_singleton]

end Insert

section Keyed

variable [DecidableEq κ]

/-- The row under a key. -/
def find? (table : Table α key) (wanted : κ) : Option α :=
  table.rows.find? fun row => key row = wanted

/-- A row is found under a key exactly when it is a row with that key. -/
theorem find?_eq_some (table : Table α key) {wanted : κ} {row : α} :
    table.find? wanted = some row ↔ row ∈ table.rows ∧ key row = wanted := by
  constructor
  · intro found
    exact ⟨List.mem_of_find?_eq_some found, by simpa using List.find?_some found⟩
  · rintro ⟨inside, same⟩
    cases search : table.find? wanted with
    | none =>
      have absent := List.find?_eq_none.mp search row inside
      simp [same] at absent
    | some other =>
      have otherKey : key other = wanted := by simpa using List.find?_some search
      rw [table.eq_of_key (List.mem_of_find?_eq_some search) inside (otherKey.trans same.symm)]

/-- No row is found under a key that no row has. -/
theorem find?_eq_none (table : Table α key) {wanted : κ} :
    table.find? wanted = none ↔ ∀ row ∈ table.rows, key row ≠ wanted := by
  simp [find?]

/-- Put a row in the place of the row with its key. -/
def replace (table : Table α key) (row : α) : Table α key where
  rows := table.rows.map fun old => if key old = key row then row else old
  keyed := by
    have same : (table.rows.map fun old => if key old = key row then row else old).map key =
        table.rows.map key := by
      rw [List.map_map]
      apply List.map_congr_left
      intro old _
      simp only [Function.comp_apply]
      split
      · rename_i matched
        exact matched.symm
      · rfl
    rw [same]
    exact table.keyed

/-- Drop the row under a key. -/
def remove (table : Table α key) (wanted : κ) : Table α key where
  rows := table.rows.filter fun row => key row ≠ wanted
  keyed := (List.filter_sublist.map key).nodup table.keyed

/-- The rows that are left. -/
theorem mem_remove {table : Table α key} {wanted : κ} {row : α} :
    row ∈ (table.remove wanted).rows ↔ row ∈ table.rows ∧ key row ≠ wanted := by
  rw [remove, List.mem_filter, decide_eq_true_iff]

omit [DecidableEq κ] in
/-- Change every row and keep its key. -/
def revise (table : Table α key) (change : α → α) (kept : ∀ row, key (change row) = key row) :
    Table α key where
  rows := table.rows.map change
  keyed := by
    have same : (table.rows.map change).map key = table.rows.map key := by
      rw [List.map_map]
      exact List.map_congr_left fun row _ => kept row
    rw [same]
    exact table.keyed

variable {table : Table α key} {row old : α}

/-- The rows after a replacement. -/
theorem mem_replace (found : table.find? (key row) = some old) {other : α} :
    other ∈ (table.replace row).rows ↔
      other = row ∨ (other ∈ table.rows ∧ key other ≠ key row) := by
  obtain ⟨inside, same⟩ := table.find?_eq_some.mp found
  simp only [replace, List.mem_map]
  constructor
  · rintro ⟨before, member, rfl⟩
    split
    · exact .inl rfl
    · rename_i differs
      exact .inr ⟨member, differs⟩
  · rintro (rfl | ⟨member, differs⟩)
    · exact ⟨old, inside, if_pos same⟩
    · exact ⟨other, member, if_neg differs⟩

/-- A replacement is written. -/
theorem wrote_replace (found : table.find? (key row) = some old) :
    table.Wrote (table.replace row) row :=
  fun _ => (mem_replace found).trans or_comm

/-- A replacement keeps the rows with other keys. -/
theorem mem_replace_of_ne {other : α} (member : other ∈ table.rows)
    (differs : key other ≠ key row) : other ∈ (table.replace row).rows :=
  List.mem_map.mpr ⟨other, member, if_neg differs⟩

/-- A replacement is found under its key. -/
theorem find?_replace_self (found : table.find? (key row) = some old) :
    (table.replace row).find? (key row) = some row :=
  (table.replace row).find?_eq_some.mpr ⟨(mem_replace found).mpr (.inl rfl), rfl⟩

/-- A replacement leaves the other keys alone. -/
theorem find?_replace_ne (table : Table α key) (row : α) {wanted : κ}
    (differs : wanted ≠ key row) : (table.replace row).find? wanted = table.find? wanted := by
  change (table.rows.map fun old => if key old = key row then row else old).find?
    (fun other => key other = wanted) = table.rows.find? fun other => key other = wanted
  induction table.rows with
  | nil => rfl
  | cons head tail ih =>
    rw [List.map_cons, List.find?_cons, List.find?_cons, ih]
    by_cases matched : key head = key row
    · rw [if_pos matched, matched, decide_eq_false (Ne.symm differs)]
    · rw [if_neg matched]

/-- A replacement is counted in the place of the replaced row. -/
theorem count_replace (has : α → Bool) (found : table.find? (key row) = some old) :
    (table.replace row).count has + (if has old then 1 else 0) =
      table.count has + if has row then 1 else 0 := by
  obtain ⟨inside, same⟩ := table.find?_eq_some.mp found
  obtain ⟨before, after, split⟩ := List.append_of_mem inside
  have keyed := table.keyed
  rw [split, List.map_append, List.map_cons, List.nodup_append, List.nodup_cons] at keyed
  obtain ⟨-, ⟨notAfter, -⟩, apart⟩ := keyed
  have keepBefore : ∀ other ∈ before, key other ≠ key row := fun other member matched =>
    apart (key other) (List.mem_map_of_mem member) (key old) List.mem_cons_self
      (matched.trans same.symm)
  have keepAfter : ∀ other ∈ after, key other ≠ key row := fun other member matched =>
    notAfter (List.mem_map.mpr ⟨other, member, matched.trans same.symm⟩)
  have mapBefore : (before.map fun other => if key other = key row then row else other) =
      before := by
    conv_rhs => rw [← List.map_id before]
    exact List.map_congr_left fun other member => if_neg (keepBefore other member)
  have mapAfter : (after.map fun other => if key other = key row then row else other) =
      after := by
    conv_rhs => rw [← List.map_id after]
    exact List.map_congr_left fun other member => if_neg (keepAfter other member)
  simp only [count, replace, split, List.map_append, List.map_cons, if_pos same, mapBefore,
    mapAfter, List.countP_append, List.countP_cons]
  omega

end Keyed

end Table

end FlockOs.Lib
