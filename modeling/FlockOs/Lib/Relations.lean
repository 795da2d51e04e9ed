import FlockOs.Lib.Tally
import Mathlib.Data.List.MinMax

/-!
# Joined rows

Tables are lists of rows. A join pairs the rows of two tables under a condition; rows are counted
by their pairs, and deleted or changed where they have a partner. The rows of a table are grouped
by a key.
-/

namespace FlockOs.Lib

variable {ρ σ κ ν : Type}

/-- `SELECT COUNT(*) FROM lefts INNER JOIN rights ON …`: the number of pairs. -/
def joinCount (on : ρ → σ → Bool) (lefts : List ρ) (rights : List σ) : Nat :=
  (lefts.map fun left => rights.countP (on left)).sum

/-- `DELETE lefts FROM lefts INNER JOIN rights ON …`: the rows without a partner stay. -/
def deleteJoined (on : ρ → σ → Bool) (lefts : List ρ) (rights : List σ) : List ρ :=
  lefts.filter fun left => !rights.any (on left)

/-- `UPDATE lefts INNER JOIN rights ON … SET …`: the rows with a partner change. -/
def updateJoined (on : ρ → σ → Bool) (change : ρ → σ → ρ) (lefts : List ρ) (rights : List σ) :
    List ρ :=
  lefts.map fun left => ((rights.find? (on left)).map (change left)).getD left

/-- Rows stay or have a partner. -/
theorem length_deleteJoined (on : ρ → σ → Bool) (lefts : List ρ) (rights : List σ) :
    lefts.countP (fun left => rights.any (on left)) + (deleteJoined on lefts rights).length =
      lefts.length := by
  rw [deleteJoined, ← List.countP_eq_length_filter,
    List.length_eq_countP_add_countP fun left => rights.any (on left)]
  simp only [Bool.not_eq_true, Bool.decide_eq_false]

/-- There are at least as many pairs as rows with a partner. -/
theorem joined_le_joinCount (on : ρ → σ → Bool) (lefts : List ρ) (rights : List σ) :
    lefts.countP (fun left => rights.any (on left)) ≤ joinCount on lefts rights := by
  induction lefts with
  | nil => exact Nat.le_refl 0
  | cons left lefts ih =>
    rw [List.countP_cons, joinCount, List.map_cons, List.sum_cons, Nat.add_comm]
    refine Nat.add_le_add ?_ ih
    split
    next partnered =>
      obtain ⟨right, member, joined⟩ := List.any_eq_true.mp partnered
      exact List.countP_pos_iff.mpr ⟨right, member, joined⟩
    next => exact Nat.zero_le _

/-- There are as many pairs as rows with a partner exactly when no row has two partners. -/
theorem joinCount_eq_joined_iff (on : ρ → σ → Bool) (lefts : List ρ) (rights : List σ) :
    joinCount on lefts rights = lefts.countP (fun left => rights.any (on left)) ↔
      ∀ left ∈ lefts, rights.countP (on left) ≤ 1 := by
  induction lefts with
  | nil => exact iff_of_true rfl nofun
  | cons left lefts ih =>
    have fewer := joined_le_joinCount on lefts rights
    rw [List.forall_mem_cons, ← ih, joinCount, List.map_cons, List.sum_cons, ← joinCount,
      List.countP_cons]
    split
    next partnered =>
      obtain ⟨right, member, joined⟩ := List.any_eq_true.mp partnered
      have some : 0 < rights.countP (on left) := List.countP_pos_iff.mpr ⟨right, member, joined⟩
      omega
    next alone =>
      have none : rights.countP (on left) = 0 := by
        refine List.countP_eq_zero.mpr fun right member joined => alone ?_
        exact List.any_eq_true.mpr ⟨right, member, joined⟩
      omega

/-- Rows that are apart make no pairs. -/
theorem joinCount_eq_zero {on : ρ → σ → Bool} {lefts : List ρ} {rights : List σ}
    (apart : ∀ left ∈ lefts, ∀ right ∈ rights, on left right = false) :
    joinCount on lefts rights = 0 := by
  refine List.sum_eq_zero_iff_forall_eq_nat.mpr ?_
  intro count member
  obtain ⟨left, inside, rfl⟩ := List.mem_map.mp member
  exact List.countP_eq_zero.mpr fun right there =>
    Bool.eq_false_iff.mp (apart left inside right there)

/-- Without pairs every row stays. -/
theorem deleteJoined_of_none {on : ρ → σ → Bool} {lefts : List ρ} {rights : List σ}
    (none : joinCount on lefts rights = 0) : deleteJoined on lefts rights = lefts := by
  have alone := Nat.le_zero.mp ((joined_le_joinCount on lefts rights).trans (Nat.le_of_eq none))
  refine List.filter_eq_self.mpr fun left member => ?_
  rw [Bool.not_eq_true']
  exact Bool.eq_false_iff.mpr (List.countP_eq_zero.mp alone left member)

/-- Where the rows have different keys, a row joins with at most one of them under its key. -/
theorem countP_keyed_le_one {key : ρ → κ} {rows : List ρ} (keys : (rows.map key).Nodup)
    {on : ρ → Bool} {value : κ} (keyed : ∀ row ∈ rows, on row = true → key row = value) :
    rows.countP on ≤ 1 := by
  rw [List.countP_eq_length_filter]
  have distinct : ((rows.filter on).map key).Nodup := keys.sublist (List.filter_sublist.map key)
  have same : ∀ row ∈ rows.filter on, key row = value := fun row member =>
    keyed row (List.mem_filter.mp member).1 (List.mem_filter.mp member).2
  match rows.filter on, distinct, same with
  | [], _, _ => exact Nat.zero_le 1
  | [_], _, _ => exact Nat.le_refl 1
  | first :: second :: rest, distinct, same =>
    obtain ⟨here, later⟩ := List.forall_mem_cons.mp same
    have agrees := (later second List.mem_cons_self).trans here.symm
    exact absurd (List.mem_map.mpr ⟨second, List.mem_cons_self, agrees⟩)
      (List.nodup_cons.mp distinct).1

section Least

variable [LinearOrder ν] [DecidableEq κ] (key : ρ → κ) (name : ρ → ν)

/-- A row that no row of its key precedes. -/
def leastOf (rows : List ρ) (row : ρ) : Bool :=
  rows.all fun other => key other = key row → name row ≤ name other

variable {key name}

/-- No row of its key precedes a least row. -/
theorem leastOf_iff {rows : List ρ} {row : ρ} :
    leastOf key name rows row = true ↔
      ∀ other ∈ rows, key other = key row → name row ≤ name other := by
  rw [leastOf, List.all_eq_true]
  exact forall₂_congr fun _ _ => decide_eq_true_iff

variable (key name) in
/-- Every key has a least row. -/
theorem exists_leastOf {rows : List ρ} {row : ρ} (member : row ∈ rows) :
    ∃ least ∈ rows, key least = key row ∧ leastOf key name rows least = true := by
  have own : row ∈ rows.filter fun other => key other = key row :=
    List.mem_filter.mpr ⟨member, decide_eq_true rfl⟩
  cases found : (rows.filter fun other => key other = key row).argmin name with
  | none =>
    rw [List.argmin_eq_none.mp found] at own
    cases own
  | some least =>
    obtain ⟨inside, same⟩ := List.mem_filter.mp (List.argmin_mem found)
    have agrees := of_decide_eq_true same
    refine ⟨least, inside, agrees, leastOf_iff.mpr fun other among alike => ?_⟩
    exact List.le_of_mem_argmin
      (List.mem_filter.mpr ⟨among, decide_eq_true (alike.trans agrees)⟩) found

/-- With unique names a key has one least row. -/
theorem leastOf_unique {rows : List ρ} (unique : (rows.map name).Nodup) {row other : ρ}
    (member : row ∈ rows) (there : other ∈ rows) (least : leastOf key name rows row = true)
    (lowest : leastOf key name rows other = true) (same : key row = key other) : row = other := by
  have below := leastOf_iff.mp least other there same.symm
  have above := leastOf_iff.mp lowest row member same
  exact List.inj_on_of_nodup_map unique member there (le_antisymm below above)

variable (key) in
/-- The least rows have each key once. -/
theorem nodup_leasts {rows : List ρ} (unique : (rows.map name).Nodup) :
    ((rows.filter (leastOf key name rows)).map key).Nodup := by
  refine List.Nodup.map_on ?_ ((List.Nodup.of_map name unique).filter _)
  intro row member other there same
  obtain ⟨inside, least⟩ := List.mem_filter.mp member
  obtain ⟨among, lowest⟩ := List.mem_filter.mp there
  exact leastOf_unique unique inside among least lowest same

/-- Where keys are unique every row is least. -/
theorem leastOf_of_nodup {rows : List ρ} (keys : (rows.map key).Nodup) {row : ρ}
    (member : row ∈ rows) : leastOf key name rows row = true := by
  refine leastOf_iff.mpr fun other there same => ?_
  rw [List.inj_on_of_nodup_map keys there member same]

/-- Where keys are unique every row is alone with its key. -/
theorem alone_of_nodup {rows : List ρ} (keys : (rows.map key).Nodup) {row : ρ}
    (member : row ∈ rows) : rows.countP (fun other => key other = key row) = 1 :=
  Nat.le_antisymm (countP_keyed_le_one keys fun _ _ same => of_decide_eq_true same)
    (List.countP_pos_iff.mpr ⟨row, member, decide_eq_true rfl⟩)

/-- A row that is alone with its key is all that its key has. -/
theorem filter_of_alone {rows : List ρ} {row : ρ} (member : row ∈ rows)
    (alone : rows.countP (fun other => key other = key row) = 1) :
    rows.filter (fun other => key other = key row) = [row] := by
  rw [List.countP_eq_length_filter] at alone
  obtain ⟨only, single⟩ := List.length_eq_one_iff.mp alone
  have own : row ∈ rows.filter fun other => key other = key row :=
    List.mem_filter.mpr ⟨member, decide_eq_true rfl⟩
  rw [single, List.mem_singleton] at own
  rw [single, own]

/-- A row that is alone with its key is least. -/
theorem leastOf_of_alone {rows : List ρ} {row : ρ} (member : row ∈ rows)
    (alone : rows.countP (fun other => key other = key row) = 1) :
    leastOf key name rows row = true := by
  refine leastOf_iff.mpr fun other there same => ?_
  have own : other ∈ rows.filter fun other => key other = key row :=
    List.mem_filter.mpr ⟨there, decide_eq_true same⟩
  rw [filter_of_alone member alone, List.mem_singleton] at own
  rw [own]

/-- A key with a row that is not least has several rows. -/
theorem several_of_not_least {rows : List ρ} {row least : ρ} (member : row ∈ rows)
    (there : least ∈ rows) (same : key least = key row) (apart : least ≠ row) :
    1 < rows.countP fun other => key other = key row := by
  by_contra few
  have some : 0 < rows.countP fun other => key other = key row :=
    List.countP_pos_iff.mpr ⟨row, member, decide_eq_true rfl⟩
  have own : least ∈ rows.filter fun other => key other = key row :=
    List.mem_filter.mpr ⟨there, decide_eq_true same⟩
  rw [filter_of_alone member (by omega), List.mem_singleton] at own
  exact apart own

end Least

end FlockOs.Lib
