import FlockOs.AttendanceIndexes

/-!
# The migration of the attendance tables

Both strategies leave the least row of each key, the second with the total of its key. The first
counts pairs of rows and deletes rows: the two numbers agree exactly when no key has three rows.
The second joins each row with one group, so what it counts is what it deletes.
-/

namespace FlockOs.AttendanceIndexes

open Lib

section Collapse

variable {Row Key Name : Type} [DecidableEq Key] [LinearOrder Name]

/-- A strategy loses nothing of a table: it leaves the least row of each key, as its survivor, and
no other row, makes the key unique, does nothing when it is run again, does not touch a row that is
alone with its key, and returns the number of rows that it deleted. -/
structure LosesNothing (key : Row → Key) (name : Row → Name)
    (collapse : List Row → Nat × List Row) (survivor : Row → Row) (table : List Row) : Prop where
  /-- The rows left are the survivors of the least rows. -/
  least : ∀ row, row ∈ (collapse table).2 ↔ ∃ first ∈ table,
    (∀ other ∈ table, key other = key first → name first ≤ name other) ∧ row = survivor first
  /-- Every key stays. -/
  covered : ∀ row ∈ table, ∃ left ∈ (collapse table).2, key left = key row
  /-- The key is unique. -/
  unique : ((collapse table).2.map key).Nodup
  /-- A second run is the identity. -/
  idempotent : collapse (collapse table).2 = (0, (collapse table).2)
  /-- Keys without duplicates are not touched. -/
  untouched : ∀ row ∈ table, table.countP (fun other => key other = key row) = 1 →
    row ∈ (collapse table).2
  /-- The number returned is that of the rows deleted. -/
  counted : (collapse table).1 + (collapse table).2.length = table.length

section Keep

variable {key : Row → Key} {name : Row → Name} {table : List Row}

/-- Two rows of one key, the second before the first. -/
def precedes (key : Row → Key) (name : Row → Name) (first second : Row) : Bool :=
  key first = key second ∧ name first > name second

/-- A row is preceded when it is not least. -/
theorem preceded_iff (row : Row) :
    (table.any fun other => precedes key name row other) = !leastOf key name table row := by
  rw [leastOf, List.not_all_eq_any_not]
  refine congrArg table.any (funext fun other => ?_)
  rw [← decide_not]
  refine decide_eq_decide.mpr ?_
  rw [Classical.not_imp, not_le, eq_comm]

/-- The rows that are not preceded are the least ones. -/
theorem delete_preceded :
    deleteJoined (precedes key name) table table = table.filter (leastOf key name table) := by
  refine List.filter_congr fun row _ => ?_
  rw [preceded_iff, Bool.not_not]

/-- `_collapse_keep_min_name` leaves the least rows. -/
theorem collapseKeepMinName_eq (key : Row → Key) (name : Row → Name) (table : List Row) :
    collapseKeepMinName key name table =
      (joinCount (precedes key name) table table, table.filter (leastOf key name table)) := by
  show (joinCount (precedes key name) table table,
    if joinCount (precedes key name) table table ≠ 0 then
      deleteJoined (precedes key name) table table else table) = _
  rw [← delete_preceded]
  split
  next => rfl
  next none => rw [deleteJoined_of_none (not_not.mp none)]

/-- Where keys are unique there are no pairs. -/
theorem pairs_of_nodup (keys : (table.map key).Nodup) :
    joinCount (precedes key name) table table = 0 := by
  refine joinCount_eq_zero fun row member other there => decide_eq_false ?_
  rintro ⟨same, later⟩
  rw [List.inj_on_of_nodup_map keys member there same] at later
  exact lt_irrefl _ later

variable (key name table) in
/-- The rows of a key precede a row, or follow it. -/
theorem count_key (row : Row) :
    (table.countP fun other => key other = key row) =
      table.countP (precedes key name row) +
        table.countP fun other => key other = key row ∧ name row ≤ name other := by
  rw [List.countP_eq_countP_filter_add table _ fun other => name row > name other,
    List.countP_filter, List.countP_filter]
  refine congrArg₂ _ (List.countP_congr fun other _ => ?_) (List.countP_congr fun other _ => ?_)
  · simp only [precedes, Bool.and_eq_true, decide_eq_true_eq]
    exact and_congr_left' eq_comm
  · simp

variable (key name) in
/-- A row is itself of its key. -/
theorem preceding_lt {row : Row} (member : row ∈ table) :
    table.countP (precedes key name row) < table.countP fun other => key other = key row := by
  have own : 0 < table.countP fun other => key other = key row ∧ name row ≤ name other :=
    List.countP_pos_iff.mpr ⟨row, member, decide_eq_true ⟨rfl, le_refl _⟩⟩
  have split := count_key key name table row
  omega

variable (key) in
/-- All other rows of its key precede the greatest one. -/
theorem exists_greatest (unique : (table.map name).Nodup) {row : Row} (member : row ∈ table) :
    ∃ greatest ∈ table, key greatest = key row ∧
      table.countP (precedes key name greatest) + 1 =
        table.countP fun other => key other = key row := by
  have own : row ∈ table.filter fun other => key other = key row :=
    List.mem_filter.mpr ⟨member, decide_eq_true rfl⟩
  cases found : (table.filter fun other => key other = key row).argmax name with
  | none =>
    rw [List.argmax_eq_none.mp found] at own
    cases own
  | some greatest =>
    obtain ⟨inside, same⟩ := List.mem_filter.mp (List.argmax_mem found)
    have agrees := of_decide_eq_true same
    have above : ∀ other ∈ table, key other = key row → name other ≤ name greatest :=
      fun other there alike => List.le_of_mem_argmax
        (List.mem_filter.mpr ⟨there, decide_eq_true alike⟩) found
    have once : (table.countP fun other =>
        key other = key greatest ∧ name greatest ≤ name other) = 1 := by
      refine Nat.le_antisymm ?_ (List.countP_pos_iff.mpr
        ⟨greatest, inside, decide_eq_true ⟨rfl, le_refl _⟩⟩)
      calc
        _ ≤ table.countP fun other => name other == name greatest := by
          refine List.countP_mono_left fun other there alike => ?_
          obtain ⟨alike, below⟩ := of_decide_eq_true alike
          exact beq_of_eq (le_antisymm (above other there (alike.trans agrees)) below)
        _ = (table.map name).count (name greatest) := by
          rw [List.count, List.countP_map]
          rfl
        _ ≤ 1 := List.nodup_iff_count_le_one.mp unique _
    have split := count_key key name table greatest
    refine ⟨greatest, inside, agrees, ?_⟩
    rw [agrees] at split once
    omega

/-- No row is preceded twice exactly when no key has three rows. -/
theorem preceded_once_iff (unique : (table.map name).Nodup) :
    (∀ row ∈ table, table.countP (precedes key name row) ≤ 1) ↔
      ∀ row ∈ table, (table.countP fun other => key other = key row) ≤ 2 := by
  constructor
  · intro once row member
    obtain ⟨greatest, inside, _, count⟩ := exists_greatest key unique member
    have few := once greatest inside
    omega
  · intro few row member
    have less := preceding_lt key name member
    have pair := few row member
    omega

/-- `_collapse_keep_min_name` returns the number of rows deleted exactly when no key has three
rows. -/
theorem keepMinName_counted_iff (unique : (table.map name).Nodup) :
    (collapseKeepMinName key name table).1 + (collapseKeepMinName key name table).2.length =
        table.length ↔
      ∀ row ∈ table, (table.countP fun other => key other = key row) ≤ 2 := by
  rw [← preceded_once_iff unique, ← joinCount_eq_joined_iff, collapseKeepMinName_eq,
    ← delete_preceded]
  have deleted := length_deleteJoined (precedes key name) table table
  dsimp only
  omega

/-- `_collapse_keep_min_name` loses nothing exactly when no key has three rows: otherwise it returns
a greater number than that of the rows deleted. -/
theorem keepMinName_losesNothing_iff (unique : (table.map name).Nodup) :
    LosesNothing key name (collapseKeepMinName key name) id table ↔
      ∀ row ∈ table, (table.countP fun other => key other = key row) ≤ 2 := by
  rw [← keepMinName_counted_iff unique]
  refine ⟨LosesNothing.counted, fun counted => ?_⟩
  have keys := nodup_leasts key unique
  have left : (collapseKeepMinName key name table).2 = table.filter (leastOf key name table) :=
    congrArg Prod.snd (collapseKeepMinName_eq key name table)
  constructor
  · intro row
    rw [left, List.mem_filter, leastOf_iff]
    constructor
    · rintro ⟨member, least⟩
      exact ⟨row, member, least, rfl⟩
    · rintro ⟨_, member, least, rfl⟩
      exact ⟨member, least⟩
  · intro row member
    obtain ⟨least, there, same, lowest⟩ := exists_leastOf key name member
    rw [left]
    exact ⟨least, List.mem_filter.mpr ⟨there, lowest⟩, same⟩
  · rw [left]
    exact keys
  · rw [left, collapseKeepMinName_eq, pairs_of_nodup keys,
      List.filter_eq_self.mpr fun row member => leastOf_of_nodup keys member]
  · intro row member alone
    rw [left]
    exact List.mem_filter.mpr ⟨member, leastOf_of_alone member alone⟩
  · exact counted

end Keep

section Sum

variable {columns : TotalColumns Row Key Name} {table : List Row}

/-- The total of a key. -/
def keyTotal (columns : TotalColumns Row Key Name) (table : List Row) (key : Key) : Nat :=
  ((table.filter fun row => columns.key row = key).map columns.total).sum

/-- The row that stands for its key in the end. -/
def survivor (columns : TotalColumns Row Key Name) (table : List Row) (row : Row) : Row :=
  columns.withTotal row (keyTotal columns table (columns.key row))

omit [LinearOrder Name] in
/-- A row that is alone with its key stands for itself. -/
theorem survivor_of_alone {row : Row} (member : row ∈ table)
    (alone : table.countP (fun other => columns.key other = columns.key row) = 1) :
    survivor columns table row = row := by
  rw [survivor, keyTotal, filter_of_alone member alone, List.map_singleton, List.sum_singleton,
    columns.withTotal_total]

/-- A group is under its key. -/
theorem duplicateGroup_key {key : Key} {group : Group Key Name}
    (grouped : duplicateGroup columns table key = some group) : group.key = key := by
  rw [duplicateGroup] at grouped
  split at grouped
  next =>
    obtain ⟨_, _, rfl⟩ := Option.map_eq_some_iff.mp grouped
    rfl
  next => cases grouped

/-- Every key has one group at most. -/
theorem nodup_duplicateGroups (columns : TotalColumns Row Key Name) (table : List Row) :
    ((duplicateGroups columns table).map Group.key).Nodup := by
  rw [List.Nodup, List.pairwise_map]
  refine List.Pairwise.filterMap _ ?_ (nodup_eraseDups (table.map columns.key))
  intro key other apart group grouped twin also
  rw [duplicateGroup_key grouped, duplicateGroup_key also]
  exact apart

/-- The group of a key is that of its least row, where it has several rows. -/
theorem duplicateGroup_some {key : Key} {group : Group Key Name}
    (grouped : duplicateGroup columns table key = some group) : ∃ least ∈ table,
      leastOf columns.key columns.name table least = true ∧
      1 < table.countP (fun row => columns.key row = columns.key least) ∧
      group = ⟨columns.key least, columns.name least,
        keyTotal columns table (columns.key least)⟩ := by
  rw [duplicateGroup] at grouped
  split at grouped
  next several =>
    obtain ⟨keepName, smallest, rfl⟩ := Option.map_eq_some_iff.mp grouped
    obtain ⟨named, below⟩ := List.min?_eq_some_iff.mp smallest
    obtain ⟨least, inside, rfl⟩ := List.mem_map.mp named
    obtain ⟨member, same⟩ := List.mem_filter.mp inside
    obtain rfl := of_decide_eq_true same
    rw [← List.countP_eq_length_filter] at several
    refine ⟨least, member, leastOf_iff.mpr fun other there alike => ?_, several, rfl⟩
    exact below _ (List.mem_map_of_mem (List.mem_filter.mpr ⟨there, decide_eq_true alike⟩))
  next => cases grouped

/-- A key with several rows has the group of its least row. -/
theorem duplicateGroup_least {least : Row} (member : least ∈ table)
    (lowest : leastOf columns.key columns.name table least = true)
    (several : 1 < table.countP fun row => columns.key row = columns.key least) :
    duplicateGroup columns table (columns.key least) = some ⟨columns.key least,
      columns.name least, keyTotal columns table (columns.key least)⟩ := by
  have smallest : ((table.filter fun row => columns.key row = columns.key least).map
      columns.name).min? = some (columns.name least) := by
    refine List.min?_eq_some_iff.mpr ⟨List.mem_map_of_mem
      (List.mem_filter.mpr ⟨member, decide_eq_true rfl⟩), fun name named => ?_⟩
    obtain ⟨other, inside, rfl⟩ := List.mem_map.mp named
    obtain ⟨there, same⟩ := List.mem_filter.mp inside
    exact leastOf_iff.mp lowest other there (of_decide_eq_true same)
  rw [List.countP_eq_length_filter] at several
  rw [duplicateGroup, if_pos several, smallest]
  rfl

/-- The duplicate groups are those of the least rows of keys with several rows. -/
theorem mem_duplicateGroups {group : Group Key Name} :
    group ∈ duplicateGroups columns table ↔ ∃ least ∈ table,
      leastOf columns.key columns.name table least = true ∧
      1 < table.countP (fun row => columns.key row = columns.key least) ∧
      group = ⟨columns.key least, columns.name least,
        keyTotal columns table (columns.key least)⟩ := by
  rw [duplicateGroups, List.mem_filterMap]
  constructor
  · rintro ⟨key, _, grouped⟩
    exact duplicateGroup_some grouped
  · rintro ⟨least, member, lowest, several, rfl⟩
    exact ⟨columns.key least, List.mem_eraseDups.mpr (List.mem_map_of_mem member),
      duplicateGroup_least member lowest several⟩

/-- A row that goes into the survivor of its group. -/
def spurious (columns : TotalColumns Row Key Name) (row : Row) (group : Group Key Name) : Bool :=
  columns.key row = group.key ∧ columns.name row ≠ group.keepName

/-- With unique names a row goes into another one when it is not least. -/
theorem spurious_iff (unique : (table.map columns.name).Nodup) {row : Row} (member : row ∈ table) :
    ((duplicateGroups columns table).any fun group => spurious columns row group) =
      !leastOf columns.key columns.name table row := by
  rw [Bool.eq_iff_iff, List.any_eq_true, Bool.not_eq_true', ← Bool.not_eq_true]
  constructor
  · rintro ⟨group, grouped, apart⟩ least
    obtain ⟨first, inside, lowest, _, rfl⟩ := mem_duplicateGroups.mp grouped
    obtain ⟨same, other⟩ := of_decide_eq_true apart
    exact other (congrArg columns.name (leastOf_unique unique member inside least lowest same))
  · intro greater
    obtain ⟨least, inside, same, lowest⟩ := exists_leastOf columns.key columns.name member
    have apart : least ≠ row := by
      rintro rfl
      exact greater lowest
    have several := several_of_not_least member inside same apart
    rw [← same] at several
    refine ⟨_, mem_duplicateGroups.mpr ⟨least, inside, lowest, several, rfl⟩, ?_⟩
    refine decide_eq_true ⟨same.symm, fun named => apart ?_⟩
    exact (List.inj_on_of_nodup_map unique member inside named).symm

/-- No row goes into two others. -/
theorem spurious_once (columns : TotalColumns Row Key Name) (table : List Row) (row : Row) :
    (duplicateGroups columns table).countP (spurious columns row) ≤ 1 :=
  countP_keyed_le_one (nodup_duplicateGroups columns table) fun _ _ apart =>
    (of_decide_eq_true apart).1.symm

/-- The rows that go into no other are the least ones. -/
theorem delete_spurious (unique : (table.map columns.name).Nodup) :
    deleteJoined (spurious columns) table (duplicateGroups columns table) =
      table.filter (leastOf columns.key columns.name table) := by
  refine List.filter_congr fun row member => ?_
  rw [spurious_iff unique member, Bool.not_not]

/-- What the update makes of a row. -/
def summed (columns : TotalColumns Row Key Name) (table : List Row) (row : Row) : Row :=
  if leastOf columns.key columns.name table row = true ∧
      1 < table.countP (fun other => columns.key other = columns.key row) then
    survivor columns table row
  else row

/-- The row that stays for a group. -/
def survives (columns : TotalColumns Row Key Name) (row : Row) (group : Group Key Name) : Bool :=
  columns.name row = group.keepName

/-- The update sets the totals of the least rows of keys with several rows. -/
theorem update_survives (unique : (table.map columns.name).Nodup) :
    updateJoined (survives columns) (fun row group => columns.withTotal row group.groupTotal) table
      (duplicateGroups columns table) = table.map (summed columns table) := by
  refine List.map_congr_left fun row member => ?_
  cases found : (duplicateGroups columns table).find? (survives columns row) with
  | some group =>
    obtain ⟨least, inside, lowest, several, rfl⟩ :=
      mem_duplicateGroups.mp (List.mem_of_find?_eq_some found)
    have named := List.find?_some found
    obtain rfl := List.inj_on_of_nodup_map unique member inside (of_decide_eq_true named)
    rw [summed, if_pos ⟨lowest, several⟩]
    rfl
  | none =>
    rw [summed, if_neg]
    · rfl
    · rintro ⟨lowest, several⟩
      exact List.find?_eq_none.mp found _
        (mem_duplicateGroups.mpr ⟨row, member, lowest, several, rfl⟩) (decide_eq_true rfl)

/-- The update keeps the keys. -/
theorem key_summed (row : Row) : columns.key (summed columns table row) = columns.key row := by
  rw [summed]
  split
  next => exact columns.key_withTotal row _
  next => rfl

/-- The update keeps the names. -/
theorem name_summed (row : Row) : columns.name (summed columns table row) = columns.name row := by
  rw [summed]
  split
  next => exact columns.name_withTotal row _
  next => rfl

/-- A row is least after the update when it was before. -/
theorem leastOf_summed (row : Row) :
    leastOf columns.key columns.name (table.map (summed columns table))
        (summed columns table row) = leastOf columns.key columns.name table row := by
  rw [leastOf, List.all_map, leastOf]
  refine congrArg table.all (funext fun other => ?_)
  simp only [Function.comp_apply, key_summed, name_summed]

/-- The update makes a survivor of every least row. -/
theorem summed_of_least {row : Row} (member : row ∈ table)
    (least : leastOf columns.key columns.name table row = true) :
    summed columns table row = survivor columns table row := by
  rw [summed]
  split
  next => rfl
  next few =>
    have some : 0 < table.countP fun other => columns.key other = columns.key row :=
      List.countP_pos_iff.mpr ⟨row, member, decide_eq_true rfl⟩
    have alone : (table.countP fun other => columns.key other = columns.key row) = 1 := by
      by_contra several
      exact few ⟨least, by omega⟩
    exact (survivor_of_alone member alone).symm

/-- The pairs that `_collapse_sum_total` counts are the rows that are not least. -/
theorem spurious_count (unique : (table.map columns.name).Nodup) :
    joinCount (spurious columns) table (duplicateGroups columns table) +
      (table.filter (leastOf columns.key columns.name table)).length = table.length := by
  rw [(joinCount_eq_joined_iff _ _ _).mpr fun row _ => spurious_once columns table row,
    ← delete_spurious unique]
  exact length_deleteJoined ..

/-- `_collapse_sum_total` leaves the survivors of the least rows. -/
theorem collapseSumTotal_eq (unique : (table.map columns.name).Nodup) :
    collapseSumTotal columns table =
      (joinCount (spurious columns) table (duplicateGroups columns table),
        (table.filter (leastOf columns.key columns.name table)).map (survivor columns table)) := by
  show (if joinCount (spurious columns) table (duplicateGroups columns table) ≠ 0 then
      (joinCount (spurious columns) table (duplicateGroups columns table),
        deleteJoined (spurious columns)
          (updateJoined (survives columns)
            (fun row group => columns.withTotal row group.groupTotal) table
            (duplicateGroups columns table))
          (duplicateGroups columns (updateJoined (survives columns)
            (fun row group => columns.withTotal row group.groupTotal) table
            (duplicateGroups columns table))))
    else (joinCount (spurious columns) table (duplicateGroups columns table), table)) = _
  rw [update_survives unique]
  split
  next =>
    have survivors : (table.filter (leastOf columns.key columns.name table)).map
        (survivor columns table) =
          (table.filter (leastOf columns.key columns.name table)).map (summed columns table) := by
      refine List.map_congr_left fun row member => ?_
      obtain ⟨inside, least⟩ := List.mem_filter.mp member
      exact (summed_of_least inside least).symm
    have same : columns.name ∘ summed columns table = columns.name := funext name_summed
    have named : ((table.map (summed columns table)).map columns.name).Nodup := by
      rw [List.map_map, same]
      exact unique
    rw [survivors, delete_spurious named, List.filter_map]
    refine congrArg (Prod.mk _) (congrArg (List.map _) (List.filter_congr fun row _ => ?_))
    exact leastOf_summed row
  next none =>
    have count := spurious_count unique
    have all : table.filter (leastOf columns.key columns.name table) = table :=
      List.filter_sublist.eq_of_length (by omega)
    have keys := nodup_leasts columns.key unique
    rw [all] at keys
    have kept : table.map (survivor columns table) = table.map id :=
      List.map_congr_left fun row member =>
        survivor_of_alone member (alone_of_nodup keys member)
    rw [all, kept, List.map_id]

/-- Where keys are unique `_collapse_sum_total` does nothing. -/
theorem collapseSumTotal_of_nodup (unique : (table.map columns.name).Nodup)
    (keys : (table.map columns.key).Nodup) : collapseSumTotal columns table = (0, table) := by
  have all : table.filter (leastOf columns.key columns.name table) = table :=
    List.filter_eq_self.mpr fun row member => leastOf_of_nodup keys member
  have count := spurious_count unique
  have kept : table.map (survivor columns table) = table.map id :=
    List.map_congr_left fun row member => survivor_of_alone member (alone_of_nodup keys member)
  rw [all] at count
  rw [collapseSumTotal_eq unique, all, kept, List.map_id]
  exact congrArg (Prod.mk · table) (Nat.add_eq_right.mp count)

variable (columns) in
/-- Survivors keep their names. -/
theorem nodup_survivors (unique : (table.map columns.name).Nodup) :
    (((table.filter (leastOf columns.key columns.name table)).map (survivor columns table)).map
      columns.name).Nodup := by
  have same : columns.name ∘ survivor columns table = columns.name :=
    funext fun row => columns.name_withTotal row _
  rw [List.map_map, same]
  exact unique.sublist (List.filter_sublist.map _)

/-- `_collapse_sum_total` loses nothing. -/
theorem sumTotal_losesNothing (unique : (table.map columns.name).Nodup) :
    LosesNothing columns.key columns.name (collapseSumTotal columns) (survivor columns table)
      table := by
  have least := nodup_leasts columns.key unique
  have left := congrArg Prod.snd (collapseSumTotal_eq unique)
  have keys : ((collapseSumTotal columns table).2.map columns.key).Nodup := by
    rw [left, List.map_map]
    have same : columns.key ∘ survivor columns table = columns.key :=
      funext fun row => columns.key_withTotal row _
    rw [same]
    exact least
  constructor
  · intro row
    rw [left, List.mem_map]
    constructor
    · rintro ⟨first, member, rfl⟩
      obtain ⟨inside, lowest⟩ := List.mem_filter.mp member
      exact ⟨first, inside, leastOf_iff.mp lowest, rfl⟩
    · rintro ⟨first, inside, lowest, rfl⟩
      exact ⟨first, List.mem_filter.mpr ⟨inside, leastOf_iff.mpr lowest⟩, rfl⟩
  · intro row member
    obtain ⟨first, inside, same, lowest⟩ := exists_leastOf columns.key columns.name member
    rw [left]
    exact ⟨_, List.mem_map_of_mem (List.mem_filter.mpr ⟨inside, lowest⟩),
      (columns.key_withTotal first _).trans same⟩
  · exact keys
  · refine collapseSumTotal_of_nodup ?_ keys
    rw [left]
    exact nodup_survivors columns unique
  · intro row member alone
    rw [left]
    exact List.mem_map.mpr ⟨row, List.mem_filter.mpr ⟨member, leastOf_of_alone member alone⟩,
      survivor_of_alone member alone⟩
  · rw [left, congrArg Prod.fst (collapseSumTotal_eq unique), List.length_map]
    exact spurious_count unique

end Sum

end Collapse

/-- The two strategies lose nothing of their tables exactly when no key of the first table has
three rows. -/
theorem collapses_lose_nothing_iff {Record RecordKey RecordName Row Key Name : Type}
    [DecidableEq RecordKey] [LinearOrder RecordName] [DecidableEq Key] [LinearOrder Name]
    (recordKey : Record → RecordKey) (recordName : Record → RecordName) (records : List Record)
    (uniqueRecords : (records.map recordName).Nodup) (columns : TotalColumns Row Key Name)
    (summaries : List Row) (uniqueSummaries : (summaries.map columns.name).Nodup) :
    LosesNothing recordKey recordName (collapseKeepMinName recordKey recordName) id records ∧
        LosesNothing columns.key columns.name (collapseSumTotal columns)
          (survivor columns summaries) summaries ↔
      ∀ record ∈ records,
        (records.countP fun other => recordKey other = recordKey record) ≤ 2 := by
  rw [keepMinName_losesNothing_iff uniqueRecords]
  exact and_iff_left (sumTotal_losesNothing uniqueSummaries)

/-- A record that was written twice, and a branch with three summaries. -/
theorem collapses_lose_nothing_replayed :
    LosesNothing AttendanceRecord.attendance AttendanceRecord.name
          (collapseKeepMinName AttendanceRecord.attendance AttendanceRecord.name) id
          [⟨2, "sunday", "ann", some "r2"⟩, ⟨1, "sunday", "ann", some "r1"⟩,
            ⟨3, "sunday", "bob", none⟩] ∧
        LosesNothing AttendanceSummary.columns.key AttendanceSummary.columns.name
          (collapseSumTotal AttendanceSummary.columns)
          (survivor AttendanceSummary.columns [⟨1, "north", "sunday", 4⟩,
            ⟨2, "north", "sunday", 0⟩, ⟨3, "north", "sunday", 5⟩])
          [⟨1, "north", "sunday", 4⟩, ⟨2, "north", "sunday", 0⟩, ⟨3, "north", "sunday", 5⟩] ↔
      ∀ record ∈ [⟨2, "sunday", "ann", some "r2"⟩, ⟨1, "sunday", "ann", some "r1"⟩,
          ⟨3, "sunday", "bob", none⟩],
        ([⟨2, "sunday", "ann", some "r2"⟩, ⟨1, "sunday", "ann", some "r1"⟩,
          ⟨3, "sunday", "bob", none⟩].countP fun other =>
            AttendanceRecord.attendance other = AttendanceRecord.attendance record) ≤ 2 :=
  collapses_lose_nothing_iff AttendanceRecord.attendance AttendanceRecord.name
    [⟨2, "sunday", "ann", some "r2"⟩, ⟨1, "sunday", "ann", some "r1"⟩,
      ⟨3, "sunday", "bob", none⟩] (by decide) AttendanceSummary.columns
    [⟨1, "north", "sunday", 4⟩, ⟨2, "north", "sunday", 0⟩, ⟨3, "north", "sunday", 5⟩] (by decide)

/-- Of three rows with one key two are deleted and three are reported. -/
theorem collapseKeepMinName_miscounts :
    collapseKeepMinName AttendanceRecord.attendance AttendanceRecord.name
        [⟨1, "sunday", "ann", none⟩, ⟨2, "sunday", "ann", none⟩, ⟨3, "sunday", "ann", none⟩] =
      (3, [⟨1, "sunday", "ann", none⟩]) ∧
    ¬LosesNothing AttendanceRecord.attendance AttendanceRecord.name
        (collapseKeepMinName AttendanceRecord.attendance AttendanceRecord.name) id
        [⟨1, "sunday", "ann", none⟩, ⟨2, "sunday", "ann", none⟩,
          ⟨3, "sunday", "ann", (none : Option String)⟩] := by
  refine ⟨by decide, fun loses => ?_⟩
  have counted := loses.counted
  revert counted
  decide

section Migration

variable {Text : Type} [DecidableEq Text] {tables : Tables Text}

/-- The index is on its table. -/
def Tables.Has (tables : Tables Text) (index : UniqueIndex Text) : Prop :=
  index.place ∈ tables.indexes

/-- The tables of a site: names are unique, and so are keys where there is an index. -/
structure Sound (tables : Tables Text) : Prop where
  /-- Names of records are unique. -/
  records : (tables.records.map (·.name)).Nodup
  /-- Names of summaries are unique. -/
  summaries : (tables.summaries.map (·.name)).Nodup
  /-- An index holds. -/
  indexed : ∀ index ∈ indexes, tables.Has index → index.accepts tables = true

/-- The tables once duplicates of an index have been collapsed. -/
def UniqueIndex.collapsed (index : UniqueIndex Text) (tables : Tables Text) : Tables Text :=
  match index.collapse with
  | none => tables
  | some collapse => (collapse tables).2

/-- An index was added, or was there. -/
structure Added (index : UniqueIndex Text) (tables next : Tables Text) : Prop where
  /-- The turn returns. -/
  returned : addIndex index tables = .ok () next
  /-- The index is there, beside those that were. -/
  present : ∀ place, place ∈ next.indexes ↔ place ∈ tables.indexes ∨ place = index.place

section Turn

omit [DecidableEq Text]

/-- An index that is there is passed over. -/
theorem addIndex_present {index : UniqueIndex Text} (present : tables.Has index) :
    Added index tables tables := by
  refine ⟨?_, fun place => (or_iff_left_of_imp fun same => same ▸ present).symm⟩
  rw [addIndex, Exec.bind_run_ok (Exec.get_run tables)]
  exact congrFun (if_pos present) tables

/-- Collapsing duplicates raises nothing, and writes at most a line to the log. -/
theorem collapseDuplicates_run (index : UniqueIndex Text) (tables : Tables Text) :
    ∃ log, collapseDuplicates index tables = .ok () { index.collapsed tables with log } := by
  rw [collapseDuplicates, UniqueIndex.collapsed]
  cases index.collapse with
  | none => exact ⟨tables.log, rfl⟩
  | some collapse =>
    dsimp only
    rw [Exec.bind_run_ok (Exec.get_run tables)]
    by_cases some : (collapse tables).1 ≠ 0
    · refine ⟨(collapse tables).2.log ++
        [collapsedLine (collapse tables).1 index.place.1 index.indexName], ?_⟩
      exact congrFun (if_pos some) (collapse tables).2
    · exact ⟨(collapse tables).2.log, congrFun (if_neg some) (collapse tables).2⟩

/-- A table whose keys are unique takes the index. -/
theorem alterTable_run {index : UniqueIndex Text} (accepted : index.accepts tables = true) :
    alterTable index tables =
      .ok () { tables with indexes := tables.indexes ++ [index.place] } := by
  rw [alterTable, Exec.bind_run_ok (Exec.get_run tables), if_pos accepted]
  rfl

/-- An index that is not there is added where collapsed tables take it. -/
theorem addIndex_absent {index : UniqueIndex Text} (absent : ¬tables.Has index)
    (same : (index.collapsed tables).indexes = tables.indexes)
    (accepted : ∀ log, index.accepts { index.collapsed tables with log } = true) :
    ∃ next, Added index tables next ∧ next.records = (index.collapsed tables).records ∧
      next.summaries = (index.collapsed tables).summaries := by
  obtain ⟨log, collapsed⟩ := collapseDuplicates_run index tables
  refine ⟨{ index.collapsed tables with
    indexes := (index.collapsed tables).indexes ++ [index.place], log }, ⟨?_, fun place => ?_⟩,
    rfl, rfl⟩
  · rw [addIndex, Exec.bind_run_ok (Exec.get_run tables)]
    refine (congrFun (if_neg absent) tables).trans ?_
    rw [Exec.bind_run_ok collapsed]
    exact alterTable_run (accepted log)
  · rw [same, List.mem_append, List.mem_singleton]

end Turn

/-- The records that stay. -/
def leastRecords (records : List (AttendanceRecord Text)) : List (AttendanceRecord Text) :=
  records.filter (leastOf AttendanceRecord.attendance AttendanceRecord.name records)

/-- The summaries that stay, with the totals of their keys. -/
def foldedSummaries (summaries : List (AttendanceSummary Text)) :
    List (AttendanceSummary Text) :=
  (summaries.filter (leastOf AttendanceSummary.columns.key AttendanceSummary.columns.name
    summaries)).map (survivor AttendanceSummary.columns summaries)

/-- The index of records by attendee leaves the least records. -/
theorem uniqueEventAttendeeRef_run (unique : (tables.records.map (·.name)).Nodup)
    (indexed : tables.Has uniqueEventAttendeeRef →
      uniqueEventAttendeeRef.accepts tables = true) :
    ∃ next, Added uniqueEventAttendeeRef tables next ∧
      next.records = leastRecords tables.records ∧ next.summaries = tables.summaries := by
  by_cases present : tables.Has uniqueEventAttendeeRef
  · have keys := of_decide_eq_true (indexed present)
    have all : leastRecords tables.records = tables.records :=
      List.filter_eq_self.mpr fun record member => leastOf_of_nodup keys member
    exact ⟨tables, addIndex_present present, all.symm, rfl⟩
  · have left : (uniqueEventAttendeeRef.collapsed tables).records =
        leastRecords tables.records := congrArg Prod.snd (collapseKeepMinName_eq _ _ tables.records)
    have keys := nodup_leasts AttendanceRecord.attendance unique
    obtain ⟨next, added, records, summaries⟩ := addIndex_absent present rfl fun log =>
      decide_eq_true (left.symm ▸ keys)
    exact ⟨next, added, records.trans left, summaries⟩

omit [DecidableEq Text] in
/-- Records of different attendances have different requests. -/
theorem nodup_requests {records : List (AttendanceRecord Text)}
    (keys : (records.map AttendanceRecord.attendance).Nodup) :
    (records.filterMap (·.request)).Nodup := by
  refine List.Pairwise.filterMap _ ?_ (List.pairwise_map.mp keys)
  intro record other apart request named twin also same
  obtain ⟨_, _, whole⟩ := Option.map_eq_some_iff.mp named
  obtain ⟨_, _, part⟩ := Option.map_eq_some_iff.mp also
  rw [← whole, ← part] at same
  exact apart (Prod.ext (congrArg (·.1) same) (congrArg (·.2.1) same))

/-- The index of records by request holds where that by attendee does. -/
theorem uniqueEventAttendeeReq_run
    (keys : (tables.records.map AttendanceRecord.attendance).Nodup) :
    ∃ next, Added uniqueEventAttendeeReq tables next ∧ next.records = tables.records ∧
      next.summaries = tables.summaries := by
  by_cases present : tables.Has uniqueEventAttendeeReq
  · exact ⟨tables, addIndex_present present, rfl, rfl⟩
  · exact addIndex_absent present rfl fun log => decide_eq_true (nodup_requests keys)

/-- Summaries collapse to the least ones with the totals of their keys. -/
theorem collapse_summaries {summaries : List (AttendanceSummary Text)}
    (unique : (summaries.map (·.name)).Nodup) :
    (collapseSumTotal AttendanceSummary.columns summaries).2 = foldedSummaries summaries :=
  congrArg Prod.snd (collapseSumTotal_eq unique)

/-- The summaries that stay have different keys. -/
theorem nodup_foldedSummaries {summaries : List (AttendanceSummary Text)}
    (unique : (summaries.map (·.name)).Nodup) :
    ((foldedSummaries summaries).map AttendanceSummary.columns.key).Nodup := by
  rw [← collapse_summaries unique]
  exact (sumTotal_losesNothing unique).unique

/-- The index of summaries leaves the least summaries with the totals of their keys. -/
theorem uniqueBranchEvent_run (unique : (tables.summaries.map (·.name)).Nodup)
    (indexed : tables.Has uniqueBranchEvent →
      uniqueBranchEvent.accepts tables = true) :
    ∃ next, Added uniqueBranchEvent tables next ∧ next.records = tables.records ∧
      next.summaries = foldedSummaries tables.summaries := by
  have folded := collapse_summaries unique
  by_cases present : tables.Has uniqueBranchEvent
  · rw [collapseSumTotal_of_nodup unique (of_decide_eq_true (indexed present))] at folded
    exact ⟨tables, addIndex_present present, rfl, folded⟩
  · have keys := nodup_foldedSummaries unique
    rw [← folded] at keys
    obtain ⟨next, added, records, summaries⟩ := addIndex_absent present rfl fun log =>
      decide_eq_true keys
    exact ⟨next, added, records, summaries.trans folded⟩

/-- The migration is its three turns. -/
theorem execute_turns {first second third : Tables Text}
    (one : Added uniqueEventAttendeeRef tables first)
    (two : Added uniqueEventAttendeeReq first second)
    (three : Added uniqueBranchEvent second third) : execute tables = .ok () third := by
  show (addIndex uniqueEventAttendeeRef >>= fun _ => addIndex uniqueEventAttendeeReq >>= fun _ =>
    addIndex uniqueBranchEvent >>= fun _ => pure ()) tables = _
  rw [Exec.bind_run_ok one.returned, Exec.bind_run_ok two.returned,
    Exec.bind_run_ok three.returned]
  rfl

/-- The migration succeeds on every sound site, however many duplicates it has: it leaves the least
records and the least summaries with the totals of their keys, has all indexes, and does nothing
when it is run again. -/
theorem execute_succeeds (sound : Sound tables) :
    ∃ next, execute tables = .ok () next ∧ Sound next ∧ (∀ index ∈ indexes, next.Has index) ∧
      execute next = .ok () next ∧ next.records = leastRecords tables.records ∧
      next.summaries = foldedSummaries tables.summaries := by
  obtain ⟨first, one, records, summaries⟩ :=
    uniqueEventAttendeeRef_run sound.records (sound.indexed _ List.mem_cons_self)
  have attendances : (first.records.map AttendanceRecord.attendance).Nodup := by
    rw [records]
    exact nodup_leasts AttendanceRecord.attendance sound.records
  obtain ⟨second, two, recordsSecond, summariesSecond⟩ := uniqueEventAttendeeReq_run attendances
  have same : second.summaries = tables.summaries := summariesSecond.trans summaries
  obtain ⟨third, three, recordsThird, summariesThird⟩ :
      ∃ next, Added uniqueBranchEvent second next ∧
      next.records = second.records ∧ next.summaries = foldedSummaries second.summaries := by
    refine uniqueBranchEvent_run (same ▸ sound.summaries) fun present => ?_
    have before : tables.Has uniqueBranchEvent := by
      rcases (two.present _).mp present with present | other
      · rcases (one.present _).mp present with present | other
        · exact present
        · cases other
      · cases other
    show uniqueBranchEvent.accepts second = true
    have keys := sound.indexed _ (.tail _ (.tail _ List.mem_cons_self)) before
    exact (congrArg (fun summaries : List (AttendanceSummary Text) => decide
      (summaries.map AttendanceSummary.columns.key).Nodup) same).trans keys
  rw [same] at summariesThird
  have left : third.records = leastRecords tables.records :=
    (recordsThird.trans recordsSecond).trans records
  rw [← recordsSecond, ← recordsThird] at attendances
  have folded : (third.summaries.map AttendanceSummary.columns.key).Nodup := by
    rw [summariesThird]
    exact nodup_foldedSummaries sound.summaries
  have hasFirst : third.Has uniqueEventAttendeeRef :=
    (three.present _).mpr (.inl ((two.present _).mpr (.inl ((one.present _).mpr (.inr rfl)))))
  have hasSecond : third.Has uniqueEventAttendeeReq :=
    (three.present _).mpr (.inl ((two.present _).mpr (.inr rfl)))
  have hasThird : third.Has uniqueBranchEvent := (three.present _).mpr (.inr rfl)
  refine ⟨third, execute_turns one two three, ⟨?_, ?_, ?_⟩, ?_, ?_, left, summariesThird⟩
  · rw [left]
    exact sound.records.sublist (List.filter_sublist.map _)
  · rw [summariesThird]
    exact nodup_survivors AttendanceSummary.columns sound.summaries
  · intro index member _
    rcases List.mem_cons.mp member with rfl | member
    · exact decide_eq_true attendances
    rcases List.mem_pair.mp member with rfl | rfl
    · exact decide_eq_true (nodup_requests attendances)
    · exact decide_eq_true folded
  · intro index member
    rcases List.mem_cons.mp member with rfl | member
    · exact hasFirst
    rcases List.mem_pair.mp member with rfl | rfl
    · exact hasSecond
    · exact hasThird
  · exact execute_turns (addIndex_present hasFirst) (addIndex_present hasSecond)
      (addIndex_present hasThird)

end Migration

end FlockOs.AttendanceIndexes
