import FlockOs.Lib.Runs

/-!
# Appends that read before they write

Several clients append to one list without a lock: each reads the list and later writes what it read
with one item more. A write that finds another list than the one its client read drops what was
appended in between. The rules below say which of the items reported to the clients a run leaves in
the list.
-/

namespace FlockOs.Lib

/-- A list and its clients. -/
structure Journal (Client Item : Type*) where
  /-- The list. -/
  value : List Item
  /-- What a client has read and has yet to write back. -/
  held : Client → Option (List Item)
  /-- The items that were reported as appended, in order. -/
  reported : List Item

namespace Journal

variable {Client Item : Type*}

/-- The clients hold nothing that they did not hold before. -/
def HoldsOf (after before : Journal Client Item) : Prop :=
  ∀ client read, after.held client = some read → before.held client = some read

/-- What one step does to a list; `keeps` says that the step loses no item. -/
inductive Moves (keeps : Prop) (before after : Journal Client Item) : Prop where
  /-- Nothing is reported; a client may have read the list. -/
  | quiet (keep : keeps) (value : after.value = before.value)
      (reported : after.reported = before.reported)
      (held : ∀ client read, after.held client = some read →
        before.held client = some read ∨ read = before.value)
  /-- A client writes what it read with one item more. -/
  | wrote (client : Client) (read : List Item) (item : Item)
      (read_before : before.held client = some read) (keep : keeps ↔ read = before.value)
      (value : after.value = read ++ [item]) (reported : after.reported = before.reported ++ [item])
      (held : after.HoldsOf before)
  /-- An item is reported and not written. -/
  | dropped (item : Item) (lost : ¬ keeps) (value : after.value = before.value)
      (reported : after.reported = before.reported ++ [item]) (held : after.HoldsOf before)

/-- A list with some of the reported items after the original ones. -/
def Sourced (original reported list : List Item) : Prop :=
  ∃ kept, kept.Sublist reported ∧ list = original ++ kept

/-- The list and all that is held have reported items only. -/
def Genuine (original : List Item) (journal : Journal Client Item) : Prop :=
  Sourced original journal.reported journal.value ∧
    ∀ client read, journal.held client = some read → Sourced original journal.reported read

/-- One more report keeps what was sourced. -/
theorem Sourced.report {original reported list : List Item} (sourced : Sourced original reported list)
    (item : Item) : Sourced original (reported ++ [item]) list := by
  obtain ⟨kept, among, same⟩ := sourced
  exact ⟨kept, among.trans (List.sublist_append_left reported [item]), same⟩

/-- An item that is reported as it is appended. -/
theorem Sourced.append {original reported list : List Item} (sourced : Sourced original reported list)
    (item : Item) : Sourced original (reported ++ [item]) (list ++ [item]) := by
  obtain ⟨kept, among, same⟩ := sourced
  have longer : (kept ++ [item]).Sublist (reported ++ [item]) :=
    among.append (List.Sublist.refl [item])
  exact ⟨kept ++ [item], longer, by rw [same, List.append_assoc]⟩

/-- No step brings in an item that was not reported. -/
theorem Genuine.moves {original : List Item} {keeps : Prop} {before after : Journal Client Item}
    (genuine : before.Genuine original) (moves : Moves keeps before after) :
    after.Genuine original := by
  cases moves with
  | quiet keep value reported held =>
    constructor
    · rw [value, reported]
      exact genuine.1
    · intro client read holds
      rw [reported]
      cases held client read holds with
      | inl earlier => exact genuine.2 client read earlier
      | inr now => exact now ▸ genuine.1
  | wrote client read item read_before keep value reported held =>
    constructor
    · rw [value, reported]
      exact (genuine.2 client read read_before).append item
    · intro other list holds
      rw [reported]
      exact (genuine.2 other list (held other list holds)).report item
  | dropped item lost value reported held =>
    constructor
    · rw [value, reported]
      exact genuine.1.report item
    · intro other list holds
      rw [reported]
      exact (genuine.2 other list (held other list holds)).report item

/-- Every reported item is in the list, and each client holds an earlier state of it. -/
def Complete (original : List Item) (journal : Journal Client Item) : Prop :=
  journal.value = original ++ journal.reported ∧
    ∀ client read, journal.held client = some read → read.IsPrefix journal.value

/-- The list and all that is held are too short for what was reported. -/
def Short (original : List Item) (journal : Journal Client Item) : Prop :=
  journal.value.length < original.length + journal.reported.length ∧
    ∀ client read, journal.held client = some read →
      read.length < original.length + journal.reported.length

/-- A step that loses nothing keeps a list complete. -/
theorem Complete.keeps {original : List Item} {keeps : Prop} {before after : Journal Client Item}
    (complete : before.Complete original) (moves : Moves keeps before after) (kept : keeps) :
    after.Complete original := by
  cases moves with
  | quiet keep value reported held =>
    constructor
    · rw [value, reported]
      exact complete.1
    · intro client read holds
      rw [value]
      cases held client read holds with
      | inl earlier => exact complete.2 client read earlier
      | inr now => exact now ▸ List.prefix_rfl
  | wrote client read item read_before keep value reported held =>
    have whole : after.value = before.value ++ [item] := by rw [value, keep.mp kept]
    constructor
    · rw [whole, reported, complete.1, List.append_assoc]
    · intro other list holds
      have earlier := complete.2 other list (held other list holds)
      rw [whole]
      exact earlier.trans (List.prefix_append before.value [item])
  | dropped item lost value reported held => exact absurd kept lost

/-- A step that loses an item leaves a complete list short. -/
theorem Complete.loses {original : List Item} {keeps : Prop} {before after : Journal Client Item}
    (complete : before.Complete original) (moves : Moves keeps before after) (lost : ¬ keeps) :
    after.Short original := by
  have total : before.value.length = original.length + before.reported.length := by
    rw [complete.1, List.length_append]
  have held_le (held : after.HoldsOf before) (client : Client) (read : List Item)
      (holds : after.held client = some read) : read.length ≤ before.value.length :=
    (complete.2 client read (held client read holds)).length_le
  cases moves with
  | quiet keep value reported held => exact absurd keep lost
  | wrote client read item read_before keep value reported held =>
    have more : after.reported.length = before.reported.length + 1 := by simp [reported]
    have earlier := complete.2 client read read_before
    -- a client that read the list at its full length read all of it
    have shorter : read.length < before.value.length := by
      apply Nat.lt_of_le_of_ne earlier.length_le
      intro same
      exact lost (keep.mpr (earlier.eq_of_length same))
    constructor
    · rw [value, List.length_append, List.length_singleton]
      omega
    · intro other list holds
      have bound := held_le held other list holds
      omega
  | dropped item lost value reported held =>
    have more : after.reported.length = before.reported.length + 1 := by simp [reported]
    constructor
    · rw [value]
      omega
    · intro other list holds
      have bound := held_le held other list holds
      omega

/-- No step makes up for an item that is lost. -/
theorem Short.moves {original : List Item} {keeps : Prop} {before after : Journal Client Item}
    (short : before.Short original) (moves : Moves keeps before after) : after.Short original := by
  cases moves with
  | quiet keep value reported held =>
    constructor
    · rw [value, reported]
      exact short.1
    · intro client read holds
      rw [reported]
      cases held client read holds with
      | inl earlier => exact short.2 client read earlier
      | inr now => exact now ▸ short.1
  | wrote client read item read_before keep value reported held =>
    have more : after.reported.length = before.reported.length + 1 := by simp [reported]
    have bound := short.2 client read read_before
    constructor
    · rw [value, List.length_append, List.length_singleton]
      omega
    · intro other list holds
      have bound := short.2 other list (held other list holds)
      omega
  | dropped item lost value reported held =>
    have more : after.reported.length = before.reported.length + 1 := by simp [reported]
    constructor
    · rw [value]
      have bound := short.1
      omega
    · intro other list holds
      have bound := short.2 other list (held other list holds)
      omega

variable {State Call : Type*} {step : State → Call → State} {allowed : State → Call → Prop}
  {view : State → Journal Client Item}

/-- A list that is short stays short. -/
theorem short_runAll (moves : ∀ state call, Moves (allowed state call) (view state)
      (view (step state call))) {original : List Item} (calls : List Call) (start : State)
    (short : (view start).Short original) : (view (runAll step start calls)).Short original :=
  runAll_invariant (fun state => (view state).Short original)
    (fun state call before => before.moves (moves state call)) calls start short

/-- A complete list is complete after a run exactly when no step lost an item; otherwise it is
short. -/
theorem complete_runAll (moves : ∀ state call, Moves (allowed state call) (view state)
      (view (step state call))) {original : List Item} :
    ∀ (calls : List Call) (start : State), (view start).Complete original →
      EveryCall step allowed start calls ∧ (view (runAll step start calls)).Complete original ∨
        ¬ EveryCall step allowed start calls ∧ (view (runAll step start calls)).Short original
  | [], _, complete => .inl ⟨trivial, complete⟩
  | call :: rest, start, complete => by
    by_cases kept : allowed start call
    · have next := complete.keeps (moves start call) kept
      cases complete_runAll moves rest (step start call) next with
      | inl every => exact .inl ⟨⟨kept, every.1⟩, every.2⟩
      | inr lost => exact .inr ⟨fun both => lost.1 both.2, lost.2⟩
    · have next := complete.loses (moves start call) kept
      exact .inr ⟨fun both => kept both.1, short_runAll moves rest (step start call) next⟩

/-- After a run from a list that nobody has read, the list has some of the reported items after the
original ones, in the order of the reports; and it has all of them exactly when every write found
the list that its client had read and no item was reported unwritten. -/
theorem runAll_kept (moves : ∀ state call, Moves (allowed state call) (view state)
      (view (step state call))) (start : State) (calls : List Call)
    (unread : ∀ client, (view start).held client = none) (unreported : (view start).reported = []) :
    ∃ kept, kept.Sublist (view (runAll step start calls)).reported ∧
      (view (runAll step start calls)).value = (view start).value ++ kept ∧
      (kept = (view (runAll step start calls)).reported ↔ EveryCall step allowed start calls) := by
  have genuine : (view start).Genuine (view start).value := by
    constructor
    · exact ⟨[], List.nil_sublist _, by simp⟩
    · intro client read holds
      simp [unread] at holds
  have ends : (view (runAll step start calls)).Genuine (view start).value :=
    runAll_invariant (fun state => (view state).Genuine (view start).value)
      (fun state call before => before.moves (moves state call)) calls start genuine
  obtain ⟨kept, among, same⟩ := ends.1
  have complete : (view start).Complete (view start).value := by
    constructor
    · simp [unreported]
    · intro client read holds
      simp [unread] at holds
  refine ⟨kept, among, same, ?_⟩
  cases complete_runAll moves calls start complete with
  | inl every =>
    have all : kept = (view (runAll step start calls)).reported := by
      have both := same.symm.trans every.2.1
      simpa using both
    simp [all, every.1]
  | inr lost =>
    have fewer : kept ≠ (view (runAll step start calls)).reported := by
      intro all
      have bound := lost.2.1
      rw [same, List.length_append, all] at bound
      omega
    simp [fewer, lost.1]

end Journal

end FlockOs.Lib
