import Mathlib.Data.List.Sort
import Mathlib.Data.List.TakeWhile
import Mathlib.Data.Prod.Lex

/-!
# Sorted sets

A set of members with a score each, read in the order of the scores and, where these tie, of the
members. Both the order and that no member occurs twice are part of a sorted set. Adding a member
that is there moves it to its new score.
-/

namespace FlockOs.Lib

variable {σ μ : Type*} [LinearOrder σ] [LinearOrder μ]

/-- The place of an entry: by the score, then by the member. -/
def place (entry : σ × μ) : σ ×ₗ μ := toLex entry

/-- Members with their scores, in order. -/
structure SortedSet (σ μ : Type*) [LinearOrder σ] [LinearOrder μ] where
  /-- The entries. -/
  entries : List (σ × μ)
  /-- In order. -/
  ordered : entries.Pairwise fun first second => place first ≤ place second
  /-- No member occurs twice. -/
  distinct : (entries.map Prod.snd).Nodup

namespace SortedSet

/-- The set without members. -/
def empty : SortedSet σ μ := ⟨[], .nil, List.nodup_nil⟩

/-- The members in order. -/
def members (set : SortedSet σ μ) : List μ := set.entries.map Prod.snd

/-- Put an entry in its place. -/
def insertEntry (entry : σ × μ) (entries : List (σ × μ)) : List (σ × μ) :=
  entries.orderedInsert (fun first second => place first ≤ place second) entry

/-- The entries that a test keeps. -/
def filter (set : SortedSet σ μ) (keeps : σ × μ → Bool) : SortedSet σ μ where
  entries := set.entries.filter keeps
  ordered := set.ordered.filter keeps
  distinct := set.distinct.sublist (List.filter_sublist.map Prod.snd)

/-- An entry put in its place among entries in order leaves them in order. -/
theorem insertEntry_ordered (entry : σ × μ) {entries : List (σ × μ)}
    (ordered : entries.Pairwise fun first second => place first ≤ place second) :
    (insertEntry entry entries).Pairwise fun first second => place first ≤ place second := by
  induction entries with
  | nil => exact List.pairwise_singleton _ _
  | cons head rest ih =>
    obtain ⟨before, later⟩ := List.pairwise_cons.mp ordered
    rw [insertEntry, List.orderedInsert_cons]
    split
    · next first =>
      refine List.pairwise_cons.mpr ⟨fun other member => ?_, ordered⟩
      cases List.mem_cons.mp member with
      | inl same => rw [same]; exact first
      | inr among => exact first.trans (before other among)
    · next last =>
      refine List.pairwise_cons.mpr ⟨fun other member => ?_, ih later⟩
      cases List.mem_orderedInsert _ |>.mp member with
      | inl same => rw [same]; exact (not_le.mp last).le
      | inr among => exact before other among

/-- The members once an entry is put in its place. -/
theorem insertEntry_members (entry : σ × μ) (entries : List (σ × μ)) :
    ((insertEntry entry entries).map Prod.snd).Perm (entry.2 :: entries.map Prod.snd) :=
  (List.perm_orderedInsert _ entry entries).map Prod.snd

/-- Give a member a score (`ZADD`): a member that is there leaves its old place. -/
def add (set : SortedSet σ μ) (score : σ) (member : μ) : SortedSet σ μ where
  entries := insertEntry (score, member) (set.filter fun entry => entry.2 ≠ member).entries
  ordered := insertEntry_ordered (score, member) (set.filter _).ordered
  distinct := by
    refine (insertEntry_members (score, member) _).nodup_iff.mpr (List.nodup_cons.mpr ⟨?_, ?_⟩)
    · intro there
      obtain ⟨entry, kept, same⟩ := List.mem_map.mp there
      have other := (List.mem_filter.mp kept).2
      simp [same] at other
    · exact (set.filter _).distinct

/-- Drop the entries with a score between two bounds (`ZREMRANGEBYSCORE`). -/
def removeRange (set : SortedSet σ μ) (low high : σ) : SortedSet σ μ :=
  set.filter fun entry => !(decide (low ≤ entry.1) && decide (entry.1 ≤ high))

variable {set : SortedSet σ μ} {score : σ} {member : μ}

/-- A new member is put in its place among the others. -/
theorem add_fresh (fresh : member ∉ set.members) :
    (set.add score member).entries = insertEntry (score, member) set.entries := by
  have all : set.entries.filter (fun entry => entry.2 ≠ member) = set.entries := by
    refine List.filter_eq_self.mpr fun entry inside => decide_eq_true fun same => fresh ?_
    rw [← same]
    exact List.mem_map_of_mem inside
  show insertEntry (score, member) (set.entries.filter _) = _
  rw [all]

/-- A new entry cuts the others in two: those before its place, and those behind. -/
theorem insertEntry_cut (entry : σ × μ) (entries : List (σ × μ)) :
    ∃ before behind, entries = before ++ behind ∧
      insertEntry entry entries = before ++ entry :: behind ∧
        (behind = [] ↔ ∀ other ∈ entries, place other < place entry) := by
  refine ⟨_, _, (List.takeWhile_append_dropWhile (p := fun other =>
    decide ¬ place entry ≤ place other)).symm, List.orderedInsert_eq_take_drop _ entry entries, ?_⟩
  rw [List.dropWhile_eq_nil_iff]
  simp only [decide_eq_true_eq, not_le]

/-- The members once a new one is added. -/
theorem members_add_fresh (fresh : member ∉ set.members) :
    (set.add score member).members.Perm (member :: set.members) := by
  rw [members, add_fresh fresh]
  exact insertEntry_members (score, member) set.entries

/-- The members once one is given a score. -/
theorem mem_members_add {other : μ} :
    other ∈ (set.add score member).members ↔ other = member ∨ other ∈ set.members := by
  have placed := (insertEntry_members (score, member)
    (set.filter fun entry => entry.2 ≠ member).entries).mem_iff (a := other)
  refine placed.trans ?_
  rw [List.mem_cons]
  by_cases own : other = member
  · exact iff_of_true (.inl own) (.inl own)
  · refine or_congr_right ⟨fun kept => ?_, fun there => ?_⟩
    · obtain ⟨entry, inside, same⟩ := List.mem_map.mp kept
      rw [← same]
      exact List.mem_map_of_mem (List.mem_of_mem_filter inside)
    · obtain ⟨entry, inside, same⟩ := List.mem_map.mp there
      rw [← same]
      refine List.mem_map_of_mem (List.mem_filter.mpr ⟨inside, decide_eq_true ?_⟩)
      rw [same]
      exact own

end SortedSet

end FlockOs.Lib
