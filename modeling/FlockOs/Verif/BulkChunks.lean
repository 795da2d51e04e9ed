import FlockOs.BulkRegistration
import FlockOs.Lib.Exec

/-!
# Batches of a bulk registration

The members of a bulk registration are counted once each, in the order in which they are first
named, and cut into batches; each batch goes to the queue as one job under its number.
-/

namespace FlockOs.EventRegistration

open Lib Registrations

/-- A list names the members that are not empty, each once, in the order in which they occur
first. -/
structure NamedOnce (members named : List String) : Prop where
  /-- The same members. -/
  same : ∀ member, member ∈ named ↔ member ∈ members ∧ member ≠ ""
  /-- None twice. -/
  once : named.Nodup
  /-- In the order of their first places. -/
  ordered : named.Pairwise fun first second => members.idxOf first < members.idxOf second

/-- The members that are counted are named once. -/
theorem uniqueMembers_namedOnce (members : List String) :
    NamedOnce members (uniqueMembers members) := by
  constructor
  · intro member
    rw [uniqueMembers, mem_firstPerKey_id, List.mem_filter, decide_eq_true_iff]
  · have distinct := nodup_firstPerKey id (members.filter (· ≠ ""))
    rw [List.map_id] at distinct
    exact distinct
  · exact pairwise_firstPerKey_filter _ members

/-- A batch size of at least one gives the slices of the members. -/
theorem chunkMembers_eq {members : List String} {batchSize : Int} (positive : 1 ≤ batchSize) :
    chunkMembers members batchSize = .ok (strided batchSize.toNat (uniqueMembers members)) :=
  if_neg (Int.not_lt.mpr positive)

/-- With a batch size of at least one the batches partition the members, each named once, and all
batches but the last are full. -/
theorem chunkMembers_partition (members : List String) (batchSize : Int)
    (positive : 1 ≤ batchSize) :
    ∃ batches, chunkMembers members batchSize = .ok batches ∧
      NamedOnce members batches.flatten ∧
      (∀ batch ∈ batches, batch ≠ [] ∧ (batch.length : Int) ≤ batchSize) ∧
      ∀ batch ∈ batches.dropLast, (batch.length : Int) = batchSize := by
  have stride : 0 < batchSize.toNat := by omega
  have batched := batched_strided stride (uniqueMembers members)
  refine ⟨_, chunkMembers_eq positive, ?_, ?_, ?_⟩
  · rw [batched.whole]
    exact uniqueMembers_namedOnce members
  · intro batch member
    have bounded := batched.bounded batch member
    exact ⟨batched.filled batch member, by omega⟩
  · intro batch member
    have full := batched.full batch member
    omega

/-- Five names, one of them empty and one repeated, go into batches of two. -/
theorem chunkMembers_partition_five :
    ∃ batches, chunkMembers ["ann", "", "bob", "ann", "cat"] 2 = .ok batches ∧
      NamedOnce ["ann", "", "bob", "ann", "cat"] batches.flatten ∧
      (∀ batch ∈ batches, batch ≠ [] ∧ (batch.length : Int) ≤ 2) ∧
      ∀ batch ∈ batches.dropLast, (batch.length : Int) = 2 :=
  chunkMembers_partition ["ann", "", "bob", "ann", "cat"] 2 (by decide)

/-- The jobs of a run hold its batches under their numbers. -/
theorem bulkJobs_batches (gathering jobId : String) (batches : List (List String)) :
    (bulkJobs gathering jobId batches).map (·.members) = batches ∧
      (bulkJobs gathering jobId batches).map (·.batchIndex) = List.range batches.length := by
  rw [bulkJobs, List.map_map, List.map_map]
  exact ⟨List.zipIdx_map_fst 0 batches,
    (List.zipIdx_map_snd 0 batches).trans (List.range_eq_range' (n := _)).symm⟩

/-- A bulk registration that is queued has every member that it was given in one job, its jobs are
numbered in order, and its receipt counts members and jobs. -/
theorem registerBulk_jobs {site : Site} {db next : Database}
    {loads : String → Except Error (List String)} {random gathering : String}
    {given : BulkMembers} {batchSize : Int} {receipt : BulkReceipt} {jobs : List BulkJob}
    (queued : registerBulk site db loads random gathering given batchSize =
      .ok (receipt, jobs, next)) :
    ∃ members, given.read loads = .ok members ∧
      NamedOnce members (jobs.map (·.members)).flatten ∧
      jobs.map (·.batchIndex) = List.range jobs.length ∧
      receipt.batches = jobs.length ∧
      receipt.totalMembers = (jobs.map (·.members)).flatten.length := by
  rw [registerBulk] at queued
  split at queued
  next => cases queued
  next =>
    obtain ⟨members, read, afterRead⟩ := bind_eq_ok_iff.mp queued
    refine ⟨members, read, ?_⟩
    split at afterRead
    next => cases afterRead
    next =>
      obtain ⟨isOpen, _, afterWindow⟩ := bind_eq_ok_iff.mp afterRead
      split at afterWindow
      next => cases afterWindow
      next =>
        obtain ⟨_, _, afterScope⟩ := bind_eq_ok_iff.mp afterWindow
        obtain ⟨batches, chunked, enqueued⟩ := bind_eq_ok_iff.mp afterScope
        cases enqueued
        have positive : 1 ≤ batchSize := by
          by_contra small
          rw [chunkMembers, if_pos (not_le.mp small)] at chunked
          cases chunked
        obtain rfl := Except.ok.inj ((chunkMembers_eq positive).symm.trans chunked)
        have stride : 0 < batchSize.toNat := by omega
        have batched := batched_strided stride (uniqueMembers members)
        obtain ⟨own, numbers⟩ := bulkJobs_batches gathering s!"bulk-{gathering}-{random}"
          (strided batchSize.toNat (uniqueMembers members))
        have count := congrArg List.length own
        rw [List.length_map] at count
        rw [own, count, batched.whole]
        refine ⟨uniqueMembers_namedOnce members, numbers, rfl, ?_⟩
        rw [← List.length_flatten, batched.whole]

end FlockOs.EventRegistration
