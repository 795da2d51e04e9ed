import FlockOs.Telemetry

/-!
# Counts of a histogram

Each bucket counts the observations since the last reset that are not negative and within its
bound, whatever the calls. The total counts every observation that is not below zero, and a value
that is no number is not below zero but within no bound: the last bucket is the total exactly when
no such value was observed.
-/

namespace FlockOs.Telemetry

open Lib

/-- The order of floating-point values: no later bound is below an earlier one. -/
def Ordered (buckets : List Extended) : Prop := buckets.Pairwise (· ≤ ·)

instance (buckets : List Extended) : Decidable (Ordered buckets) :=
  inferInstanceAs (Decidable (buckets.Pairwise (· ≤ ·)))

/-- An observation that counts towards a bound. -/
def within (seconds bound : Extended) : Bool := 0 ≤ seconds ∧ seconds ≤ bound

namespace LatencyHistogram

/-- The observations of some calls after the last reset among them, given those before the calls. -/
def observedAfter (seen : List Extended) : List Call → List Extended
  | [] => seen
  | .observe seconds :: calls => observedAfter (seen ++ [seconds]) calls
  | .reset :: calls => observedAfter [] calls

/-- The observations of some calls after the last reset. -/
def sinceReset (calls : List Call) : List Extended := observedAfter [] calls

/-- A snapshot counts some observations exactly. -/
structure Exact (snapshot : LatencyHistogramSnapshot) (seen : List Extended) : Prop where
  /-- Each bucket counts the observations that are not negative and at most its bound. -/
  counted : snapshot.bucketCounts =
    snapshot.buckets.map fun bound => seen.countP fun seconds => 0 ≤ seconds ∧ seconds ≤ bound
  /-- The counts do not decrease. -/
  ordered : snapshot.bucketCounts.Pairwise (· ≤ ·)
  /-- The last count is the total. -/
  total : snapshot.bucketCounts.getLast? = some snapshot.count

/-- Ordered buckets pass the check of the constructor. -/
theorem none_decreases {buckets : List Extended} (ordered : Ordered buckets) :
    ((buckets.zip buckets.tail).any fun (bound, following) => following < bound) = false := by
  induction buckets with
  | nil => rfl
  | cons bound rest ih =>
    obtain ⟨least, later⟩ := List.pairwise_cons.mp ordered
    cases rest with
    | nil => rfl
    | cons following rest =>
      have kept : ¬following < bound := fun less => less.2 (least following List.mem_cons_self)
      show (decide (following < bound) || _) = false
      rw [decide_eq_false kept, Bool.false_or]
      exact ih later

/-- The buckets end with the catch-all. -/
theorem withCatchAll_last (buckets : List Extended) :
    (withCatchAll buckets).getLast? = some .posInf := by
  rw [withCatchAll]
  split
  next last => exact last
  next => exact List.getLast?_concat

/-- The catch-all takes what any bound takes. -/
theorem within_posInf {seconds bound : Extended} (lands : within seconds bound = true) :
    within seconds .posInf = true := by
  obtain ⟨nonnegative, below⟩ := decide_eq_true_iff.mp lands
  exact decide_eq_true ⟨nonnegative, Extended.le_posInf (Extended.ne_nan_of_le below).1⟩

/-- Later buckets take what earlier ones take. -/
theorem withCatchAll_wider {buckets : List Extended} (ordered : Ordered buckets) :
    (withCatchAll buckets).Pairwise fun bound later =>
      ∀ seconds, within seconds bound = true → within seconds later = true := by
  have wider : buckets.Pairwise fun bound later =>
      ∀ seconds, within seconds bound = true → within seconds later = true := by
    refine ordered.imp fun wide seconds lands => ?_
    obtain ⟨nonnegative, below⟩ := decide_eq_true_iff.mp lands
    exact decide_eq_true ⟨nonnegative, Extended.le_trans below wide⟩
  rw [withCatchAll]
  split
  next => exact wider
  next =>
    refine List.pairwise_append.mpr ⟨wider, List.pairwise_singleton _ _, ?_⟩
    intro bound _ later member seconds lands
    rw [List.mem_singleton.mp member]
    exact within_posInf lands

/-- The counts of a histogram are those of some observations. -/
structure Counts (buckets : List Extended) (histogram : LatencyHistogram) (seen : List Extended) :
    Prop where
  /-- The buckets are the same. -/
  bounds : histogram.buckets = buckets
  /-- Each bucket counts what is within its bound. -/
  cumulative : histogram.cumulative = cumulate within buckets seen
  /-- Everything counts that is not below zero. -/
  count : histogram.count = seen.countP fun seconds => ¬seconds < 0

/-- A histogram without counts. -/
theorem Counts.empty {buckets : List Extended} {histogram : LatencyHistogram}
    (same : histogram.buckets = buckets)
    (zeros : histogram.cumulative = List.replicate buckets.length 0) (none : histogram.count = 0) :
    Counts buckets histogram [] :=
  ⟨same, zeros.trans List.map_const'.symm, none⟩

/-- A histogram over ordered buckets begins without counts. -/
theorem new_ordered (name : String) {buckets : List Extended} (filled : buckets ≠ [])
    (ordered : Ordered buckets) :
    ∃ start, new name buckets = .ok start ∧ Counts (withCatchAll buckets) start [] := by
  refine ⟨⟨name, withCatchAll buckets, 0, 0, List.replicate _ 0, List.length_replicate⟩, ?_,
    .empty rfl rfl rfl⟩
  rw [new, if_neg filled, if_neg (Bool.eq_false_iff.mp (none_decreases ordered))]

/-- What is within a bound is not below zero. -/
theorem within_eq_le {seconds : Extended} (kept : ¬seconds < 0) :
    within seconds = (seconds ≤ ·) := by
  funext bound
  refine decide_eq_decide.mpr ⟨And.right, fun below => ⟨?_, below⟩⟩
  exact (Extended.not_lt_zero_iff (Extended.ne_nan_of_le below).1).mp kept

/-- What is below zero is within no bound. -/
theorem within_negative {seconds : Extended} (negative : seconds < 0) (bound : Extended) :
    within seconds bound = false :=
  decide_eq_false fun both => negative.2 both.1

/-- An observation is counted. -/
theorem Counts.observe {buckets : List Extended} {histogram : LatencyHistogram}
    {seen : List Extended} (counts : Counts buckets histogram seen)
    (wider : buckets.Pairwise fun bound later =>
      ∀ seconds, within seconds bound = true → within seconds later = true)
    (seconds : Extended) : Counts buckets (histogram.observe seconds) (seen ++ [seconds]) := by
  have grown := cumulate_concat (wider.imp fun grows => grows seconds) seen
  have total : (seen ++ [seconds]).countP (fun seconds => ¬seconds < 0) =
      histogram.count + if seconds < 0 then 0 else 1 := by
    rw [List.countP_append, List.countP_singleton, counts.count]
    by_cases negative : seconds < 0 <;> simp [negative]
  rw [LatencyHistogram.observe]
  split
  next negative =>
    refine ⟨counts.bounds, counts.cumulative.trans ?_, ?_⟩
    · refine List.map_congr_left fun bound _ => ?_
      rw [List.countP_append, List.countP_singleton, within_negative negative]
      rfl
    · rw [total, if_pos negative]
      rfl
  next kept =>
    refine ⟨counts.bounds, ?_, ?_⟩
    · rw [grown, within_eq_le kept, ← counts.cumulative, ← counts.bounds]
    · rw [total, if_neg kept]

/-- The counts of a run are those of the observations since its last reset. -/
theorem Counts.run {buckets : List Extended}
    (wider : buckets.Pairwise fun bound later =>
      ∀ seconds, within seconds bound = true → within seconds later = true) (calls : List Call)
    {histogram : LatencyHistogram} {seen : List Extended}
    (counts : Counts buckets histogram seen) :
    Counts buckets (histogram.run calls) (observedAfter seen calls) := by
  induction calls generalizing histogram seen with
  | nil => exact counts
  | cons call calls ih =>
    cases call with
    | observe seconds => exact ih (counts.observe wider seconds)
    | reset => exact ih (.empty counts.bounds (counts.bounds ▸ rfl) rfl)

/-- What is not below zero is within the catch-all, or no number. -/
theorem total_split (seen : List Extended) :
    (seen.countP fun seconds => ¬seconds < 0) =
      seen.countP (within · .posInf) + seen.count .nan := by
  induction seen with
  | nil => rfl
  | cons seconds seen ih =>
    rw [List.countP_cons, List.countP_cons, List.count_cons, ih]
    by_cases number : seconds = .nan
    · have accepted : decide (¬seconds < 0) = true := by
        rw [number]
        rfl
      have outside : within seconds .posInf = false := by
        rw [number]
        rfl
      have counted : (seconds == .nan) = true := beq_iff_eq.mpr number
      rw [accepted, outside, counted]
      exact Nat.add_assoc ..
    · have same : decide (¬seconds < 0) = within seconds .posInf := by
        refine decide_eq_decide.mpr ((Extended.not_lt_zero_iff number).trans ?_)
        exact (and_iff_left (Extended.le_posInf number)).symm
      have other : (seconds == .nan) = false := beq_false_of_ne number
      rw [same, other]
      exact Nat.add_right_comm ..

/-- The last count is the total exactly when every observation was a number. -/
theorem Counts.exact_iff {buckets : List Extended} {histogram : LatencyHistogram}
    {seen : List Extended} (counts : Counts buckets histogram seen)
    (wider : buckets.Pairwise fun bound later =>
      ∀ seconds, within seconds bound = true → within seconds later = true)
    (endless : buckets.getLast? = some .posInf) :
    Exact histogram.snapshot seen ↔ .nan ∉ seen := by
  have last : histogram.cumulative.getLast? = some (seen.countP (within · .posInf)) := by
    rw [counts.cumulative, cumulate, List.getLast?_map, endless]
    rfl
  have split := (counts.count).trans (total_split seen)
  rw [← List.count_eq_zero]
  constructor
  · intro exact
    have same := Option.some.inj (last.symm.trans exact.total)
    change _ = histogram.count at same
    omega
  · intro numbers
    refine ⟨?_, ?_, ?_⟩
    · exact counts.cumulative.trans (counts.bounds ▸ rfl)
    · show histogram.cumulative.Pairwise (· ≤ ·)
      rw [counts.cumulative]
      exact pairwise_cumulate wider seen
    · show histogram.cumulative.getLast? = some histogram.count
      rw [last, split, numbers]
      rfl

/-- A histogram over ordered buckets is exact after any calls if and only if every observation
since the last reset was a number. -/
theorem snapshot_exact_iff (name : String) (buckets : List Extended) (filled : buckets ≠ [])
    (ordered : Ordered buckets) (calls : List Call) :
    ∃ start, new name buckets = .ok start ∧
      (start.run calls).snapshot.buckets = withCatchAll buckets ∧
      (Exact (start.run calls).snapshot (sinceReset calls) ↔ .nan ∉ sinceReset calls) := by
  have ⟨start, created, blank⟩ := new_ordered name filled ordered
  have wider := withCatchAll_wider ordered
  have counts := blank.run wider calls
  exact ⟨start, created, counts.bounds, counts.exact_iff wider (withCatchAll_last buckets)⟩

/-- Two bounds, the second of them repeated, and four observations, one of them below zero and one
before a reset. -/
theorem snapshot_exact_repeated :
    ∃ start, new "bulk" [.fin 1, .fin 2, .fin 2] = .ok start ∧
      (start.run [.observe .posInf, .reset, .observe (.fin 2), .observe (.fin (-1)),
          .observe (.fin 1)]).snapshot.buckets = withCatchAll [.fin 1, .fin 2, .fin 2] ∧
      (Exact (start.run [.observe .posInf, .reset, .observe (.fin 2), .observe (.fin (-1)),
            .observe (.fin 1)]).snapshot
          (sinceReset [.observe .posInf, .reset, .observe (.fin 2), .observe (.fin (-1)),
            .observe (.fin 1)]) ↔
        .nan ∉ sinceReset [.observe .posInf, .reset, .observe (.fin 2), .observe (.fin (-1)),
          .observe (.fin 1)]) :=
  snapshot_exact_iff "bulk" [.fin 1, .fin 2, .fin 2] (by decide) (by decide +kernel) _

/-- One observation that is no number is counted in the total and in no bucket. -/
theorem snapshot_counts_nan :
    ∃ start, new "bulk" [.fin 1] = .ok start ∧
      (start.run [.observe .nan]).snapshot.bucketCounts = [0, 0] ∧
      (start.run [.observe .nan]).snapshot.count = 1 ∧
      ¬Exact (start.run [.observe .nan]).snapshot (sinceReset [.observe .nan]) := by
  refine ⟨_, rfl, rfl, rfl, fun exact => ?_⟩
  have total := exact.total
  cases total

/-- The default buckets pass the check of the constructor. -/
theorem defaultLatencyBuckets_accepted (name : String) :
    ∃ start, new name defaultLatencyBuckets = .ok start ∧ start.buckets = defaultLatencyBuckets := by
  have ordered : Ordered defaultLatencyBuckets := by decide +kernel
  obtain ⟨start, created, blank⟩ := new_ordered name (by decide) ordered
  exact ⟨start, created, blank.bounds.trans rfl⟩

end LatencyHistogram

end FlockOs.Telemetry
