import FlockOs.Verif.Histograms
import Mathlib.Order.Interval.Set.Defs
import Mathlib.Tactic.NormNum
import Mathlib.Algebra.Order.Field.Rat
import Mathlib.Algebra.Order.Field.Basic

/-!
# Quantiles of a histogram

The first bucket whose count reaches a rank holds the estimate for it. Before that bucket every
count is below the rank, so the bucket itself counts something and the interpolation divides by a
positive number. Two ranks either stop at one bucket, where the estimate grows with the rank, or
the higher rank stops later, where every estimate is above the bounds already passed.
-/

namespace FlockOs.Telemetry

open Lib

/-- The point of a bucket at a rank. -/
def interpolate (low high before after rank : Rat) : Rat :=
  low + (rank - before) / (after - before) * (high - low)

/-- Within a bucket the estimate grows with the rank. -/
theorem interpolate_mono {low high before after rank other : Rat} (ordered : low ≤ high)
    (counts : before < after) (higher : rank ≤ other) :
    interpolate low high before after rank ≤ interpolate low high before after other := by
  have width : 0 < after - before := sub_pos.mpr counts
  have share : (rank - before) / (after - before) ≤ (other - before) / (after - before) :=
    div_le_div_of_nonneg_right (sub_le_sub_right higher before) (le_of_lt width)
  exact add_le_add_right (mul_le_mul_of_nonneg_right share (sub_nonneg.mpr ordered)) low

/-- At its lower rank the estimate is the lower bound. -/
theorem interpolate_before (low high before after : Rat) :
    interpolate low high before after before = low := by
  rw [interpolate, sub_self, zero_div, zero_mul, add_zero]

/-- At its upper rank the estimate is the upper bound. -/
theorem interpolate_after {low high before after : Rat} (counts : before < after) :
    interpolate low high before after after = high := by
  rw [interpolate, div_self (sub_ne_zero.mpr (ne_of_gt counts)), one_mul, add_sub_cancel]

/-- The last finite one of some bounds, or the edge before them. -/
def lastFinite (edge : Rat) : List Extended → Rat
  | [] => edge
  | .fin bound :: rest => lastFinite bound rest
  | _ :: rest => lastFinite edge rest

/-- A value lies in a bucket: at or above the last finite bound before it, and at or below its own
bound, or at the last finite bound of all where its own is infinite. -/
structure LandsIn (edge : Rat) (buckets : List Extended) (index : Nat) (value : Rat) : Prop where
  /-- Not below the bucket. -/
  lower : lastFinite edge (buckets.take index) ≤ value
  /-- Not above a finite bucket. -/
  upper : ∀ bound, buckets[index]? = some (.fin bound) → value ≤ bound
  /-- At the last finite bound in an infinite bucket. -/
  infinite : buckets[index]? = some .posInf → value = lastFinite edge buckets

/-- The first count that reaches a rank. -/
def firstReaching (rank : Rat) (counts : List Nat) : Option Nat :=
  counts.findIdx? fun count : Nat => rank ≤ count

/-- The buckets rise from an edge. -/
def Rising (edge : Rat) (buckets : List Extended) : Prop := Ordered (.fin edge :: buckets)

/-- A bound above an edge is finite or infinite. -/
theorem Rising.head {edge : Rat} {upper : Extended} {rest : List Extended}
    (rising : Rising edge (upper :: rest)) :
    (∃ bound, edge ≤ bound ∧ upper = .fin bound ∧ Rising bound rest) ∨
      (upper = .posInf ∧ Rising edge rest ∧ ∀ later ∈ rest, later = .posInf) := by
  obtain ⟨above, later⟩ := List.pairwise_cons.mp rising
  have first := above upper List.mem_cons_self
  cases upper with
  | nan => cases first
  | negInf => cases first
  | fin bound => exact .inl ⟨bound, Extended.fin_le_fin.mp first, rfl, later⟩
  | posInf =>
    obtain ⟨ends, rest⟩ := List.pairwise_cons.mp later
    refine .inr ⟨rfl, ?_, fun bound member => Extended.eq_posInf_of_le (ends bound member)⟩
    exact List.pairwise_cons.mpr ⟨fun bound member => above bound (.tail _ member), rest⟩

/-- Infinite bounds leave the edge. -/
theorem lastFinite_infinite {bounds : List Extended} (infinite : ∀ bound ∈ bounds, bound = .posInf)
    (edge : Rat) : lastFinite edge bounds = edge := by
  induction bounds with
  | nil => rfl
  | cons bound rest ih =>
    obtain rfl := infinite bound List.mem_cons_self
    exact ih fun later member => infinite later (.tail _ member)

section Scan

variable {rank : Rat} {count prevCount : Nat} {edge : Rat} {pairs : List (Extended × Nat)}

/-- The scan passes a finite bucket below the rank. -/
theorem scan_passed {bound : Rat} (below : ¬rank ≤ count) :
    scanBuckets rank ((.fin bound, count) :: pairs) prevCount (.fin edge) =
      scanBuckets rank pairs count (.fin bound) := by
  rw [scanBuckets, if_neg below, if_pos nofun]

/-- The scan passes an infinite bucket below the rank. -/
theorem scan_passed_infinite (below : ¬rank ≤ count) :
    scanBuckets rank ((.posInf, count) :: pairs) prevCount (.fin edge) =
      scanBuckets rank pairs count (.fin edge) := by
  rw [scanBuckets, if_neg below, if_neg (not_not.mpr rfl)]

/-- The scan ends in an infinite bucket at the edge. -/
theorem scan_infinite (reached : rank ≤ count) :
    scanBuckets rank ((.posInf, count) :: pairs) prevCount (.fin edge) = some (.fin edge) := by
  rw [scanBuckets, if_pos reached]
  dsimp only
  rw [if_pos (.inr rfl), if_neg (not_not.mpr rfl)]

/-- The scan ends in a finite bucket between its bounds. -/
theorem scan_finite {bound : Rat} (fewer : (prevCount : Rat) < rank) (reached : rank ≤ count) :
    scanBuckets rank ((.fin bound, count) :: pairs) prevCount (.fin edge) =
      some (.fin (interpolate edge bound prevCount count rank)) := by
  have more : prevCount < count := by exact_mod_cast fewer.trans_le reached
  have some : ¬((count : Int) - prevCount ≤ 0 ∨ Extended.fin bound = .posInf) := by
    rintro (none | infinite)
    · omega
    · cases infinite
  rw [scanBuckets, if_pos reached]
  dsimp only
  rw [if_neg some, Extended.fin_sub_fin, Extended.scale_fin, Extended.fin_add_fin, interpolate]
  push_cast
  rfl

end Scan

/-- The scan of rising buckets ends in the first one whose count reaches the rank. -/
theorem scan_lands {rank : Rat} {buckets : List Extended} {counts : List Nat} {prevCount : Nat}
    {edge : Rat} (aligned : counts.length = buckets.length) (rising : Rising edge buckets)
    (fewer : (prevCount : Rat) < rank) (reached : ∃ count ∈ counts, rank ≤ (count : Rat)) :
    ∃ value index, scanBuckets rank (buckets.zip counts) prevCount (.fin edge) =
        some (.fin value) ∧
      firstReaching rank counts = some index ∧ edge ≤ value ∧ LandsIn edge buckets index value := by
  induction buckets generalizing counts prevCount edge with
  | nil =>
    obtain ⟨count, member, _⟩ := reached
    rw [List.length_eq_zero_iff.mp aligned] at member
    cases member
  | cons upper rest ih =>
    cases counts with
    | nil => cases aligned
    | cons count counts =>
      have shorter := Nat.succ.inj aligned
      by_cases here : rank ≤ (count : Rat)
      · have first : firstReaching rank (count :: counts) = some 0 := by
          rw [firstReaching, List.findIdx?_cons, if_pos (decide_eq_true here)]
        rcases rising.head with ⟨bound, above, rfl, _⟩ | ⟨rfl, _, infinite⟩
        · have more := fewer.trans_le here
          have low := interpolate_mono above more (le_of_lt fewer)
          have high := interpolate_mono above more here
          rw [interpolate_before] at low
          rw [interpolate_after more] at high
          refine ⟨_, 0, scan_finite fewer here, first, low, low, ?_, nofun⟩
          intro _ same
          cases same
          exact high
        · refine ⟨edge, 0, scan_infinite here, first, le_refl edge, le_refl edge, nofun, ?_⟩
          exact fun _ => (lastFinite_infinite infinite edge).symm
      · have later : ∃ count ∈ counts, rank ≤ (count : Rat) := by
          obtain ⟨other, member, enough⟩ := reached
          rcases List.mem_cons.mp member with rfl | member
          · exact absurd enough here
          · exact ⟨other, member, enough⟩
        have passed : firstReaching rank (count :: counts) =
            (firstReaching rank counts).map (· + 1) := by
          rw [firstReaching, List.findIdx?_cons, if_neg (by simpa using here), firstReaching]
        rcases rising.head with ⟨bound, above, rfl, rises⟩ | ⟨rfl, rises, _⟩
        · obtain ⟨value, index, scanned, found, low, lands⟩ :=
            ih shorter rises (not_le.mp here) later
          rw [found] at passed
          exact ⟨value, index + 1, (scan_passed here).trans scanned, passed, above.trans low,
            lands.lower, lands.upper, lands.infinite⟩
        · obtain ⟨value, index, scanned, found, low, lands⟩ :=
            ih shorter rises (not_le.mp here) later
          rw [found] at passed
          exact ⟨value, index + 1, (scan_passed_infinite here).trans scanned, passed, low,
            lands.lower, lands.upper, lands.infinite⟩

/-- A higher rank does not end at a lower value. -/
theorem scan_mono {rank other : Rat} (higher : rank ≤ other) {buckets : List Extended}
    {counts : List Nat} {prevCount : Nat} {edge value larger : Rat}
    (aligned : counts.length = buckets.length) (rising : Rising edge buckets)
    (fewer : (prevCount : Rat) < rank) (reached : ∃ count ∈ counts, other ≤ (count : Rat))
    (low : scanBuckets rank (buckets.zip counts) prevCount (.fin edge) = some (.fin value))
    (high : scanBuckets other (buckets.zip counts) prevCount (.fin edge) = some (.fin larger)) :
    value ≤ larger := by
  induction buckets generalizing counts prevCount edge with
  | nil => cases low
  | cons upper rest ih =>
    cases counts with
    | nil => cases low
    | cons count counts =>
      have shorter := Nat.succ.inj aligned
      by_cases enough : other ≤ (count : Rat)
      · -- Both ranks end here.
        have here := higher.trans enough
        rcases rising.head with ⟨bound, above, rfl, _⟩ | ⟨rfl, _, _⟩
        · cases (scan_finite fewer here).symm.trans low
          cases (scan_finite (fewer.trans_le higher) enough).symm.trans high
          exact interpolate_mono above (fewer.trans_le here) higher
        · cases (scan_infinite here).symm.trans low
          cases (scan_infinite enough).symm.trans high
          exact le_refl _
      · have later : ∃ count ∈ counts, other ≤ (count : Rat) := by
          obtain ⟨last, member, most⟩ := reached
          rcases List.mem_cons.mp member with rfl | member
          · exact absurd most enough
          · exact ⟨last, member, most⟩
        have more := not_le.mp enough
        by_cases here : rank ≤ (count : Rat)
        · -- The higher rank ends above the bound of this bucket.
          rcases rising.head with ⟨bound, above, rfl, rises⟩ | ⟨rfl, rises, _⟩
          · cases (scan_finite fewer here).symm.trans low
            obtain ⟨_, _, scanned, _, bounded, _⟩ := scan_lands shorter rises more later
            cases (scanned.symm.trans ((scan_passed enough).symm.trans high))
            have most := interpolate_mono above (fewer.trans_le here) here
            rw [interpolate_after (fewer.trans_le here)] at most
            exact most.trans bounded
          · cases (scan_infinite here).symm.trans low
            obtain ⟨_, _, scanned, _, bounded, _⟩ := scan_lands shorter rises more later
            cases (scanned.symm.trans ((scan_passed_infinite enough).symm.trans high))
            exact bounded
        · have less := not_le.mp here
          rcases rising.head with ⟨bound, above, rfl, rises⟩ | ⟨rfl, rises, _⟩
          · exact ih shorter rises less later ((scan_passed here).symm.trans low)
              ((scan_passed enough).symm.trans high)
          · exact ih shorter rises less later ((scan_passed_infinite here).symm.trans low)
              ((scan_passed_infinite enough).symm.trans high)

section Estimate

variable {buckets : List Extended} {cumulative : List Nat}

/-- Buckets that are not negative rise from zero. -/
theorem rising_zero (nonnegative : ∀ bound ∈ buckets, 0 ≤ bound) (ordered : Ordered buckets) :
    Rising 0 buckets :=
  List.pairwise_cons.mpr ⟨nonnegative, ordered⟩

/-- The last count reaches every rank of a quantile up to one. -/
theorem total_reaches {quantile : Rat} (observed : 0 < cumulative.getLastD 0)
    (most : quantile ≤ 1) :
    ∃ count ∈ cumulative, quantile * (cumulative.getLastD 0 : Nat) ≤ (count : Rat) := by
  refine ⟨cumulative.getLastD 0, ?_, mul_le_of_le_one_left (Nat.cast_nonneg _) most⟩
  cases cumulative with
  | nil => cases observed
  | cons count rest =>
    rw [List.getLastD_cons, ← List.getLast_eq_getLastD (List.cons_ne_nil count rest)]
    exact List.getLast_mem _

/-- The rank of a positive quantile is positive. -/
theorem rank_positive {quantile : Rat} (observed : 0 < cumulative.getLastD 0)
    (positive : 0 < quantile) :
    ((0 : Nat) : Rat) < quantile * (cumulative.getLastD 0 : Nat) := by
  rw [Nat.cast_zero]
  exact mul_pos positive (Nat.cast_pos.mpr observed)

/-- The quantile of some counts is what the scan returns. -/
theorem quantile_eq {quantile : Rat} {value : Extended} (observed : 0 < cumulative.getLastD 0)
    (scanned : scanBuckets (quantile * (cumulative.getLastD 0 : Nat)) (buckets.zip cumulative) 0 0 =
      some value) : quantileFromCumulative buckets cumulative quantile = some value := by
  rw [quantileFromCumulative, if_neg (Nat.not_le.mpr observed), scanned, Option.some_or]

/-- A quantile lands in the first bucket whose count reaches its rank. -/
theorem quantile_lands (rising : Rising 0 buckets) (aligned : cumulative.length = buckets.length)
    (observed : 0 < cumulative.getLastD 0) {quantile : Rat} (positive : 0 < quantile)
    (most : quantile ≤ 1) :
    ∃ value index, quantileFromCumulative buckets cumulative quantile = some (.fin value) ∧
      firstReaching (quantile * (cumulative.getLastD 0 : Nat)) cumulative = some index ∧
      LandsIn 0 buckets index value := by
  obtain ⟨value, index, scanned, found, _, lands⟩ := scan_lands aligned rising
    (rank_positive observed positive) (total_reaches observed most)
  exact ⟨value, index, quantile_eq observed scanned, found, lands⟩

/-- A higher quantile is not a lower value. -/
theorem quantile_mono (rising : Rising 0 buckets) (aligned : cumulative.length = buckets.length)
    (observed : 0 < cumulative.getLastD 0) {quantile other value larger : Rat}
    (positive : 0 < quantile) (higher : quantile ≤ other) (most : other ≤ 1)
    (low : quantileFromCumulative buckets cumulative quantile = some (.fin value))
    (high : quantileFromCumulative buckets cumulative other = some (.fin larger)) :
    value ≤ larger := by
  have ranks := mul_le_mul_of_nonneg_right higher (Nat.cast_nonneg (cumulative.getLastD 0))
  have fewer := rank_positive observed positive
  have reached := total_reaches observed most
  obtain ⟨_, _, scanned, _⟩ :=
    scan_lands aligned rising fewer (total_reaches observed (higher.trans most))
  obtain ⟨_, _, scannedHigher, _⟩ :=
    scan_lands aligned rising (fewer.trans_le ranks) reached
  cases (quantile_eq observed scanned).symm.trans low
  cases (quantile_eq observed scannedHigher).symm.trans high
  exact scan_mono ranks aligned rising fewer reached scanned scannedHigher

/-- The finite number in an estimate. -/
def number : Option Extended → Rat
  | some (.fin value) => value
  | _ => 0

end Estimate

/-- Every quantile in (0, 1] of a histogram with observations has a value, which lies in the first
bucket whose count reaches its share of the total, and the values grow with the quantiles. -/
theorem quantile_monotone_in_bucket (buckets : List Extended) (cumulative : List Nat)
    (nonnegative : ∀ bound ∈ buckets, 0 ≤ bound) (ordered : Ordered buckets)
    (aligned : cumulative.length = buckets.length) (observed : 0 < cumulative.getLastD 0) :
    ∃ estimate : Rat → Rat, MonotoneOn estimate (Set.Ioc 0 1) ∧
      ∀ quantile ∈ Set.Ioc (0 : Rat) 1,
        quantileFromCumulative buckets cumulative quantile = some (.fin (estimate quantile)) ∧
        ∃ index,
          firstReaching (quantile * (cumulative.getLastD 0 : Nat)) cumulative = some index ∧
          LandsIn 0 buckets index (estimate quantile) := by
  have rising := rising_zero nonnegative ordered
  refine ⟨fun quantile => number (quantileFromCumulative buckets cumulative quantile), ?_, ?_⟩
  · intro quantile inside other insideOther higher
    have ⟨value, _, low, _⟩ := quantile_lands rising aligned observed inside.1 inside.2
    have ⟨larger, _, high, _⟩ := quantile_lands rising aligned observed insideOther.1 insideOther.2
    have grows := quantile_mono rising aligned observed inside.1 higher insideOther.2 low high
    show number _ ≤ number _
    rw [low, high]
    exact grows
  · intro quantile inside
    have ⟨value, index, found, first, lands⟩ :=
      quantile_lands rising aligned observed inside.1 inside.2
    refine ⟨?_, index, first, ?_⟩
    · show _ = some (Extended.fin (number _))
      rw [found]
      rfl
    · show LandsIn 0 buckets index (number _)
      rw [found]
      exact lands

/-- Counts over an empty bucket, a repeated bound and an infinite bucket. -/
theorem quantile_monotone_in_bucket_four :
    ∃ estimate : Rat → Rat, MonotoneOn estimate (Set.Ioc 0 1) ∧
      ∀ quantile ∈ Set.Ioc (0 : Rat) 1,
        quantileFromCumulative [.fin 0.5, .fin 1, .fin 1, .posInf] [1, 1, 3, 4] quantile =
          some (.fin (estimate quantile)) ∧
        ∃ index, firstReaching (quantile * (4 : Nat)) [1, 1, 3, 4] = some index ∧
          LandsIn 0 [.fin 0.5, .fin 1, .fin 1, .posInf] index (estimate quantile) :=
  quantile_monotone_in_bucket [.fin 0.5, .fin 1, .fin 1, .posInf] [1, 1, 3, 4]
    (by decide +kernel) (by decide +kernel) (by decide) (by decide)

namespace LatencyHistogram

/-- Buckets that are not negative keep so with the catch-all. -/
theorem withCatchAll_nonnegative {buckets : List Extended}
    (nonnegative : ∀ bound ∈ buckets, 0 ≤ bound) : ∀ bound ∈ withCatchAll buckets, 0 ≤ bound := by
  intro bound member
  rw [withCatchAll] at member
  split at member
  next => exact nonnegative bound member
  next =>
    rcases List.mem_append.mp member with member | member
    · exact nonnegative bound member
    · rw [List.mem_singleton.mp member]
      rfl

/-- Ordered buckets keep so with the catch-all. -/
theorem withCatchAll_ordered {buckets : List Extended} (nonnegative : ∀ bound ∈ buckets, 0 ≤ bound)
    (ordered : Ordered buckets) : Ordered (withCatchAll buckets) := by
  rw [withCatchAll]
  split
  next => exact ordered
  next =>
    refine List.pairwise_append.mpr ⟨ordered, List.pairwise_singleton _ _, ?_⟩
    intro bound member catchAll last
    rw [List.mem_singleton.mp last]
    exact Extended.le_posInf (Extended.ne_nan_of_le (nonnegative bound member)).2

/-- The percentiles of a histogram that has observed a latency since its last reset are finite and
grow. -/
theorem snapshot_percentiles (name : String) (buckets : List Extended) (filled : buckets ≠ [])
    (nonnegative : ∀ bound ∈ buckets, 0 ≤ bound) (ordered : Ordered buckets) (calls : List Call)
    (observed : ∃ seconds ∈ sinceReset calls, 0 ≤ seconds) :
    ∃ start median high top, new name buckets = .ok start ∧
      (start.run calls).snapshot.p50Seconds = some (.fin median) ∧
      (start.run calls).snapshot.p95Seconds = some (.fin high) ∧
      (start.run calls).snapshot.p99Seconds = some (.fin top) ∧ median ≤ high ∧ high ≤ top := by
  obtain ⟨start, created, blank⟩ := new_ordered name filled ordered
  have counts := blank.run (withCatchAll_wider ordered) calls
  have rising : Rising 0 (start.run calls).buckets := by
    rw [counts.bounds]
    exact rising_zero (withCatchAll_nonnegative nonnegative)
      (withCatchAll_ordered nonnegative ordered)
  have some : 0 < (start.run calls).cumulative.getLastD 0 := by
    obtain ⟨seconds, member, above⟩ := observed
    have number := (Extended.ne_nan_of_le above).2
    rw [counts.cumulative, cumulate, List.getLastD_eq_getLast?, List.getLast?_map,
      withCatchAll_last, Option.map_some, Option.getD_some, List.countP_pos_iff]
    exact ⟨seconds, member, decide_eq_true ⟨above, Extended.le_posInf number⟩⟩
  have aligned := (start.run calls).aligned
  obtain ⟨median, _, low, _⟩ := quantile_lands rising aligned some
    (by norm_num : (0 : Rat) < 0.5) (by norm_num)
  obtain ⟨high, _, middle, _⟩ := quantile_lands rising aligned some
    (by norm_num : (0 : Rat) < 0.95) (by norm_num)
  obtain ⟨top, _, last, _⟩ := quantile_lands rising aligned some
    (by norm_num : (0 : Rat) < 0.99) (by norm_num)
  refine ⟨start, median, high, top, created, low, middle, last, ?_, ?_⟩
  · exact quantile_mono rising aligned some (by norm_num) (by norm_num) (by norm_num) low middle
  · exact quantile_mono rising aligned some (by norm_num) (by norm_num) (by norm_num) middle last

end LatencyHistogram

end FlockOs.Telemetry
