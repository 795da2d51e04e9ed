import FlockOs.Base
import FlockOs.Lib.Extended
import FlockOs.Lib.Cumulative

/-!
# Latency histograms

`telemetry.py`: a histogram of latencies counts each observation in its bucket and in every bucket
above it, and its percentiles are interpolated from these counts. Latencies are floating-point
values; their sums and the interpolation are exact.
-/

namespace FlockOs.Telemetry

open Lib

/-- `DEFAULT_LATENCY_BUCKETS`. -/
def defaultLatencyBuckets : List Extended :=
  [.fin 0.005, .fin 0.01, .fin 0.025, .fin 0.05, .fin 0.1, .fin 0.15, .fin 0.25, .fin 0.4,
    .fin 0.5, .fin 0.75, .fin 1.0, .fin 2.5, .fin 5.0, .fin 10.0, .posInf]

/-- The value that the loop over the buckets returns, if it returns one. -/
def scanBuckets (target : Rat) : List (Extended × Nat) → Nat → Extended → Option Extended
  | [], _, _ => none
  | (upper, count) :: rest, prevCount, prevBound =>
    if target ≤ count then
      let within : Int := count - prevCount
      if within ≤ 0 ∨ upper = .posInf then
        some (if upper ≠ .posInf then upper else prevBound)
      else
        let frac := (target - prevCount) / within
        let span := upper - prevBound
        some (prevBound + .scale frac span)
    else scanBuckets target rest count (if upper ≠ .posInf then upper else prevBound)

/-- `_quantile_from_cumulative`. -/
def quantileFromCumulative (buckets : List Extended) (cumulative : List Nat) (quantile : Rat) :
    Option Extended :=
  let total := cumulative.getLastD 0
  if total ≤ 0 then none
  else
    (scanBuckets (quantile * total) (buckets.zip cumulative) 0 0).or
      (buckets.getLast?.filter (· ≠ .posInf))

/-- `LatencyHistogramSnapshot`. -/
structure LatencyHistogramSnapshot where
  name : String
  count : Nat
  sumSeconds : Extended
  buckets : List Extended
  bucketCounts : List Nat
  p50Seconds : Option Extended
  p95Seconds : Option Extended
  p99Seconds : Option Extended
deriving DecidableEq, Repr

/-- `LatencyHistogramSnapshot.mean_seconds`. -/
def LatencyHistogramSnapshot.meanSeconds (snapshot : LatencyHistogramSnapshot) :
    Option Extended :=
  if snapshot.count ≠ 0 then some (.scale (1 / snapshot.count) snapshot.sumSeconds) else none

/-- `LatencyHistogram`. -/
structure LatencyHistogram where
  name : String
  buckets : List Extended
  count : Nat
  sum : Extended
  cumulative : List Nat
  /-- Each bucket has a count. -/
  aligned : cumulative.length = buckets.length
deriving DecidableEq, Repr

namespace LatencyHistogram

/-- The buckets with a catch-all at the end. -/
def withCatchAll (buckets : List Extended) : List Extended :=
  if buckets.getLast? = some .posInf then buckets else buckets ++ [.posInf]

/-- `LatencyHistogram(name, buckets)`. -/
def new (name : String) (buckets : List Extended) : Except Error LatencyHistogram :=
  if buckets = [] then .error (.value "LatencyHistogram requires at least one bucket")
  else if (buckets.zip buckets.tail).any fun (bound, following) => following < bound then
    .error (.value "LatencyHistogram buckets must be non-decreasing")
  else
    let buckets := withCatchAll buckets
    .ok ⟨name, buckets, 0, 0, List.replicate buckets.length 0, List.length_replicate⟩

/-- `LatencyHistogram.observe`. -/
def observe (histogram : LatencyHistogram) (seconds : Extended) : LatencyHistogram :=
  if seconds < 0 then histogram
  else
    { histogram with
      count := histogram.count + 1
      sum := histogram.sum + seconds
      cumulative := land (seconds ≤ ·) histogram.buckets histogram.cumulative
      aligned := (length_land ..).trans histogram.aligned }

/-- `LatencyHistogram.snapshot`. -/
def snapshot (histogram : LatencyHistogram) : LatencyHistogramSnapshot :=
  { name := histogram.name
    count := histogram.count
    sumSeconds := histogram.sum
    buckets := histogram.buckets
    bucketCounts := histogram.cumulative
    p50Seconds := quantileFromCumulative histogram.buckets histogram.cumulative 0.5
    p95Seconds := quantileFromCumulative histogram.buckets histogram.cumulative 0.95
    p99Seconds := quantileFromCumulative histogram.buckets histogram.cumulative 0.99 }

/-- `LatencyHistogram.reset`. -/
def reset (histogram : LatencyHistogram) : LatencyHistogram :=
  { histogram with
    count := 0
    sum := 0
    cumulative := List.replicate histogram.buckets.length 0
    aligned := List.length_replicate }

/-- A call that changes a histogram. -/
inductive Call where
  | observe (seconds : Extended)
  | reset
deriving DecidableEq, Repr

/-- One call. -/
def call (histogram : LatencyHistogram) : Call → LatencyHistogram
  | .observe seconds => histogram.observe seconds
  | .reset => histogram.reset

/-- Calls one after the other. -/
def run (histogram : LatencyHistogram) (calls : List Call) : LatencyHistogram :=
  calls.foldl call histogram

end LatencyHistogram

end FlockOs.Telemetry
