import FunctionLoad.Decimal.Binary64

/-!
# Distributions of sizes

* `Sink`: what takes measured values; `Discard` keeps none.
* `Trend`: the values of every metric, and `Trend.samples` of one of them in their order.
* `nearestRank`: the value of a sorted list that a percentage of its length points to.
* **`Trend.summary`**: the bounds, the mean and the percentiles of a metric.
* **`Trend.samples_record`**, **`Trend.samples_clear`**: what recording and clearing do to samples.
-/

namespace FunctionLoad

open FunctionLoad.Decimal

/-- What takes measured values. -/
class Sink (σ : Type) where
  /-- The sink after one more value of a metric. -/
  record : String → UInt64 → σ → σ

/-- A sink that keeps nothing. -/
structure Discard where
  deriving Repr, DecidableEq

instance : Sink Discard := ⟨fun _ _ d => d⟩

/-- The name of the metric for the sizes of payloads. -/
def payloadSize : String := "payload_size_bytes"

/-- The values of every metric, newest first. -/
structure Trend where
  metrics : List (String × List UInt64) := []
  deriving Repr, DecidableEq

namespace Trend

/-- Puts a value in front of those of a metric. -/
def insert (metric : String) (value : UInt64) :
    List (String × List UInt64) → List (String × List UInt64)
  | [] => [(metric, [value])]
  | (m, vs) :: r => if m = metric then (m, value :: vs) :: r else (m, vs) :: insert metric value r

/-- The trend with one more value of a metric. -/
def record (metric : String) (value : UInt64) (t : Trend) : Trend :=
  ⟨insert metric value t.metrics⟩

instance : Sink Trend := ⟨record⟩

/-- The trend without any values. -/
def clear (_ : Trend) : Trend :=
  {}

/-- The values of a metric in their order. -/
def samples (metric : String) (t : Trend) : List UInt64 :=
  ((t.metrics.lookup metric).getD []).reverse

/-- How many values a metric has. -/
def count (metric : String) (t : Trend) : Nat :=
  (t.samples metric).length

/-- The bounds, the mean and the percentiles of a metric. -/
structure Summary where
  count : Nat
  min : UInt64
  max : UInt64
  mean : Float
  p50 : UInt64
  p95 : UInt64
  p99 : UInt64

/-- The position in a sorted list of length `n` that a percentage points to. -/
def rank (n percent : Nat) : Nat :=
  min (n * percent / 100) (n - 1)

/-- The value of a sorted list that a percentage of its length points to. -/
def nearestRank (sorted : List UInt64) (percent : Nat) : UInt64 :=
  sorted.getD (rank sorted.length percent) 0

/-- The exact sum of values. -/
def total (vs : List UInt64) : Nat :=
  vs.foldr (fun v n => v.toNat + n) 0

/-- The quotient of the doubles nearest to a sum and a count. -/
def mean (vs : List UInt64) : Float :=
  ofDecimal (total vs) 0 / ofDecimal vs.length 0

/-- **The summary of a metric**, if it has any values. -/
def summary (metric : String) (t : Trend) : Option Summary :=
  match (t.samples metric).mergeSort with
  | [] => none
  | first :: r =>
    let sorted := first :: r
    some {
      count := sorted.length
      min := first
      max := r.getLastD first
      mean := mean sorted
      p50 := nearestRank sorted 50
      p95 := nearestRank sorted 95
      p99 := nearestRank sorted 99 }

/-! ## What recording and clearing do to samples -/

theorem lookup_insert (metric other : String) (value : UInt64) (l : List (String × List UInt64)) :
    ((insert metric value l).lookup other).getD [] =
      if other = metric then value :: (l.lookup other).getD [] else (l.lookup other).getD [] := by
  induction l with
  | nil =>
    by_cases h : other = metric
    · simp [insert, h]
    · simp [insert, List.lookup_cons, beq_eq_false_iff_ne.2 h, h]
  | cons p r ih =>
    obtain ⟨m, vs⟩ := p
    by_cases hm : m = metric
    · subst hm
      by_cases h : other = m
      · simp [insert, h]
      · simp [insert, List.lookup_cons, beq_eq_false_iff_ne.2 h, h]
    · by_cases h : other = m
      · subst h
        simp [insert, hm]
      · simp [insert, hm, List.lookup_cons, beq_eq_false_iff_ne.2 h, ih]

/-- **Recording appends to the samples of its metric** and leaves the others alone. -/
theorem samples_record (metric other : String) (value : UInt64) (t : Trend) :
    (t.record metric value).samples other =
      if other = metric then t.samples other ++ [value] else t.samples other := by
  unfold samples record
  rw [lookup_insert]
  split <;> simp

/-- **Clearing leaves no samples.** -/
theorem samples_clear (metric : String) (t : Trend) : t.clear.samples metric = [] := rfl

end Trend

end FunctionLoad
