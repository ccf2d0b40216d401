import FunctionLoad.Proofs.Trend.Order
import Mathlib.Order.Bounds.Basic

/-!
# What the percentiles of a summary are

The nearest-rank percentile of samples is the least one such that a percentage of them all, or more, is
not above it. A summary looks at the place behind that percentage instead, so it reports the least
sample that more than the percentage is not above. Where the samples can be cut at the percentage
exactly, this is the next greater one.

* `countUpTo`, `reaching`, `exceeding`: how much of all samples is not above one of them.
* `IsPercentile`, `IsCut`: nearest-rank percentiles, and samples at which exactly a percentage is reached.
* `getElem_le_iff`, **`isLeast_nearestRank`**: places of a sorted list in terms of counts.
* **`isPercentile_iff`**, `isLeast_above`: the least sample with more than a percentage is the percentile
  just if there is no cut, and the next one otherwise.
* **`percentiles_summary`**: what summaries report.
-/

namespace FunctionLoad.Trend

/-! ## Shares of samples -/

/-- How many values are not above a bound. -/
def countUpTo (bound : UInt64) (vs : List UInt64) : Nat :=
  vs.countP (· ≤ bound)

/-- The values such that a percentage of all values, or more, is not above them. -/
def reaching (percent : Nat) (vs : List UInt64) : Set UInt64 :=
  {v | v ∈ vs ∧ percent * vs.length ≤ 100 * countUpTo v vs}

/-- The values such that more than a percentage of all values is not above them. -/
def exceeding (percent : Nat) (vs : List UInt64) : Set UInt64 :=
  {v | v ∈ vs ∧ percent * vs.length < 100 * countUpTo v vs}

/-- **A nearest-rank percentile**: the least value such that the percentage of all values, or more, is
not above it. -/
def IsPercentile (percent : Nat) (vs : List UInt64) (v : UInt64) : Prop :=
  IsLeast (reaching percent vs) v

/-- Whether exactly a percentage of all values is not above a value. -/
def IsCut (percent : Nat) (vs : List UInt64) (v : UInt64) : Prop :=
  100 * countUpTo v vs = percent * vs.length

section

variable {vs ws : List UInt64} {percent : Nat}

theorem exceeding_congr (h : vs.Perm ws) : exceeding percent vs = exceeding percent ws := by
  ext v
  simp only [exceeding, countUpTo, Set.mem_ofPred_eq, h.mem_iff, h.length_eq, h.countP_eq]

theorem exceeding_subset : exceeding percent vs ⊆ reaching percent vs :=
  fun _ hv => ⟨hv.1, hv.2.le⟩

theorem countUpTo_mono {v w : UInt64} (h : v ≤ w) : countUpTo v vs ≤ countUpTo w vs := by
  refine List.countP_mono_left fun u _ hu => ?_
  rw [decide_eq_true_eq] at hu ⊢
  exact UInt64.le_trans hu h

/-- A value counts for itself. -/
theorem countUpTo_lt {v w : UInt64} (hv : v ∈ vs) (h : w < v) :
    countUpTo w vs < countUpTo v vs := by
  obtain ⟨before, after, rfl⟩ := List.append_of_mem hv
  have hbefore : countUpTo w before ≤ countUpTo v before := countUpTo_mono (UInt64.le_of_lt h)
  have hafter : countUpTo w after ≤ countUpTo v after := countUpTo_mono (UInt64.le_of_lt h)
  have hw : ¬ v ≤ w := UInt64.not_le.mpr h
  have hself : v ≤ v := UInt64.le_refl v
  simp only [countUpTo, List.countP_append, List.countP_cons, decide_eq_true_eq, if_neg hw,
    if_pos hself] at hbefore hafter ⊢
  omega

/-! ## Percentiles and cuts -/

variable {v : UInt64}

/-- **What has more than the percentage first is the percentile just if there is no cut.** -/
theorem isPercentile_iff (h : IsLeast (exceeding percent vs) v) :
    IsPercentile percent vs v ↔ ∀ w ∈ vs, ¬ IsCut percent vs w := by
  obtain ⟨⟨hv, hmore⟩, hleast⟩ := h
  constructor
  · rintro ⟨-, hp⟩ w hw hcut
    -- a cut has the percentage, so it would not be below the percentile
    have hvw : v ≤ w := hp ⟨hw, hcut.ge⟩
    have hcount : countUpTo v vs ≤ countUpTo w vs := countUpTo_mono hvw
    unfold IsCut at hcut
    omega
  · intro hcut
    refine ⟨⟨hv, hmore.le⟩, fun w ⟨hw, hreach⟩ => hleast ⟨hw, ?_⟩⟩
    exact lt_of_le_of_ne hreach fun he => hcut w hw he.symm

/-- Where it is not the percentile, it is the next value above the percentile. -/
theorem isLeast_above (h : IsLeast (exceeding percent vs) v) {w : UInt64}
    (hw : IsPercentile percent vs w) (hne : w ≠ v) : IsLeast {u | u ∈ vs ∧ w < u} v := by
  have hwv : w ≤ v := hw.2 (exceeding_subset h.1)
  refine ⟨⟨h.1.1, UInt64.lt_of_le_of_ne hwv hne⟩, fun u ⟨hu, hlt⟩ => h.2 ⟨hu, ?_⟩⟩
  have hcount := countUpTo_lt hu hlt
  have hreach := hw.1.2
  omega

end

/-! ## Places of a sorted list -/

section Sorted

variable {sorted : List UInt64} (hs : sorted.Pairwise (· ≤ ·))
include hs

/-- **What is not above a bound stands in front.** -/
theorem getElem_le_iff {i : Nat} (hi : i < sorted.length) (bound : UInt64) :
    sorted[i] ≤ bound ↔ i < countUpTo bound sorted := by
  induction sorted generalizing i with
  | nil => cases hi
  | cons first r ih =>
    obtain ⟨hfirst, hr⟩ := List.pairwise_cons.mp hs
    by_cases hb : first ≤ bound
    · have hcount : countUpTo bound (first :: r) = countUpTo bound r + 1 :=
        List.countP_cons_of_pos (decide_eq_true hb)
      rw [hcount]
      cases i with
      | zero => exact iff_of_true hb (Nat.succ_pos _)
      | succ i =>
        rw [List.getElem_cons_succ, ih hr, Nat.succ_lt_succ_iff]
    · -- then nothing behind it is below the bound either
      have hall : ∀ v ∈ first :: r, first ≤ v :=
        List.forall_mem_cons.mpr ⟨UInt64.le_refl first, hfirst⟩
      have hnone : ∀ v ∈ first :: r, ¬ v ≤ bound := fun v hv hvb =>
        hb (UInt64.le_trans (hall v hv) hvb)
      have hcount : countUpTo bound (first :: r) = 0 :=
        List.countP_eq_zero.mpr fun v hv => by simpa using hnone v hv
      rw [hcount]
      exact iff_of_false (hnone _ (List.getElem_mem hi)) (Nat.not_lt_zero i)

variable (h : sorted ≠ []) {percent : Nat} (hp : percent < 100)
include h hp

theorem nearestRank_le_iff (bound : UInt64) : nearestRank sorted percent ≤ bound ↔
    percent * sorted.length < 100 * countUpTo bound sorted := by
  have hl := List.length_pos_iff.mpr h
  -- below one hundred percent the last place is not passed
  have hrank : rank sorted.length percent = sorted.length * percent / 100 := by
    have hlt : sorted.length * percent / 100 < sorted.length := by
      rw [Nat.div_lt_iff_lt_mul (by decide)]
      exact Nat.mul_lt_mul_of_pos_left hp hl
    unfold rank
    omega
  rw [nearestRank_eq_getElem hl, List.get_eq_getElem, getElem_le_iff hs, Fin.val_mk, hrank,
    Nat.div_lt_iff_lt_mul (by decide), Nat.mul_comm percent, Nat.mul_comm 100]

/-- **The place behind a percentage is the first one with more than it.** -/
theorem isLeast_nearestRank :
    IsLeast (exceeding percent sorted) (nearestRank sorted percent) := by
  refine ⟨⟨nearestRank_mem h percent, ?_⟩, fun v hv => ?_⟩
  · exact (nearestRank_le_iff hs h hp _).mp (UInt64.le_refl _)
  · exact (nearestRank_le_iff hs h hp v).mpr hv.2

end Sorted

/-! ## Summaries -/

/-- The percentiles that a summary reports. -/
def Summary.percentiles (y : Summary) : List (Nat × UInt64) :=
  [(50, y.p50), (95, y.p95), (99, y.p99)]

/-- **What a summary reports for a percentage** is the least sample such that more than the percentage of
all samples is not above it. This is the nearest-rank percentile just if there is no sample with exactly
the percentage, as when the percentage is no whole number of samples. Else it is the next greater
sample. -/
theorem percentiles_summary {metric : String} {t : Trend} (h : t.samples metric ≠ []) :
    ∃ y, t.summary metric = some y ∧ ∀ q ∈ y.percentiles,
      IsLeast (exceeding q.1 (t.samples metric)) q.2 ∧
      (IsPercentile q.1 (t.samples metric) q.2 ↔
        ∀ w ∈ t.samples metric, ¬ IsCut q.1 (t.samples metric) w) ∧
      (¬ 100 ∣ q.1 * (t.samples metric).length → IsPercentile q.1 (t.samples metric) q.2) ∧
      ∀ w, IsPercentile q.1 (t.samples metric) w → w ≠ q.2 →
        IsLeast {u | u ∈ t.samples metric ∧ w < u} q.2 := by
  have hperm := List.mergeSort_perm (t.samples metric) (fun a b : UInt64 => decide (a ≤ b))
  have hs := pairwise_mergeSort (t.samples metric)
  have hne : (t.samples metric).mergeSort ≠ [] := fun he =>
    h (List.perm_nil.mp (he ▸ hperm.symm))
  have hleast (percent : Nat) (hp : percent < 100) : IsLeast (exceeding percent (t.samples metric))
      (nearestRank (t.samples metric).mergeSort percent) := by
    rw [← exceeding_congr hperm]
    exact isLeast_nearestRank hs hne hp
  refine ⟨_, summary_eq_some h, fun q hq => ?_⟩
  have hq : IsLeast (exceeding q.1 (t.samples metric)) q.2 := by
    simp only [Summary.percentiles, List.mem_cons, List.not_mem_nil, or_false] at hq
    rcases hq with rfl | rfl | rfl
    · exact hleast 50 (by decide)
    · exact hleast 95 (by decide)
    · exact hleast 99 (by decide)
  refine ⟨hq, isPercentile_iff hq, fun hdvd => ?_, fun w => isLeast_above hq⟩
  exact (isPercentile_iff hq).mpr fun w _ hcut => hdvd ⟨_, hcut.symm⟩

/-- Half of three samples is no whole number, so the one in the middle is the percentile. -/
theorem percentiles_summary_three :
    (⟨[("size", [2, 1, 3])]⟩ : Trend).samples "size" ≠ [] ∧
      ∃ y, (⟨[("size", [2, 1, 3])]⟩ : Trend).summary "size" = some y ∧ y.p50 = 2 ∧
        IsPercentile 50 [3, 1, 2] 2 := by
  have h : (⟨[("size", [2, 1, 3])]⟩ : Trend).samples "size" ≠ [] := List.cons_ne_nil 3 [1, 2]
  have hperm : ([3, 1, 2] : List UInt64).Perm [1, 2, 3] := by decide
  have hsort : ([3, 1, 2] : List UInt64).mergeSort = [1, 2, 3] :=
    (mergeSort_congr hperm).trans (List.mergeSort_of_pairwise (by decide))
  obtain ⟨y, hy, hall⟩ := percentiles_summary h
  obtain ⟨-, -, hdvd, -⟩ := hall (50, y.p50) List.mem_cons_self
  have hp50 : y.p50 = nearestRank ([3, 1, 2] : List UInt64).mergeSort 50 := by
    rw [summary_eq_some h] at hy
    exact (congrArg Summary.p50 (Option.some.inj hy)).symm
  rw [hsort] at hp50
  have hp50 : y.p50 = 2 := hp50
  refine ⟨h, y, hy, hp50, ?_⟩
  have hpercentile : IsPercentile 50 [3, 1, 2] y.p50 := hdvd (by decide : ¬ 100 ∣ 50 * 3)
  rwa [hp50] at hpercentile

/-- Half of two samples is the lesser one, but the greater one is reported. -/
theorem not_percentile_two :
    ∃ y, (⟨[("size", [2, 1])]⟩ : Trend).summary "size" = some y ∧ y.p50 = 2 ∧
      IsPercentile 50 ((⟨[("size", [2, 1])]⟩ : Trend).samples "size") 1 ∧
      ¬ IsPercentile 50 ((⟨[("size", [2, 1])]⟩ : Trend).samples "size") y.p50 := by
  have hsort : ([1, 2] : List UInt64).mergeSort = [1, 2] := List.mergeSort_of_pairwise (by decide)
  have h : (⟨[("size", [2, 1])]⟩ : Trend).samples "size" ≠ [] := List.cons_ne_nil 1 [2]
  have hone : (1 : UInt64) ∈ reaching 50 [1, 2] := ⟨by decide, by decide⟩
  refine ⟨_, summary_eq_some h, ?_, ⟨hone, fun v hv => ?_⟩, fun hp => ?_⟩
  · show nearestRank ([1, 2] : List UInt64).mergeSort 50 = 2
    rw [hsort]
    rfl
  · obtain rfl | rfl : v = 1 ∨ v = 2 := List.mem_pair.mp hv.1
    · decide
    · decide
  · have hle : nearestRank ([1, 2] : List UInt64).mergeSort 50 ≤ 1 := hp.2 hone
    rw [hsort] at hle
    exact absurd hle (by decide)

end FunctionLoad.Trend
