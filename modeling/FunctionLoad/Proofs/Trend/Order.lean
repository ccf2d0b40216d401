import FunctionLoad.Proofs.Trend
import Mathlib.Data.List.GetD
import Mathlib.Data.List.Pairwise
import Mathlib.Data.List.Perm.Basic

/-!
# Summaries do not tell the order of a run

Users of one trend record into it as they come. A request does not depend on what was recorded
before it, and a summary depends on its samples in ascending order, so neither tells in which order
the users came.

* `Trend.mergeSort_congr`, **`Trend.summary_congr`**: a summary is one of samples in any order.
* `Trend.nearestRank_mono`, `Summary.Describes`, **`Trend.describes_summary`**: percentiles ascend
  from the least sample to the greatest, and all of them are samples.
* `Use.isRecording`, `entries_run`, `samples_run`: uses that only record, and runs of them.
* `Interleaved`, `Interleaved.perm`: the uses of several users as they come.
* **`summary_of_perm`**: requests and summaries are the same in every order.
-/

namespace FunctionLoad

/-! ## Samples in any order -/

namespace Trend

theorem pairwise_mergeSort (vs : List UInt64) : vs.mergeSort.Pairwise (· ≤ ·) := by
  have htrans : ∀ a b c : UInt64, decide (a ≤ b) = true → decide (b ≤ c) = true →
      decide (a ≤ c) = true := fun a b c => by simpa using UInt64.le_trans
  have htotal : ∀ a b : UInt64, (decide (a ≤ b) || decide (b ≤ a)) = true :=
    fun a b => by simpa using UInt64.le_total a b
  simpa using List.pairwise_mergeSort htrans htotal vs

/-- Ascending order forgets any other one. -/
theorem mergeSort_congr {vs ws : List UInt64} (h : vs.Perm ws) : vs.mergeSort = ws.mergeSort :=
  List.Perm.eq_of_pairwise (fun _ _ _ _ => UInt64.le_antisymm) (pairwise_mergeSort vs)
    (pairwise_mergeSort ws)
    ((List.mergeSort_perm vs _).trans (h.trans (List.mergeSort_perm ws _).symm))

/-- **A summary is one of samples in any order.** -/
theorem summary_congr {metric : String} {t u : Trend}
    (h : (t.samples metric).Perm (u.samples metric)) : t.summary metric = u.summary metric := by
  unfold summary
  rw [mergeSort_congr h]

/-! ## Percentiles -/

theorem rank_lt {n : Nat} (h : 0 < n) (percent : Nat) : rank n percent < n := by
  unfold rank
  omega

theorem rank_mono (n : Nat) {p q : Nat} (h : p ≤ q) : rank n p ≤ rank n q := by
  have hm : n * p / 100 ≤ n * q / 100 := Nat.div_le_div_right (Nat.mul_le_mul_left n h)
  unfold rank
  omega

section Sorted

variable {sorted : List UInt64}

theorem nearestRank_eq_getElem (h : 0 < sorted.length) (percent : Nat) :
    nearestRank sorted percent = sorted.get ⟨rank sorted.length percent, rank_lt h percent⟩ := by
  rw [nearestRank, List.getD_eq_getElem _ _ (rank_lt h percent)]
  rfl

theorem nearestRank_mem (h : sorted ≠ []) (percent : Nat) : nearestRank sorted percent ∈ sorted := by
  rw [nearestRank_eq_getElem (List.length_pos_iff.mpr h)]
  exact List.get_mem ..

/-- **Percentiles ascend.** -/
theorem nearestRank_mono (hs : sorted.Pairwise (· ≤ ·)) (h : sorted ≠ []) {p q : Nat} (hpq : p ≤ q) :
    nearestRank sorted p ≤ nearestRank sorted q := by
  have hl := List.length_pos_iff.mpr h
  rw [nearestRank_eq_getElem hl, nearestRank_eq_getElem hl]
  exact hs.rel_get_of_le (rank_mono sorted.length hpq)

/-- The percentiles of nothing and of everything bound all values. -/
theorem nearestRank_bounds (hs : sorted.Pairwise (· ≤ ·)) {v : UInt64} (h : v ∈ sorted) :
    nearestRank sorted 0 ≤ v ∧ v ≤ nearestRank sorted 100 := by
  obtain ⟨i, hi, rfl⟩ := List.getElem_of_mem h
  have hl : 0 < sorted.length := by omega
  have h0 : rank sorted.length 0 ≤ i := by simp [rank]
  have h100 : i ≤ rank sorted.length 100 := by
    unfold rank
    omega
  rw [nearestRank_eq_getElem hl, nearestRank_eq_getElem hl]
  exact ⟨hs.rel_get_of_le h0, hs.rel_get_of_le h100⟩

theorem nearestRank_zero (first : UInt64) (r : List UInt64) : nearestRank (first :: r) 0 = first := by
  simp [nearestRank, rank]

theorem nearestRank_hundred (first : UInt64) (r : List UInt64) :
    nearestRank (first :: r) 100 = r.getLastD first := by
  have hr : rank (first :: r).length 100 = r.length := by
    simp [rank]
  rw [nearestRank, hr, List.getD_eq_getElem _ _ (by simp), List.getElem_cons_length rfl]
  exact List.getLast_eq_getLastD ..

end Sorted

/-- **What a summary tells of samples.** -/
structure Summary.Describes (y : Summary) (vs : List UInt64) : Prop where
  count_eq : y.count = vs.length
  ascending : y.min ≤ y.p50 ∧ y.p50 ≤ y.p95 ∧ y.p95 ≤ y.p99 ∧ y.p99 ≤ y.max
  mem : ∀ v ∈ [y.min, y.p50, y.p95, y.p99, y.max], v ∈ vs
  bounds : ∀ v ∈ vs, y.min ≤ v ∧ v ≤ y.max

/-- A summary in terms of samples in ascending order: its bounds are percentiles as well. -/
theorem summary_eq_some {metric : String} {t : Trend} (h : t.samples metric ≠ []) :
    t.summary metric = some {
      count := (t.samples metric).mergeSort.length
      min := nearestRank (t.samples metric).mergeSort 0
      max := nearestRank (t.samples metric).mergeSort 100
      mean := mean (t.samples metric).mergeSort
      p50 := nearestRank (t.samples metric).mergeSort 50
      p95 := nearestRank (t.samples metric).mergeSort 95
      p99 := nearestRank (t.samples metric).mergeSort 99 } := by
  unfold summary
  cases hs : (t.samples metric).mergeSort with
  | nil =>
    have hl : (t.samples metric).mergeSort.length = (t.samples metric).length :=
      List.length_mergeSort _
    rw [hs] at hl
    exact absurd (List.length_eq_zero_iff.mp hl.symm) h
  | cons first r => rw [nearestRank_zero, nearestRank_hundred]

/-- **Percentiles ascend from the least sample to the greatest**, and all of them are samples. -/
theorem describes_summary {metric : String} {t : Trend} (h : t.samples metric ≠ []) :
    ∃ y, t.summary metric = some y ∧ y.Describes (t.samples metric) := by
  have hperm := List.mergeSort_perm (t.samples metric) (fun a b : UInt64 => decide (a ≤ b))
  have hs := pairwise_mergeSort (t.samples metric)
  have hne : (t.samples metric).mergeSort ≠ [] := fun he =>
    h (List.perm_nil.mp (he ▸ hperm.symm))
  refine ⟨_, summary_eq_some h, ?_, ?_, ?_, ?_⟩
  · exact hperm.length_eq
  · refine ⟨?_, ?_, ?_, ?_⟩ <;> exact nearestRank_mono hs hne (by decide)
  · simp only [List.forall_mem_cons, ← hperm.mem_iff]
    exact ⟨nearestRank_mem hne _, nearestRank_mem hne _, nearestRank_mem hne _,
      nearestRank_mem hne _, nearestRank_mem hne _, List.forall_mem_nil _⟩
  · exact fun v hv => nearestRank_bounds hs (hperm.mem_iff.mpr hv)

end Trend

namespace Measurement

/-! ## Uses that only record -/

/-- Uses that record and read nothing: of a value, or of the size of a body. -/
def Use.isRecording : Use → Bool
  | record _ _ | wrap _ | prepare _ _ _ => true
  | discard _ _ | clear | samples _ | count _ | summary _ => false

/-- What a use gives back to its first user. -/
def Use.reply (u : Use) : Answer :=
  (u.apply {}).value.1

/-- **What is given back does not depend on what was recorded before.** -/
theorem Use.reply_eq {u : Use} (h : u.isRecording = true) (s : Sinks) :
    (u.apply s).value.1 = u.reply := by
  cases u with
  | record m value => rfl
  | wrap input => cases input <;> rfl
  | prepare c function input => cases input <;> rfl
  | _ => cases h

theorem Use.not_isClear {u : Use} (h : u.isRecording = true) : u.isClear = false := by
  cases u with
  | clear => cases h
  | _ => rfl

/-- What a use records under a metric. -/
def Use.recordedUnder (metric : String) (u : Use) : Option UInt64 :=
  measuredUnder metric (u, u.reply)

/-- A use appends what it records. -/
theorem Use.samples_apply_of_isRecording {u : Use} (h : u.isRecording = true) (s : Sinks)
    (metric : String) : (u.apply s).value.2.trend.samples metric =
      s.trend.samples metric ++ (u.recordedUnder metric).toList := by
  rw [u.samples_apply, u.not_isClear h, u.reply_eq h]
  rfl

/-- Every use of a run gives back what it gives to its first user. -/
theorem entries_run {us : List Use} (h : ∀ u ∈ us, u.isRecording = true) (s : Sinks) :
    (run us s).value.1 = us.map fun u => (u, u.reply) := by
  induction us generalizing s with
  | nil => rfl
  | cons u us ih =>
    rw [List.forall_mem_cons] at h
    rw [run_cons, List.map_cons, ih h.2, Use.reply_eq h.1]

/-- A run appends what its uses record. -/
theorem samples_run {us : List Use} (h : ∀ u ∈ us, u.isRecording = true) (s : Sinks)
    (metric : String) : (run us s).value.2.trend.samples metric =
      s.trend.samples metric ++ us.filterMap (Use.recordedUnder metric) := by
  induction us generalizing s with
  | nil => exact (List.append_nil _).symm
  | cons u us ih =>
    rw [List.forall_mem_cons] at h
    rw [run_cons, ih h.2, Use.samples_apply_of_isRecording h.1, List.append_assoc]
    congr 1
    cases hu : u.recordedUnder metric <;> simp [hu]

/-! ## Several users -/

/-- **The uses of several users as they come**: each time one of the users goes on. -/
inductive Interleaved {α : Type} : List (List α) → List α → Prop
  | done {users : List (List α)} (h : ∀ user ∈ users, user = []) : Interleaved users []
  | next {before after : List (List α)} {a : α} {user l : List α}
      (h : Interleaved (before ++ user :: after) l) :
      Interleaved (before ++ (a :: user) :: after) (a :: l)

/-- What comes from several users is what they do, in some order. -/
theorem Interleaved.perm {α : Type} {users : List (List α)} {l : List α}
    (h : Interleaved users l) : l.Perm users.flatten := by
  induction h with
  | done h => rw [List.flatten_eq_nil_iff.mpr h]
  | next _ ih =>
    simp only [List.flatten_append, List.flatten_cons, List.cons_append] at ih ⊢
    exact (ih.cons _).trans List.perm_middle.symm

variable {us vs : List Use}

/-- **Requests and summaries are the same in every order of a run**, whatever was recorded before
it: a use gives back the same in both runs, wherever it stands, and there is one summary for every
metric. So it is for any two ways in which several users can come. A summary of samples counts them;
its least, its percentiles and its greatest ascend, are samples, and bound all of them. -/
theorem summary_of_perm (hp : us.Perm vs) (hr : ∀ u ∈ us, u.isRecording = true) (s : Sinks) :
    (∀ (i j : ℕ) (u : Use), us[i]? = some u → vs[j]? = some u →
      ∃ a, (run us s).value.1[i]? = some (u, a) ∧ (run vs s).value.1[j]? = some (u, a)) ∧
    (∀ metric, (run us s).value.2.trend.summary metric =
      (run vs s).value.2.trend.summary metric) ∧
    (∀ (users : List (List Use)) (l l' : List Use), Interleaved users l → Interleaved users l' →
      l.Perm l') ∧
    ∀ (t : Trend) (metric : String), t.samples metric ≠ [] →
      ∃ y, t.summary metric = some y ∧ y.Describes (t.samples metric) := by
  have hr' : ∀ v ∈ vs, v.isRecording = true := fun v hv => hr v (hp.mem_iff.mpr hv)
  refine ⟨fun i j u hi hj => ⟨u.reply, ?_, ?_⟩, fun metric => ?_,
    fun users l l' h h' => h.perm.trans h'.perm.symm, fun t metric => Trend.describes_summary⟩
  · rw [entries_run hr, List.getElem?_map, hi]
    rfl
  · rw [entries_run hr', List.getElem?_map, hj]
    rfl
  · apply Trend.summary_congr
    rw [samples_run hr, samples_run hr']
    exact (hp.filterMap _).append_left _

/-- Of two users one prepares a request and the other one records: who comes first cannot be seen. -/
theorem summary_of_two_users :
    ∃ u v : Use,
      u = .prepare ⟨"http://localhost:30080", .sync, .ofSeconds 30⟩ "word-stats-java" (.ok .null) ∧
      v = .record payloadSize 3 ∧ (∀ w ∈ [u, v], w.isRecording = true) ∧
      Interleaved [[u], [v]] [u, v] ∧ Interleaved [[u], [v]] [v, u] ∧
      (run [u, v] {}).value.1[0]? = (run [v, u] {}).value.1[1]? ∧
      (run [u, v] {}).value.2.trend.summary payloadSize =
        (run [v, u] {}).value.2.trend.summary payloadSize ∧
      ∃ y, (Trend.record payloadSize 3 {}).summary payloadSize = some y ∧ y.Describes [3] := by
  refine ⟨_, _, rfl, rfl, ?_⟩
  generalize hu : Use.prepare ⟨"http://localhost:30080", .sync, .ofSeconds 30⟩ "word-stats-java"
    (.ok .null) = u
  generalize hv : Use.record payloadSize 3 = v
  have hr : ∀ w ∈ [u, v], w.isRecording = true := by
    simp [← hu, ← hv, Use.isRecording]
  have huv : Interleaved ([] ++ [u] :: [[v]]) [u, v] :=
    have h : Interleaved ([[]] ++ [v] :: []) [v] := .next (.done (by simp))
    .next h
  have hvu : Interleaved ([[u]] ++ [v] :: []) [v, u] :=
    have h : Interleaved ([] ++ [u] :: [[]]) [u] := .next (.done (by simp))
    .next h
  obtain ⟨hanswer, hsummary, -, hdescribes⟩ := summary_of_perm (List.Perm.swap v u []) hr {}
  obtain ⟨a, ha, ha'⟩ := hanswer 0 1 u rfl rfl
  exact ⟨hr, huv, hvu, ha.trans ha'.symm, hsummary payloadSize,
    hdescribes (Trend.record payloadSize 3 {}) payloadSize (List.cons_ne_nil 3 [])⟩

end Measurement

end FunctionLoad
