import FunctionLoad.Invocation.Context
import Mathlib.Data.List.DropRight

/-!
# What a trend keeps over whole runs

A trend is recorded into directly, by wrapping inputs and by preparing requests, and it is cleared
and read in between. What it tells is the history since it was cleared.

* `Use`, `Answer`, `Use.apply`, `run`: uses of the sinks, one after another.
* `measured`, `recorded`: what a history recorded under a metric since the last clear.
* `Use.samples_apply`, `tells_apply`: one more use is one more entry.
* `tells_run`, `exists_apply_of_run`: whole runs, and every point of them.
* **`trend_tells_history`**: samples, counts and summaries are those of the history.
-/

namespace FunctionLoad.Measurement

open FunctionLoad.Invocation

/-! ## Uses -/

/-- The sinks of a run. -/
structure Sinks where
  trend : Trend := {}
  noop : Discard := {}

/-- A use of the sinks. An input comes as its JSON, or as the reason why it has none. -/
inductive Use where
  | record (metric : String) (value : UInt64)
  | discard (metric : String) (value : UInt64)
  | wrap (input : Except InvalidJson Json.Value)
  | prepare (context : Context) (function : String) (input : Except InvalidJson Json.Value)
  | clear
  | samples (metric : String)
  | count (metric : String)
  | summary (metric : String)

/-- What a use gives back. -/
inductive Answer where
  | done
  | body (result : Except InvalidJson String)
  | request (result : Except InvalidJson Request)
  | samples (values : List UInt64)
  | count (n : Nat)
  | summary (summary : Option Trend.Summary)

namespace Use

/-- **One use of the sinks**: what it gives back, and the sinks after it. -/
def apply (u : Use) (s : Sinks) : Logged (Answer × Sinks) :=
  match u with
  | record metric value => pure (.done, { s with trend := Sink.record metric value s.trend })
  | discard metric value => pure (.done, { s with noop := Sink.record metric value s.noop })
  | wrap input => (fun p => (.body p.1, { s with trend := p.2 })) <$> tryWrap input s.trend
  | prepare c function input =>
    (fun p => (.request p.1, { s with trend := p.2 })) <$> c.tryPrepare function input s.trend
  | clear => pure (.done, { s with trend := s.trend.clear })
  | samples metric => pure (.samples (s.trend.samples metric), s)
  | count metric => pure (.count (s.trend.count metric), s)
  | summary metric => pure (.summary (s.trend.summary metric), s)

/-- Whether a use clears the trend. -/
def isClear : Use → Bool
  | clear => true
  | _ => false

/-- Uses that read the trend or record nowhere. -/
def isIdle : Use → Bool
  | discard _ _ | samples _ | count _ | summary _ => true
  | record _ _ | wrap _ | prepare _ _ _ | clear => false

end Use

/-- A use with what it gave back. -/
abbrev Entry := Use × Answer

/-- **Uses one after another**: the entries of all of them, and the sinks after them. -/
def run : List Use → Sinks → Logged (List Entry × Sinks)
  | [], s => pure ([], s)
  | u :: us, s => do
    let (a, s) ← u.apply s
    let (entries, s) ← run us s
    return ((u, a) :: entries, s)

/-! ## Histories -/

/-- The metric and the value that an entry records: what was asked to be recorded, or the number of
bytes of the body that was given back. -/
def measured : Entry → Option (String × UInt64)
  | (.record metric value, _) => some (metric, value)
  | (.wrap _, .body (.ok body)) => some (payloadSize, UInt64.ofNat body.toUTF8.size)
  | (.prepare _ _ _, .request (.ok request)) =>
    some (payloadSize, UInt64.ofNat request.body.toUTF8.size)
  | _ => none

/-- The value that an entry records under a metric. -/
def measuredUnder (metric : String) (e : Entry) : Option UInt64 :=
  ((measured e).filter (·.1 = metric)).map Prod.snd

/-- **What a history recorded under a metric since the last clear**, in its order. -/
def recorded (metric : String) (entries : List Entry) : List UInt64 :=
  (entries.rtakeWhile fun e => !e.1.isClear).filterMap (measuredUnder metric)

theorem recorded_concat (metric : String) (entries : List Entry) (e : Entry) :
    recorded metric (entries ++ [e]) =
      if e.1.isClear then [] else recorded metric entries ++ (measuredUnder metric e).toList := by
  unfold recorded
  rw [List.rtakeWhile_concat]
  cases e.1.isClear with
  | true => rfl
  | false =>
    simp only [Bool.not_false, if_true, List.filterMap_append, Bool.false_eq_true, if_false]
    cases h : measuredUnder metric e <;> simp [h]

/-! ## Runs -/

theorem samples_record_under (metric m : String) (value : UInt64) (t : Trend) :
    (t.record m value).samples metric =
      t.samples metric ++ (((some (m, value)).filter (·.1 = metric)).map Prod.snd).toList := by
  rw [Trend.samples_record]
  by_cases h : m = metric
  · subst h
    simp [Option.filter]
  · simp [h, Ne.symm h]

/-- **What one use does to samples**: it clears all of them, or appends what it recorded. -/
theorem Use.samples_apply (u : Use) (s : Sinks) (metric : String) :
    (u.apply s).value.2.trend.samples metric =
      if u.isClear then [] else
        s.trend.samples metric ++ (measuredUnder metric (u, (u.apply s).value.1)).toList := by
  cases u with
  | record m value => exact samples_record_under metric m value s.trend
  | wrap input =>
    cases input with
    | error e => exact (List.append_nil _).symm
    | ok v => exact samples_record_under metric payloadSize _ s.trend
  | prepare c function input =>
    cases input with
    | error e => exact (List.append_nil _).symm
    | ok v => exact samples_record_under metric payloadSize _ s.trend
  | clear => exact Trend.samples_clear metric s.trend
  | discard m value => exact (List.append_nil _).symm
  | samples m => exact (List.append_nil _).symm
  | count m => exact (List.append_nil _).symm
  | summary m => exact (List.append_nil _).symm

/-- **Reads change nothing**, and neither does what is recorded nowhere. -/
theorem Use.apply_of_isIdle {u : Use} (h : u.isIdle = true) (s : Sinks) :
    (u.apply s).value.2 = s := by
  cases u with
  | discard m value => rfl
  | samples m => rfl
  | count m => rfl
  | summary m => rfl
  | record m value => cases h
  | wrap input => cases h
  | prepare c function input => cases h
  | clear => cases h

/-- Samples of sinks are what entries recorded. -/
def Tells (entries : List Entry) (s : Sinks) : Prop :=
  ∀ metric, s.trend.samples metric = recorded metric entries

theorem tells_nil : Tells [] {} := fun _ => rfl

/-- **One more use is one more entry.** -/
theorem tells_apply {entries : List Entry} {s : Sinks} (h : Tells entries s) (u : Use) :
    Tells (entries ++ [(u, (u.apply s).value.1)]) (u.apply s).value.2 := by
  intro metric
  rw [u.samples_apply, recorded_concat, h metric]

theorem run_cons (u : Use) (us : List Use) (s : Sinks) : (run (u :: us) s).value =
    ((u, (u.apply s).value.1) :: (run us (u.apply s).value.2).value.1,
      (run us (u.apply s).value.2).value.2) := rfl

/-- **Samples after a run are what its entries recorded**, behind those from before. -/
theorem tells_run (us : List Use) : ∀ {before : List Entry} {s : Sinks}, Tells before s →
    Tells (before ++ (run us s).value.1) (run us s).value.2 := by
  induction us with
  | nil =>
    intro before s h
    rw [run, Logged.value_pure, List.append_nil]
    exact h
  | cons u us ih =>
    intro before s h
    rw [run_cons, List.append_cons]
    exact ih (tells_apply h u)

/-- **Every entry was given back by sinks that told what stands before it.** -/
theorem exists_apply_of_run (us : List Use) : ∀ {earlier : List Entry} {s : Sinks},
    Tells earlier s → ∀ {before after : List Entry} {u : Use} {a : Answer},
    (run us s).value.1 = before ++ (u, a) :: after →
    ∃ t, Tells (earlier ++ before) t ∧ a = (u.apply t).value.1 := by
  induction us with
  | nil =>
    intro earlier s h before after u a he
    cases before <;> cases he
  | cons v us ih =>
    intro earlier s h before after u a he
    rw [run_cons] at he
    -- the entry is the first one, or one of the rest behind sinks that tell one more
    cases before with
    | nil =>
      obtain ⟨⟨⟩, -⟩ := List.cons.inj he
      exact ⟨s, by rwa [List.append_nil], rfl⟩
    | cons e before =>
      obtain ⟨rfl, hes⟩ := List.cons.inj he
      obtain ⟨t, ht, ha⟩ := ih (tells_apply h v) hes
      exact ⟨t, by rwa [List.append_cons], ha⟩

theorem map_fst_run (us : List Use) : ∀ s : Sinks, (run us s).value.1.map Prod.fst = us := by
  induction us with
  | nil => exact fun _ => rfl
  | cons u us ih =>
    intro s
    rw [run_cons, List.map_cons, ih]

/-! ## What is read -/

theorem summary_eq_none_iff {metric : String} {t : Trend} :
    t.summary metric = none ↔ t.samples metric = [] := by
  have hsort : (t.samples metric).mergeSort = [] ↔ t.samples metric = [] := by
    rw [← List.length_eq_zero_iff, List.length_mergeSort, List.length_eq_zero_iff]
  rw [← hsort, Trend.summary]
  cases (t.samples metric).mergeSort <;> simp

/-- **Whether an answer is the right one** behind entries: reads give back what the entries
recorded, and there is a body just if there is an input. -/
def IsRight (before : List Entry) : Use → Answer → Prop
  | .samples metric, a => a = .samples (recorded metric before)
  | .count metric, a => a = .count (recorded metric before).length
  | .summary metric, a => ∃ s, a = .summary s ∧ (s = none ↔ recorded metric before = [])
  | .wrap input, a => ∃ result, a = .body result ∧ result.isOk = input.isOk
  | .prepare _ _ input, a => ∃ result, a = .request result ∧ result.isOk = input.isOk
  | .record _ _, a | .discard _ _, a | .clear, a => a = .done

theorem isRight_apply {before : List Entry} {s : Sinks} (h : Tells before s) (u : Use) :
    IsRight before u (u.apply s).value.1 := by
  cases u with
  | samples metric => exact congrArg Answer.samples (h metric)
  | count metric => exact congrArg (Answer.count ∘ List.length) (h metric)
  | summary metric => exact ⟨_, rfl, by rw [summary_eq_none_iff, h metric]⟩
  | wrap input => cases input <;> exact ⟨_, rfl, rfl⟩
  | prepare c function input => cases input <;> exact ⟨_, rfl, rfl⟩
  | record m value => rfl
  | discard m value => rfl
  | clear => rfl

/-- The entries of uses from fresh sinks on. -/
def history (us : List Use) : List Entry :=
  (run us {}).value.1

/-- The trend after uses of fresh sinks. -/
def trendAfter (us : List Use) : Trend :=
  (run us {}).value.2.trend

/-- **A trend tells its history**, whatever it was used for and at every point: the samples of a
metric are the values recorded under it since the last clear, in their order, where a body that was
given back counts once, with its number of bytes. Their number is the count, and without any there
is no summary. Every use has one entry; what it gave back is right behind those before it. Reads
change nothing, and neither does what is recorded nowhere. -/
theorem trend_tells_history (us : List Use) :
    (∀ metric, (trendAfter us).samples metric = recorded metric (history us) ∧
      (trendAfter us).count metric = (recorded metric (history us)).length ∧
      ((trendAfter us).summary metric = none ↔ recorded metric (history us) = [])) ∧
    (history us).map Prod.fst = us ∧
    (∀ before u a after, history us = before ++ (u, a) :: after → IsRight before u a) ∧
    (∀ (u : Use) (s : Sinks), u.isIdle = true → (u.apply s).value.2 = s) := by
  have htells (metric : String) : (trendAfter us).samples metric = recorded metric (history us) :=
    tells_run us tells_nil metric
  refine ⟨fun metric => ⟨htells metric, ?_, ?_⟩, map_fst_run us {}, ?_,
    fun u s h => u.apply_of_isIdle h s⟩
  · exact congrArg List.length (htells metric)
  · rw [summary_eq_none_iff, htells metric]
  · intro before u a after he
    obtain ⟨s, hs, rfl⟩ := exists_apply_of_run us tells_nil he
    exact isRight_apply hs u

/-- A body of 13 characters and 14 bytes. -/
example : (trendAfter [.record payloadSize 3, .clear, .wrap (.ok (.text "é"))]).samples
    payloadSize = [14] := by rfl

end FunctionLoad.Measurement
