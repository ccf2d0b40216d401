import FunctionLoad.Preview
import FunctionLoad.Proofs.Invocation.Usable
import FunctionLoad.Proofs.Payload.RoundTrip
import FunctionLoad.Proofs.Payload.Size

/-!
# Previews succeed or change nothing

The body of every payload is read as it was written, so no iteration fails. What can fail is checked
before the first one.

* `Input.isDistinct_toValue`: no object in an input repeats a key.
* `reread_compact`, `value_attempt`: a body is read again, and makes the record of its iteration.
* **`value_records_add`**: records of some iterations, and of those that follow them.
* `Continues`, `continues_record`, **`continues_records`**: what records leave in a trend, after one
  iteration and after many.
* `IsRefused`, `value_build_of_isRefused`, `continues_build`, `value_build_add`: the same of previews.
* **`build_refused_or_continues`**: all of it.
* `Continues.toNat_iterations`, **`build_iterations`**: which iterations a preview has. It has the ones
  that are asked for, unless the last of them has the largest number there is.
-/

namespace FunctionLoad

open FunctionLoad.Json FunctionLoad.Invocation FunctionLoad.Payload

/-! ## Bodies -/

namespace Payload

theorem Row.isDistinct_toValue (r : Row) : r.toValue.isDistinct = true := rfl

theorem Input.isDistinct_toValue (x : Input) : x.toValue.isDistinct = true := by
  cases x with
  | wordStats x => rfl
  | jsonTransform x =>
    have hr : Value.areDistinct (x.rows.map Row.toValue) = true := by
      rw [Value.areDistinct_eq_all, List.all_map, List.all_eq_true]
      exact fun r _ => Row.isDistinct_toValue r
    rw [Input.toValue, JsonTransform.toValue]
    cases x.valueField <;>
      simp only [Value.isDistinct, List.cons_append, List.nil_append, Value.membersDistinct, hr] <;> rfl

end Payload

namespace Preview

/-- The body of a payload is read again as it was written. -/
theorem reread_compact (x : Input) :
    reread (envelope x.toValue).compact = .ok (envelope x.toValue).canonical := by
  have he : (envelope x.toValue).isExact maxDepth = true := by
    have hx := Input.isExact_toValue 123 x
    rw [envelope, maxDepth, Value.isExact, Value.membersExact, hx]
    rfl
  rw [reread, read?_compact he]

theorem isDistinct_envelope (x : Input) : (envelope x.toValue).isDistinct = true := by
  rw [envelope, Value.isDistinct, Value.membersDistinct, Input.isDistinct_toValue]
  rfl

/-! ## Iterations -/

section Records

variable (m : Model) (c : Context) (w : Workload) (function : String) {σ τ : Type} [Source σ] [Sink τ]

/-- **An iteration has a record**, made from what its body was written from. -/
theorem value_attempt (iteration : UInt64) (source : σ) (sink : τ) :
    (attempt m c w function iteration source sink).value =
      (.ok (record m c w function iteration source sink).value.1,
        (record m c w function iteration source sink).value.2) := by
  have hprepare (input : Json.Value) : (c.tryPrepare function (.ok input) sink).value =
      (.ok (c.prepare function input sink).value.1, (c.prepare function input sink).value.2) := rfl
  have hread (x : Input) : reread (c.prepare function x.toValue sink).value.1.body =
      .ok (envelope x.toValue).canonical := reread_compact x
  -- of all that could fail, only the reading of the body is still open
  simp only [attempt, Logged.value_bind, Logged.value_pure, hprepare, Except.mapError]
  simp only [bind, Except.bind, hread]
  rfl

/-- What a run of at least one iteration is: a record, and a run of those that follow. -/
theorem value_records_succ_iff {n : Nat} {iteration : UInt64} {source : σ} {sink : τ}
    {rs : List Record} {rest : σ × τ} :
    (records m c w function (n + 1) iteration source sink).value = (.ok rs, rest) ↔
      ∃ rs', rs = (record m c w function iteration source sink).value.1 :: rs' ∧
        (records m c w function n (iteration + 1)
          (record m c w function iteration source sink).value.2.1
          (record m c w function iteration source sink).value.2.2).value = (.ok rs', rest) := by
  have hv : (records m c w function (n + 1) iteration source sink).value =
      let r := (record m c w function iteration source sink).value
      let later := (records m c w function n (iteration + 1) r.2.1 r.2.2).value
      (later.1.map (r.1 :: ·), later.2) := by
    rw [records, Logged.value_bind, value_attempt]
    rfl
  -- what the later iterations come to is all that decides
  rw [hv]
  dsimp only
  generalize (record m c w function iteration source sink).value = r
  generalize (records m c w function n (iteration + 1) r.2.1 r.2.2).value = later
  obtain ⟨made, left⟩ := later
  cases made with
  | error f => simp [Except.map]
  | ok rs' => simp [Except.map, eq_comm]

theorem add_one_add_ofNat (iteration : UInt64) (n : Nat) :
    iteration + 1 + UInt64.ofNat n = iteration + UInt64.ofNat (n + 1) := by
  rw [UInt64.ofNat_add, UInt64.add_assoc, UInt64.add_comm 1]
  rfl

/-- **Records of some iterations, and of those that follow them**, with the source and the sink that
the former leave. -/
theorem value_records_add {k n : Nat} {iteration : UInt64} {source source' : σ} {sink sink' : τ}
    {rs rs' : List Record} {rest : σ × τ}
    (h : (records m c w function k iteration source sink).value = (.ok rs, source', sink'))
    (h' : (records m c w function n (iteration + UInt64.ofNat k) source' sink').value =
      (.ok rs', rest)) :
    (records m c w function (k + n) iteration source sink).value = (.ok (rs ++ rs'), rest) := by
  induction k generalizing iteration source sink rs with
  | zero =>
    cases h
    rw [show iteration + UInt64.ofNat 0 = iteration from UInt64.add_zero iteration] at h'
    rw [Nat.zero_add, List.nil_append, h']
  | succ k ih =>
    obtain ⟨later, rfl, hl⟩ := (value_records_succ_iff m c w function).mp h
    rw [← add_one_add_ofNat] at h'
    rw [Nat.add_right_comm]
    exact (value_records_succ_iff m c w function).mpr ⟨later ++ rs', rfl, ih hl h'⟩

end Records

/-! ## What records leave in a trend -/

/-- The records of `n` iterations from the first one on, and the trend after them. -/
structure Continues (first : UInt64) (n : Nat) (before after : Trend) (rs : List Record) : Prop where
  iterations : rs.map (·.iteration) = (List.range n).map fun i => first + UInt64.ofNat i
  /-- Every record adds the size of its envelope. -/
  samples : after.samples payloadSize =
    before.samples payloadSize ++ rs.map fun r => size r.envelope.compact
  /-- No size is cut off at 64 bits. -/
  counted : ∀ r ∈ rs, (size r.envelope.compact).toNat = r.envelope.compact.utf8ByteSize
  others : ∀ metric, metric ≠ payloadSize → after.samples metric = before.samples metric

namespace Continues

theorem nil (first : UInt64) (trend : Trend) : Continues first 0 trend trend [] :=
  ⟨rfl, by rw [List.map_nil, List.append_nil], nofun, fun _ _ => rfl⟩

/-- Records continue a trend that other records have continued. -/
theorem append {first : UInt64} {k n : Nat} {before between after : Trend} {rs rs' : List Record}
    (h : Continues first k before between rs)
    (h' : Continues (first + UInt64.ofNat k) n between after rs') :
    Continues first (k + n) before after (rs ++ rs') := by
  refine ⟨?_, ?_, ?_, fun metric hm => ?_⟩
  · rw [List.map_append, h.iterations, h'.iterations, List.range_add, List.map_append, List.map_map]
    simp only [UInt64.add_assoc, ← UInt64.ofNat_add]
    rfl
  · rw [h'.samples, h.samples, List.map_append, List.append_assoc]
  · exact List.forall_mem_append.mpr ⟨h.counted, h'.counted⟩
  · rw [h'.others metric hm, h.others metric hm]

end Continues

section Trend

variable (m : Model) (c : Context) (w : Workload) (function : String) {σ : Type} [Source σ]
  (iteration : UInt64) (source : σ) (trend : Trend)

/-- The envelope of a record is made of the input of a seed. -/
theorem exists_envelope_record : ∃ seed,
    (record m c w function iteration source trend).value.1.envelope =
        (envelope (Input.ofSeed w seed).toValue).canonical ∧
      (record m c w function iteration source trend).value.2.2 =
        trend.record payloadSize (size (envelope (Input.ofSeed w seed).toValue).compact) :=
  ⟨_, rfl, rfl⟩

/-- **One iteration continues a trend.** -/
theorem continues_record :
    Continues iteration 1 trend (record m c w function iteration source trend).value.2.2
      [(record m c w function iteration source trend).value.1] := by
  obtain ⟨seed, he, ht⟩ := exists_envelope_record m c w function iteration source trend
  have hsize := Value.utf8ByteSize_compact_canonical (isDistinct_envelope (.ofSeed w seed))
  refine ⟨?_, ?_, ?_, fun metric hm => ?_⟩
  · exact congrArg (fun i => [i]) (UInt64.add_zero iteration).symm
  · rw [ht, Trend.samples_record, if_pos rfl, List.map_singleton, he, size, size, hsize]
  · rw [List.forall_mem_singleton, he, size, hsize]
    exact toNat_size_envelope w seed
  · rw [ht, Trend.samples_record, if_neg hm]

/-- **No iteration fails**, and every one of them continues the trend. -/
theorem continues_records (n : Nat) :
    ∃ rs source' trend', (records m c w function n iteration source trend).value =
        (.ok rs, source', trend') ∧ Continues iteration n trend trend' rs := by
  induction n generalizing iteration source trend with
  | zero => exact ⟨[], source, trend, rfl, .nil iteration trend⟩
  | succ n ih =>
    have hone := continues_record m c w function iteration source trend
    obtain ⟨rs, source', trend', hrs, hc⟩ := ih (iteration + 1)
      (record m c w function iteration source trend).value.2.1
      (record m c w function iteration source trend).value.2.2
    exact ⟨_, source', trend', (value_records_succ_iff m c w function).mpr ⟨rs, rfl, hrs⟩,
      Nat.add_comm 1 n ▸ hone.append hc⟩

end Trend

/-! ## Previews -/

theorem length_eq_min (first count : UInt64) :
    length first count = min count.toNat (2 ^ 64 - 1 - first.toNat) := by
  unfold length UInt64.size
  omega

theorem length_of_le {first count : UInt64} (h : first.toNat + count.toNat ≤ 2 ^ 64 - 1) :
    length first count = count.toNat := by
  rw [length_eq_min]
  omega

theorem toNat_add_of_le {a b : UInt64} (h : a.toNat + b.toNat ≤ 2 ^ 64 - 1) :
    (a + b).toNat = a.toNat + b.toNat := by
  rw [UInt64.toNat_add]
  omega

section Build

variable (s : Settings) (function : String) {σ τ : Type} [Source σ] [Sink τ]

/-- What a preview is refused for, before its first iteration. -/
def IsRefused : Prop :=
  (∃ e, Workload.ofFunction function = .error e) ∨ ∃ e, (Context.make s.target).value = .error e

/-- A refused preview fails, and changes nothing. -/
theorem value_build_of_isRefused (h : IsRefused s function) (first count : UInt64) (source : σ)
    (sink : τ) :
    ∃ f, (build s function first count source sink).value = (.error f, source, sink) := by
  unfold build
  rcases hw : Workload.ofFunction function with e | w
  · exact ⟨_, rfl⟩
  · obtain ⟨e, he⟩ : ∃ e, (Context.make s.target).value = .error e := by
      refine h.resolve_left ?_
      rintro ⟨e, he⟩
      cases hw.symm.trans he
    simp only [Logged.value_bind, he]
    exact ⟨_, rfl⟩

/-- A preview that is not refused has the records of its iterations. -/
theorem exists_value_build (h : ¬ IsRefused s function) :
    ∃ m c w, ∀ (first count : UInt64) (source : σ) (sink : τ),
      (build s function first count source sink).value =
        (records m c w function (length first count) first source sink).value := by
  rcases hw : Workload.ofFunction function with e | w
  · exact absurd (.inl ⟨e, hw⟩) h
  · rcases hc : (Context.make s.target).value with e | c
    · exact absurd (.inr ⟨e, hc⟩) h
    · refine ⟨(Model.ofPool s.payload).value, c, w, fun first count source sink => ?_⟩
      unfold build
      simp only [hw, Logged.value_bind, hc]

theorem not_isRefused_of_value_build {first count : UInt64} {source : σ} {sink : τ}
    {rs : List Record} {rest : σ × τ}
    (hb : (build s function first count source sink).value = (.ok rs, rest)) :
    ¬ IsRefused s function := by
  intro h
  obtain ⟨f, hf⟩ := value_build_of_isRefused s function h first count source sink
  cases hf.symm.trans hb

/-- **A preview that is not refused succeeds**, and continues the trend. -/
theorem continues_build (h : ¬ IsRefused s function) (first count : UInt64) (source : σ)
    (trend : Trend) :
    ∃ rs source' trend', (build s function first count source trend).value =
        (.ok rs, source', trend') ∧ Continues first (length first count) trend trend' rs := by
  obtain ⟨m, c, w, hbuild⟩ := exists_value_build (σ := σ) (τ := Trend) s function h
  rw [hbuild]
  exact continues_records m c w function first source trend (length first count)

/-- **A preview goes on where another one ended**, as long as iterations have numbers. -/
theorem value_build_add {first a b : UInt64} {source source' : σ} {trend trend' : Trend}
    {rs : List Record} (hle : first.toNat + a.toNat + b.toNat ≤ 2 ^ 64 - 1)
    (hb : (build s function first a source trend).value = (.ok rs, source', trend')) :
    ∃ rs' rest, (build s function (first + a) b source' trend').value = (.ok rs', rest) ∧
      (build s function first (a + b) source trend).value = (.ok (rs ++ rs'), rest) := by
  have h := not_isRefused_of_value_build s function hb
  obtain ⟨m, c, w, hbuild⟩ := exists_value_build (σ := σ) (τ := Trend) s function h
  have hfirst : (first + a).toNat = first.toNat + a.toNat := toNat_add_of_le (by omega)
  have hcount : (a + b).toNat = a.toNat + b.toNat := toNat_add_of_le (by omega)
  have ha : length first a = a.toNat := length_of_le (by omega)
  have hbehind : length (first + a) b = b.toNat := length_of_le (by omega)
  have hall : length first (a + b) = a.toNat + b.toNat := hcount ▸ length_of_le (by omega)
  rw [hbuild, ha] at hb
  rw [hbuild, hbuild, hbehind, hall]
  obtain ⟨rs', source'', trend'', hrs, -⟩ :=
    continues_records m c w function (first + a) source' trend' b.toNat
  refine ⟨rs', (source'', trend''), hrs, value_records_add m c w function hb ?_⟩
  rwa [UInt64.ofNat_toNat]

end Build

/-- **A preview is refused, or it has all of its records.** It fails just if there is no workload for
the function or the base URL is no URL of the web, whatever its iterations are, and then the source and
the trend stay as they were. Else the records of some iterations and those of the ones behind them are
the records of all of these, and each of them adds the size of its envelope to the trend. -/
theorem build_refused_or_continues (s : Settings) (function : String) {σ : Type} [Source σ] :
    (∀ (first count : UInt64) (source : σ) (trend : Trend),
      ((∃ f, (build s function first count source trend).value.1 = .error f) ↔
        (∃ e, Workload.ofFunction function = .error e) ∨
          ∃ e, (Context.make s.target).value = .error e) ∧
      ∀ f, (build s function first count source trend).value.1 = .error f →
        (build s function first count source trend).value.2 = (source, trend)) ∧
    (∀ (first a b : UInt64) (source source' : σ) (trend trend' : Trend) (rs : List Record),
      first.toNat + a.toNat + b.toNat ≤ 2 ^ 64 - 1 →
      (build s function first a source trend).value = (.ok rs, source', trend') →
      ∃ rs' rest, (build s function (first + a) b source' trend').value = (.ok rs', rest) ∧
        (build s function first (a + b) source trend).value = (.ok (rs ++ rs'), rest)) ∧
    ∀ (first count : UInt64) (source source' : σ) (trend trend' : Trend) (rs : List Record),
      (build s function first count source trend).value = (.ok rs, source', trend') →
      Continues first (length first count) trend trend' rs := by
  refine ⟨fun first count source trend => ?_, fun first a b source source' trend trend' rs hle hb =>
    value_build_add s function hle hb, fun first count source source' trend trend' rs hb => ?_⟩
  · by_cases h : IsRefused s function
    · obtain ⟨f, hf⟩ := value_build_of_isRefused s function h first count source trend
      rw [hf]
      exact ⟨⟨fun _ => h, fun _ => ⟨f, rfl⟩⟩, fun _ _ => rfl⟩
    · obtain ⟨rs, source', trend', hrs, -⟩ := continues_build s function h first count source trend
      rw [hrs]
      exact ⟨⟨nofun, fun hr => absurd hr h⟩, nofun⟩
  · have h := not_isRefused_of_value_build s function hb
    obtain ⟨rs', s', t', hrs, hc⟩ := continues_build s function h first count source trend
    cases hrs.symm.trans hb
    exact hc

/-- One iteration, and the two behind it, are the first three. -/
theorem build_refused_or_continues_three :
    ∃ (rs rs' : List Record) (source source' : Tape) (trend trend' : Trend),
      (build {} "word-stats-java" 0 1 (⟨[], 0⟩ : Tape) ({} : Trend)).value =
        (.ok rs, source, trend) ∧
      (build {} "word-stats-java" 1 2 source trend).value = (.ok rs', source', trend') ∧
      (build {} "word-stats-java" 0 3 (⟨[], 0⟩ : Tape) ({} : Trend)).value =
        (.ok (rs ++ rs'), source', trend') ∧
      (rs ++ rs').map (·.iteration) = [0, 1, 2] ∧ (trend'.samples payloadSize).length = 3 := by
  obtain ⟨hrefused, happend, hcontinues⟩ :=
    build_refused_or_continues {} "word-stats-java" (σ := Tape)
  have hfunction : Workload.ofFunction "word-stats-java" = .ok .wordStats := by decide
  have hcontext : (Context.make ({} : Settings).target).value = .ok ⟨_, _, _⟩ := rfl
  rcases hone : (build {} "word-stats-java" 0 1 (⟨[], 0⟩ : Tape) ({} : Trend)).value with
    ⟨f | rs, source, trend⟩
  · rcases (hrefused 0 1 ⟨[], 0⟩ {}).1.mp ⟨f, congrArg Prod.fst hone⟩ with ⟨e, he⟩ | ⟨e, he⟩
    · cases hfunction.symm.trans he
    · cases hcontext.symm.trans he
  · obtain ⟨rs', ⟨source', trend'⟩, htwo, hall⟩ := happend 0 1 2 _ _ _ _ rs (by decide) hone
    rw [show (1 : UInt64) + 2 = 3 from rfl] at hall
    rw [show (0 : UInt64) + 1 = 1 from rfl] at htwo
    have hc := hcontinues 0 3 _ _ _ _ _ hall
    have hlength := congrArg List.length hc.iterations
    rw [List.length_map, List.length_map, List.length_range] at hlength
    refine ⟨rs, rs', source, source', trend, trend', rfl, htwo, hall, hc.iterations, ?_⟩
    rw [hc.samples, List.length_append, List.length_map, hlength]
    rfl

/-! ## Which iterations there are -/

/-- Records that end before the largest number have numbers that follow each other. -/
theorem Continues.toNat_iterations {first : UInt64} {n : Nat} {before after : Trend}
    {rs : List Record} (h : Continues first n before after rs) (hn : first.toNat + n ≤ 2 ^ 64 - 1) :
    rs.map (·.iteration.toNat) = List.range' first.toNat n := by
  have hmap : rs.map (·.iteration.toNat) = (rs.map (·.iteration)).map UInt64.toNat := by
    rw [List.map_map]
    rfl
  rw [hmap, h.iterations, List.map_map, List.range'_eq_map_range]
  refine List.map_congr_left fun i hi => ?_
  have hi := List.mem_range.mp hi
  have hsmall : (UInt64.ofNat i).toNat = i := UInt64.toNat_ofNat_of_lt' (by unfold UInt64.size; omega)
  rw [Function.comp_apply, toNat_add_of_le (by omega), hsmall]

theorem not_isRefused_of_httpUrl {s : Settings} {function : String} {w : Workload}
    (hurl : Settings.httpUrl "base_url" s.target.baseUrl = .ok ())
    (hfunction : Workload.ofFunction function = .ok w) : ¬ IsRefused s function := by
  obtain ⟨u, hp, hw⟩ := Settings.httpUrl_eq_ok_iff.mp hurl
  rintro (⟨e, he⟩ | ⟨e, he⟩)
  · cases hfunction.symm.trans he
  · rw [Context.value_make hp hw] at he
    cases he

/-- **A preview has the iterations that are asked for, unless the last of them has the largest
number.** The base URL has to be accepted and the function to have a workload. A preview never gets to
the iteration with the largest number, so one that should end with it has a record less. -/
theorem build_iterations (s : Settings) (function : String) (first count : UInt64) {σ : Type}
    [Source σ] (source : σ) (trend : Trend)
    (hurl : Settings.httpUrl "base_url" s.target.baseUrl = .ok ())
    (hfunction : ∃ w, Workload.ofFunction function = .ok w) :
    ∃ rs rest, (build s function first count source trend).value = (.ok rs, rest) ∧
      rs.map (·.iteration.toNat) =
        List.range' first.toNat (min count.toNat (2 ^ 64 - 1 - first.toNat)) ∧
      (rs.length = count.toNat ↔ first.toNat + count.toNat < 2 ^ 64) ∧
      (first.toNat + count.toNat = 2 ^ 64 → rs.length + 1 = count.toNat) := by
  obtain ⟨w, hw⟩ := hfunction
  obtain ⟨rs, source', trend', hrs, hc⟩ :=
    continues_build s function (not_isRefused_of_httpUrl hurl hw) first count source trend
  rw [length_eq_min] at hc
  have hfirst := first.toNat_lt
  have hnumbers := hc.toNat_iterations (by omega)
  have hlength := congrArg List.length hnumbers
  rw [List.length_map, List.length_range'] at hlength
  refine ⟨rs, (source', trend'), hrs, hnumbers, ?_, fun h => ?_⟩
  · omega
  · omega

/-- The two iterations before the one with the largest number. -/
theorem build_iterations_two :
    Settings.httpUrl "base_url" ({} : Settings).target.baseUrl = .ok () ∧
    Workload.ofFunction "word-stats-java" = .ok .wordStats ∧
    ∃ rs rest, (build {} "word-stats-java" 18446744073709551613 2 (⟨[], 0⟩ : Tape)
        ({} : Trend)).value = (.ok rs, rest) ∧
      rs.map (·.iteration.toNat) = [18446744073709551613, 18446744073709551614] := by
  have hurl : Settings.httpUrl "base_url" ({} : Settings).target.baseUrl = .ok () := rfl
  have hfunction : Workload.ofFunction "word-stats-java" = .ok .wordStats := by decide
  obtain ⟨rs, rest, hrs, hnumbers, -⟩ := build_iterations {} "word-stats-java" 18446744073709551613 2
    (⟨[], 0⟩ : Tape) ({} : Trend) hurl ⟨_, hfunction⟩
  exact ⟨hurl, hfunction, rs, rest, hrs, hnumbers⟩

/-- The iteration with the largest number, which has no record. -/
theorem not_build_largest :
    Settings.httpUrl "base_url" ({} : Settings).target.baseUrl = .ok () ∧
    Workload.ofFunction "word-stats-java" = .ok .wordStats ∧
    (18446744073709551615 : UInt64).toNat + (1 : UInt64).toNat ≤ 2 ^ 64 ∧
    ¬ ∃ rs rest, (build {} "word-stats-java" 18446744073709551615 1 (⟨[], 0⟩ : Tape)
        ({} : Trend)).value = (.ok rs, rest) ∧ rs.length = 1 := by
  refine ⟨rfl, by decide, by decide, ?_⟩
  rintro ⟨rs, rest, hrs, hlength⟩
  have hnone : (build {} "word-stats-java" 18446744073709551615 1 (⟨[], 0⟩ : Tape)
      ({} : Trend)).value = (.ok [], ⟨[], 0⟩, {}) := rfl
  cases hrs.symm.trans hnone
  cases hlength

end Preview

end FunctionLoad
