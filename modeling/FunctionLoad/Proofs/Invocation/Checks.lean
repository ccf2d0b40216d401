import FunctionLoad.Invocation.Response
import Mathlib.Data.List.Nodup

/-!
# What the checks of responses depend on

A response has one check for its status and one for its body, and each of them is made whatever became
of the other. The verdict, the names that failed and the note in the log are three reports of the same
checks.

* `Mode.statusCheck`, `Mode.bodyCheck`, `Mode.status`, `Mode.accepts`: the checks of a mode.
* **`Response.checks_outcome`**: the one check looks at the status only, and the other at the body.
* `Outcome.passed_iff`, `Outcome.failed_eq_nil_iff`, `Outcome.name_mem_failed_iff`: the verdict and the
  names that failed.
* `Reports`, **`Response.reports_check`**: the three reports agree.
* **`Response.not_passed_both`**: nothing passes in both modes.
* **`check_independent`**: all of it.
-/

namespace FunctionLoad.Invocation

open FunctionLoad.Decimal

/-! ## Checks of a mode -/

namespace Mode

/-- The name of the check of the status. -/
def statusCheck : Mode → String
  | .async => "status is 202"
  | .sync => "status is 200"

/-- The name of the check of the body. -/
def bodyCheck : Mode → String
  | .async => "has executionId"
  | .sync => "has expected output"

/-- The names of the checks of a mode, in order. -/
def checkNames (mode : Mode) : List String :=
  [mode.statusCheck, mode.bodyCheck]

/-- The status that a mode asks for. -/
def status : Mode → UInt16
  | .async => 202
  | .sync => 200

/-- Whether a body is what a mode asks for. -/
def accepts (mode : Mode) (expected : Expectation) : Expectation :=
  match mode with
  | .async => (hasTruthy · "executionId")
  | .sync => isExpected expected

theorem nodup_checkNames (mode : Mode) : mode.checkNames.Nodup := by cases mode <;> decide

end Mode

/-! ## Outcomes -/

namespace Outcome

variable {o : Outcome}

theorem passed_iff : o.passed = true ↔ ∀ c ∈ o.checks, c.passed = true := by
  rw [passed, List.all_eq_true]

theorem failed_eq_nil_iff : o.failed = [] ↔ o.passed = true := by
  rw [failed, List.map_eq_nil_iff, List.filter_eq_nil_iff, passed_iff]
  simp

theorem failed_sublist : o.failed.Sublist (o.checks.map Check.name) :=
  List.filter_sublist.map Check.name

/-- The name of a check tells whether it failed, if no other check has that name. -/
theorem name_mem_failed_iff (h : (o.checks.map Check.name).Nodup) {c : Check} (hc : c ∈ o.checks) :
    c.name ∈ o.failed ↔ c.passed = false := by
  rw [failed, List.mem_map]
  constructor
  · rintro ⟨d, hd, hname⟩
    obtain ⟨hd, hfailed⟩ := List.mem_filter.mp hd
    obtain rfl := List.inj_on_of_nodup_map h hd hc hname
    simpa using hfailed
  · intro hfailed
    exact ⟨c, List.mem_filter.mpr ⟨hc, by rw [hfailed]; rfl⟩, rfl⟩

end Outcome

/-! ## Reports -/

/-- **Three reports of the checks of a response that agree**: the verdict, the names that failed, in the
order of their checks, and the note with just these names, if there are any. -/
structure Reports (x : Logged Outcome) (status : UInt16) : Prop where
  passed_iff : x.value.passed = true ↔ ∀ c ∈ x.value.checks, c.passed = true
  failed_eq_nil_iff : x.value.failed = [] ↔ x.value.passed = true
  failed_sublist : x.value.failed.Sublist (x.value.checks.map Check.name)
  name_mem_failed_iff : ∀ c ∈ x.value.checks, c.name ∈ x.value.failed ↔ c.passed = false
  events_eq_nil_iff : x.events = [] ↔ x.value.passed = true
  events_eq : x.value.passed = false → x.events = [⟨.debug, "Invocation response with status " ++
    decimal status.toNat ++ " failed checks: " ++ String.intercalate ", " x.value.failed⟩]

namespace Response

variable (r : Response) (mode : Mode) (expected : Expectation)

/-- **One check looks at the status only, and the other at the body.** -/
theorem checks_outcome : (r.outcome mode expected).checks =
    [⟨mode.statusCheck, r.status == mode.status⟩,
      ⟨mode.bodyCheck, r.json?.any (mode.accepts expected)⟩] := by
  cases mode <;> rfl

theorem names_outcome : (r.outcome mode expected).checks.map Check.name = mode.checkNames := by
  rw [checks_outcome]
  rfl

/-- What is noted has no part in the outcome. -/
theorem value_check : (r.check mode expected).value = r.outcome mode expected := rfl

theorem events_check : (r.check mode expected).events =
    if (r.outcome mode expected).passed then [] else [⟨.debug, "Invocation response with status " ++
      decimal r.status.toNat ++ " failed checks: " ++ (r.outcome mode expected).failedText⟩] := by
  unfold check
  cases h : (r.outcome mode expected).passed <;> simp [Logged.noteIf, Logged.note, Logged.silent, h]

/-- **The reports of a response agree.** -/
theorem reports_check : Reports (r.check mode expected) r.status where
  passed_iff := Outcome.passed_iff
  failed_eq_nil_iff := Outcome.failed_eq_nil_iff
  failed_sublist := Outcome.failed_sublist
  name_mem_failed_iff c hc := by
    refine Outcome.name_mem_failed_iff ?_ hc
    rw [value_check, names_outcome]
    exact mode.nodup_checkNames
  events_eq_nil_iff := by
    rw [events_check, value_check]
    split_ifs with h <;> simp [h]
  events_eq h := by
    rw [value_check] at h
    rw [events_check, h, value_check]
    rfl

/-- **Nothing passes in both modes**: they ask for different statuses. -/
theorem not_passed_both (other : Expectation) :
    ¬ ((r.outcome .sync expected).passed = true ∧ (r.outcome .async other).passed = true) := by
  rintro ⟨hs, ha⟩
  have hs := Outcome.passed_iff.mp hs _ List.mem_cons_self
  have ha := Outcome.passed_iff.mp ha _ List.mem_cons_self
  have hs : r.status = 200 := beq_iff_eq.mp hs
  have ha : r.status = 202 := beq_iff_eq.mp ha
  rw [hs] at ha
  exact absurd ha (by decide)

end Response

/-- **The checks of a response are made each on its own.** There are the two of its mode, in order. The
first one depends on the status only and the second one on the JSON in the body only, and where
functions are started it does not matter what is expected of outputs. Verdict, failed names and note
are reports of these checks and agree; and no response passes in both modes. -/
theorem check_independent :
    (∀ (r : Response) (mode : Mode) (expected : Expectation),
      (r.check mode expected).value.checks.map Check.name = mode.checkNames ∧
      Reports (r.check mode expected) r.status) ∧
    (∀ (r s : Response) (mode : Mode) (expected other : Expectation), r.status = s.status →
      (r.check mode expected).value.checks[0]? = (s.check mode other).value.checks[0]?) ∧
    (∀ (r s : Response) (mode : Mode) (expected : Expectation), r.json? = s.json? →
      (r.check mode expected).value.checks[1]? = (s.check mode expected).value.checks[1]?) ∧
    (∀ (r : Response) (expected other : Expectation), r.check .async expected = r.check .async other) ∧
    (∀ (r : Response) (expected other : Expectation),
      ¬ ((r.check .sync expected).value.passed = true ∧
        (r.check .async other).value.passed = true)) := by
  refine ⟨fun r mode expected => ⟨r.names_outcome mode expected, r.reports_check mode expected⟩,
    fun r s mode expected other h => ?_, fun r s mode expected h => ?_,
    fun r expected other => rfl, fun r => r.not_passed_both⟩
  · rw [Response.value_check, Response.value_check, Response.checks_outcome,
      Response.checks_outcome, h]
    rfl
  · rw [Response.value_check, Response.value_check, Response.checks_outcome,
      Response.checks_outcome, h]
    rfl

/-- Responses that agree on one check only. The first two have a status in common and the last two a
body, up to its spaces; a body that starts a function does not help the last one, of another status. -/
theorem check_independent_started :
    ((⟨202, ""⟩ : Response).check .sync hasGroups).value.checks[0]? =
        ((⟨202, "\x7b\"executionId\":7\x7d"⟩ : Response).check .sync countsWords).value.checks[0]? ∧
      ((⟨202, "\x7b\"executionId\":7\x7d"⟩ : Response).check .async hasGroups).value.checks[1]? =
        ((⟨500, " \x7b \"executionId\" : 7 \x7d"⟩ : Response).check .async hasGroups).value.checks[1]? ∧
      "status is 202" ∈
        ((⟨500, "\x7b\"executionId\":7\x7d"⟩ : Response).check .async hasGroups).value.failed := by
  obtain ⟨hreports, hstatus, hbody, -⟩ := check_independent
  refine ⟨hstatus _ _ _ _ _ rfl, hbody _ _ _ _ rfl, ?_⟩
  exact ((hreports _ _ _).2.name_mem_failed_iff ⟨"status is 202", false⟩ List.mem_cons_self).mpr rfl

end FunctionLoad.Invocation
