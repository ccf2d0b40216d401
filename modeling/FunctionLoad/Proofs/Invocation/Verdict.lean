import FunctionLoad.Invocation.Context
import FunctionLoad.Proofs.Json.Reader

/-!
# What responses are taken for a success

* `IsFalsy`, `isTruthy_iff`: the JSON values that count as nothing.
* `IsPositive`, `isPositive_iff`: the numbers above zero.
* `hasTruthy_iff`, `output_get?_iff`: members of bodies and of their outputs.
* `Answers`, `expectation_iff`, `isExpected_iff`: what bodies are asked for.
* `Response.Succeeds`, **`Response.passed_outcome_iff`**: what makes a response a success.
* **`passed_checkFunction_iff`**: the verdict on responses of a function.
-/

namespace FunctionLoad.Invocation

open FunctionLoad.Json

/-! ## Values -/

/-- A number that is zero, with or without sign, or no number at all. -/
inductive IsNought : Number → Prop
  | whole : IsNought (.whole 0)
  | negative : IsNought (.negative 0)
  | zero {x : Float} : x == 0.0 → IsNought (.double x)
  | nan {x : Float} : x.isNaN → IsNought (.double x)

/-- **The values that count as nothing.** Lists and objects are not among them, not even empty
ones. -/
inductive IsFalsy : Value → Prop
  | null : IsFalsy .null
  | false : IsFalsy (.bool Bool.false)
  | number {n : Number} : IsNought n → IsFalsy (.number n)
  | empty : IsFalsy (.text "")

/-- A number above zero. -/
def IsPositive : Number → Prop
  | .whole n => 0 < n
  | .negative n => 0 < n
  | .double x => 0.0 < x

theorem isNonZero_iff {n : Number} : isNonZero n = true ↔ ¬ IsNought n := by
  cases n with
  | whole n =>
    rw [isNonZero, bne_iff_ne]
    exact ⟨fun h hn => by cases hn; exact h rfl, fun h hn => h (hn ▸ .whole)⟩
  | negative n =>
    rw [isNonZero, bne_iff_ne]
    exact ⟨fun h hn => by cases hn; exact h rfl, fun h hn => h (hn ▸ .negative)⟩
  | double x =>
    rw [isNonZero, Bool.and_eq_true, bne, Bool.not_eq_true', Bool.not_eq_true']
    constructor
    · rintro ⟨hz, hn⟩ (_ | _ | h | h)
      · exact absurd (hz.symm.trans h) (by decide)
      · exact absurd (hn.symm.trans h) (by decide)
    · intro h
      exact ⟨eq_false_of_ne_true fun hz => h (.zero hz),
        eq_false_of_ne_true fun hn => h (.nan hn)⟩

/-- Everything that does not count as nothing counts as true. -/
theorem isTruthy_iff {v : Value} : isTruthy v = true ↔ ¬ IsFalsy v := by
  cases v with
  | null => exact ⟨nofun, fun h => absurd .null h⟩
  | bool b =>
    cases b with
    | false => exact ⟨nofun, fun h => absurd .false h⟩
    | true => exact ⟨fun _ => nofun, fun _ => rfl⟩
  | number n =>
    rw [isTruthy, isNonZero_iff]
    exact ⟨fun h hn => by cases hn with | number hn => exact h hn, fun h hn => h (.number hn)⟩
  | text s =>
    rw [isTruthy, bne_iff_ne]
    exact ⟨fun h hs => by cases hs; exact h rfl, fun h hs => h (hs ▸ .empty)⟩
  | list items => exact ⟨fun _ => nofun, fun _ => rfl⟩
  | object members => exact ⟨fun _ => nofun, fun _ => rfl⟩

/-- A number of the kind below zero is not above it, as long as it is proper. -/
theorem isPositive_iff {n : Number} (h : n.IsProper) : isPositive n = true ↔ IsPositive n := by
  cases n with
  | whole n =>
    rw [isPositive, bne_iff_ne, IsPositive, UInt64.pos_iff_ne_zero]
  | negative n =>
    exact ⟨fun hp => absurd hp Bool.false_ne_true,
      fun hn => absurd hn (Int64.not_lt.mpr (Int64.le_of_lt h))⟩
  | double x =>
    rw [isPositive, decide_eq_true_eq]
    rfl

/-! ## Members of bodies -/

variable {body : Value}

theorem hasTruthy_iff {key : String} : hasTruthy body key = true ↔
    ∃ members v, body = .object members ∧ IsLast key v members ∧ ¬ IsFalsy v := by
  simp only [hasTruthy, Option.any_eq_true, Value.get?_eq_some_iff, isTruthy_iff]
  constructor
  · rintro ⟨v, ⟨members, hb, hv⟩, hf⟩
    exact ⟨members, v, hb, hv, hf⟩
  · rintro ⟨members, v, hb, hv, hf⟩
    exact ⟨v, ⟨members, hb, hv⟩, hf⟩

/-- Members of an output are members of an object in an object. -/
theorem output_get?_iff {key : String} {v : Value} :
    (output? body).bind (·.get? key) = some v ↔ ∃ members output, body = .object members ∧
      IsLast "output" (.object output) members ∧ IsLast key v output := by
  simp only [output?, Option.bind_eq_some_iff, Option.filter_eq_some_iff, Value.get?_eq_some_iff]
  constructor
  · rintro ⟨w, ⟨⟨members, rfl, ho⟩, -⟩, output, rfl, hv⟩
    exact ⟨members, output, rfl, ho, hv⟩
  · rintro ⟨members, output, rfl, ho, hv⟩
    exact ⟨.object output, ⟨⟨members, rfl, ho⟩, rfl⟩, output, rfl, hv⟩

/-- What an output holds if its workload did its work. -/
def Answers : Workload → List (String × Value) → Prop
  | .wordStats, output => ∃ n, IsLast "wordCount" (.number n) output ∧ IsPositive n
  | .jsonTransform, output => ∃ v, IsLast "groups" v output

theorem countsWords_iff : countsWords body = true ↔
    ∃ n, (output? body).bind (·.get? "wordCount") = some (.number n) ∧ isPositive n = true := by
  unfold countsWords
  split
  · next n h => simp [h]
  · next h => exact ⟨nofun, fun ⟨n, hn, _⟩ => absurd hn (h n)⟩

/-- **What the output of a workload is asked for**, in bodies whose numbers are proper. -/
theorem expectation_iff {w : Workload} (hp : ∀ n, body.Has n → n.IsProper) :
    expectation w body = true ↔ ∃ members output, body = .object members ∧
      IsLast "output" (.object output) members ∧ Answers w output := by
  cases w with
  | wordStats =>
    rw [expectation, countsWords_iff]
    constructor
    · rintro ⟨n, hn, hpos⟩
      obtain ⟨members, output, rfl, ho, hv⟩ := output_get?_iff.mp hn
      have hn : (Value.object members).Has n := .member ho.mem (.member hv.mem .number)
      exact ⟨members, output, rfl, ho, n, hv, (isPositive_iff (hp n hn)).mp hpos⟩
    · rintro ⟨members, output, rfl, ho, n, hv, hpos⟩
      have hn : (Value.object members).Has n := .member ho.mem (.member hv.mem .number)
      exact ⟨n, output_get?_iff.mpr ⟨members, output, rfl, ho, hv⟩,
        (isPositive_iff (hp n hn)).mpr hpos⟩
  | jsonTransform =>
    rw [expectation, hasGroups, Option.isSome_iff_exists]
    constructor
    · rintro ⟨v, hv⟩
      obtain ⟨members, output, rfl, ho, hv⟩ := output_get?_iff.mp hv
      exact ⟨members, output, rfl, ho, v, hv⟩
    · rintro ⟨members, output, rfl, ho, v, hv⟩
      exact ⟨v, output_get?_iff.mpr ⟨members, output, rfl, ho, hv⟩⟩

/-- A body reports no error just if what it has for one counts as nothing. -/
theorem hasTruthy_error_iff {members : List (String × Value)} :
    hasTruthy (.object members) "error" = false ↔ ∀ e, IsLast "error" e members → IsFalsy e := by
  rw [← Bool.not_eq_true, hasTruthy_iff]
  constructor
  · intro h e he
    exact Classical.byContradiction fun hf => h ⟨members, e, rfl, he, hf⟩
  · rintro h ⟨_, e, ⟨⟩, he, hf⟩
    exact hf (h e he)

/-- Every object counts as true. -/
theorem isExpected_iff {w : Workload} (hp : ∀ n, body.Has n → n.IsProper) :
    isExpected (expectation w) body = true ↔ ∃ members output, body = .object members ∧
      (∀ e, IsLast "error" e members → IsFalsy e) ∧
      IsLast "output" (.object output) members ∧ Answers w output := by
  rw [isExpected, Bool.and_eq_true, Bool.and_eq_true, Bool.not_eq_true', expectation_iff hp]
  constructor
  · rintro ⟨⟨-, he⟩, members, output, rfl, ho⟩
    exact ⟨members, output, rfl, hasTruthy_error_iff.mp he, ho⟩
  · rintro ⟨members, output, rfl, he, ho⟩
    exact ⟨⟨rfl, hasTruthy_error_iff.mpr he⟩, members, output, rfl, ho⟩

/-! ## Responses -/

/-- **A response that is a success.** Functions that are started are accepted under a name that
counts. Functions that are run give an output that holds what their workload asks for, and no error
that counts. -/
def Response.Succeeds (r : Response) : Mode → Workload → Prop
  | .async, _ => r.status = 202 ∧ ∃ members v, Json.read? r.body = some (.object members) ∧
      IsLast "executionId" v members ∧ ¬ IsFalsy v
  | .sync, w => r.status = 200 ∧ ∃ members output, Json.read? r.body = some (.object members) ∧
      (∀ e, IsLast "error" e members → IsFalsy e) ∧
      IsLast "output" (.object output) members ∧ Answers w output

theorem Response.passed_outcome_iff {r : Response} {mode : Mode} {w : Workload} :
    (r.outcome mode (expectation w)).passed = true ↔ r.Succeeds mode w := by
  cases mode with
  | async =>
    simp only [outcome, Outcome.passed, List.all_cons, List.all_nil, Bool.and_true,
      Bool.and_eq_true, beq_iff_eq, Option.any_eq_true, json?, hasTruthy_iff, Succeeds]
    constructor
    · rintro ⟨hs, _, hb, members, v, rfl, hv⟩
      exact ⟨hs, members, v, hb, hv⟩
    · rintro ⟨hs, members, v, hb, hv⟩
      exact ⟨hs, _, hb, members, v, rfl, hv⟩
  | sync =>
    simp only [outcome, Outcome.passed, List.all_cons, List.all_nil, Bool.and_true,
      Bool.and_eq_true, beq_iff_eq, Option.any_eq_true, json?, Succeeds]
    constructor
    · rintro ⟨hs, body, hb, he⟩
      obtain ⟨members, output, rfl, ho⟩ := (isExpected_iff fun n => isProper_of_read? hb).mp he
      exact ⟨hs, members, output, hb, ho⟩
    · rintro ⟨hs, members, output, hb, ho⟩
      exact ⟨hs, _, hb, (isExpected_iff fun n => isProper_of_read? hb).mpr
        ⟨members, output, rfl, ho⟩⟩

/-- What is noted on the way has no part in the outcome. -/
theorem value_checkFunction (c : Context) (function : String) (r : Response) :
    (c.checkFunction function r).value =
      match Workload.ofFunction function with
      | .error e => .error (.workload e)
      | .ok w => .ok (r.outcome c.mode (expectation w)) := by
  unfold Context.checkFunction
  cases Workload.ofFunction function <;> rfl

/-- **The verdict on responses of a function.** A name that belongs to no workload is an error,
whatever was answered. For all others there is a verdict on every answer, and it is good just if the
answer is a success. -/
theorem passed_checkFunction_iff (c : Context) (function : String) :
    (∀ e, Workload.ofFunction function = .error e →
      ∀ r, (c.checkFunction function r).value = .error (.workload e)) ∧
    (∀ w, Workload.ofFunction function = .ok w →
      ∀ r, ∃ o, (c.checkFunction function r).value = .ok o ∧
        (o.passed = true ↔ r.Succeeds c.mode w)) := by
  constructor
  · intro e he r
    rw [value_checkFunction, he]
  · intro w hw r
    refine ⟨r.outcome c.mode (expectation w), ?_, r.passed_outcome_iff⟩
    rw [value_checkFunction, hw]

/-- An output of one word is a success; an error of zero counts as none. -/
theorem passed_checkFunction_oneWord :
    Workload.ofFunction "word-stats-java" = .ok .wordStats ∧
      ∃ o, (Context.checkFunction ⟨"http://localhost", .sync, .ofSeconds 30⟩ "word-stats-java"
          ⟨200, "\x7b\"error\":0,\"output\":\x7b\"wordCount\":1\x7d\x7d"⟩).value = .ok o ∧
        o.passed = true := by
  have hw : Workload.ofFunction "word-stats-java" = .ok .wordStats := rfl
  obtain ⟨o, ho, hp⟩ := (passed_checkFunction_iff ⟨"http://localhost", .sync, .ofSeconds 30⟩
    "word-stats-java").2 _ hw ⟨200, "\x7b\"error\":0,\"output\":\x7b\"wordCount\":1\x7d\x7d"⟩
  refine ⟨hw, o, ho, hp.mpr ⟨rfl, [("error", .nat 0), ("output", .object [("wordCount", .nat 1)])],
    [("wordCount", .nat 1)], ?_, ?_, ?_, .whole 1, ?_, ?_⟩⟩
  · rfl
  · intro e he
    obtain rfl : Value.nat 0 = e := Option.some.inj (Value.lastUnder_eq_some_iff.mpr he)
    exact .number .whole
  · exact ⟨[("error", .nat 0)], [], rfl, by simp⟩
  · exact ⟨[], [], rfl, by simp⟩
  · show (0 : UInt64) < 1
    decide

end FunctionLoad.Invocation
