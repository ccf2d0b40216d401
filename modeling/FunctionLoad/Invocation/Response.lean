import FunctionLoad.Catalog
import FunctionLoad.Invocation.Mode
import FunctionLoad.Json.Decode
import FunctionLoad.Log.Event

/-!
# Judging responses

* `Response`: the status and the body of an answer.
* `isTruthy`: whether a JSON value counts as true.
* `Expectation`, `expectation`: what the output of a workload must hold.
* **`Response.check`**: the two checks of a mode, each on its own, and whether both pass.
-/

namespace FunctionLoad.Invocation

open FunctionLoad.Decimal

/-- The status and the body of an answer. -/
structure Response where
  status : UInt16
  body : String
  deriving Repr, DecidableEq

namespace Response

/-- The body as JSON. -/
def json? (r : Response) : Option Json.Value :=
  Json.read? r.body

/-- A response as JSON. -/
def toValue (r : Response) : Json.Value :=
  .object [("status", .nat r.status.toUInt64), ("body", .text r.body)]

/-- The JSON that responses are read from. -/
def shape : Json.Shaped :=
  .record [⟨"status", .integer 0 (UInt16.size - 1), true⟩, ⟨"body", .text, true⟩]

/-- The response that a JSON value stands for. -/
def ofValue? (v : Json.Value) : Option Response :=
  match v.fields? [("status", true), ("body", true)] with
  | some [some status, some body] => do
    return ⟨UInt16.ofNat (← status.nat? UInt16.size), ← body.text?⟩
  | _ => none

end Response

/-! ## Expectations -/

/-- Whether a number is neither zero nor no number at all. -/
def isNonZero : Json.Number → Bool
  | .whole n => n != 0
  | .negative n => n != 0
  | .double x => x != 0.0 && !x.isNaN

/-- Whether a number is above zero. -/
def isPositive : Json.Number → Bool
  | .whole n => n != 0
  | .negative _ => false
  | .double x => x > 0.0

/-- Whether a JSON value counts as true: everything but `null`, `false`, zero and the empty text. -/
def isTruthy : Json.Value → Bool
  | .null => false
  | .bool b => b
  | .number n => isNonZero n
  | .text s => s != ""
  | .list _ => true
  | .object _ => true

/-- Whether a member is there and counts as true. -/
def hasTruthy (body : Json.Value) (key : String) : Bool :=
  (body.get? key).any isTruthy

/-- What a body has to hold. -/
abbrev Expectation := Json.Value → Bool

/-- The output in a body, if it counts as true. -/
def output? (body : Json.Value) : Option Json.Value :=
  (body.get? "output").filter isTruthy

/-- The output counts at least some words. -/
def countsWords : Expectation := fun body =>
  match (output? body).bind (·.get? "wordCount") with
  | some (.number n) => isPositive n
  | _ => false

/-- The output has groups, whatever they are. -/
def hasGroups : Expectation := fun body =>
  ((output? body).bind (·.get? "groups")).isSome

/-- What the output of a workload must hold. -/
def expectation : Workload → Expectation
  | .wordStats => countsWords
  | .jsonTransform => hasGroups

/-! ## Checks -/

/-- A check by name, and whether it passed. -/
structure Check where
  name : String
  passed : Bool
  deriving Repr, DecidableEq

/-- What became of the checks of a response. -/
structure Outcome where
  checks : List Check
  deriving Repr, DecidableEq

namespace Outcome

/-- Whether all checks passed. -/
def passed (o : Outcome) : Bool :=
  o.checks.all Check.passed

/-- The names of the checks that failed. -/
def failed (o : Outcome) : List String :=
  (o.checks.filter (!·.passed)).map Check.name

/-- The names of the checks that failed, with commas. -/
def failedText (o : Outcome) : String :=
  String.intercalate ", " o.failed

/-- The outcome as JSON. -/
def toValue (o : Outcome) : Json.Value :=
  .object [("passed", .bool o.passed),
    ("checks", .list (o.checks.map fun c =>
      .object [("name", .text c.name), ("passed", .bool c.passed)]))]

end Outcome

/-- Whether a body counts as true, reports no error and holds what is expected. -/
def isExpected (expected : Expectation) (body : Json.Value) : Bool :=
  isTruthy body && !hasTruthy body "error" && expected body

/-- The outcome of the two checks of a mode. -/
def Response.outcome (r : Response) (mode : Mode) (expected : Expectation) : Outcome :=
  match mode with
  | .async =>
    ⟨[⟨"status is 202", r.status == 202⟩,
      ⟨"has executionId", r.json?.any (hasTruthy · "executionId")⟩]⟩
  | .sync =>
    ⟨[⟨"status is 200", r.status == 200⟩,
      ⟨"has expected output", r.json?.any (isExpected expected)⟩]⟩

/-- **The outcome of the two checks of a mode.** A failure is noted. -/
def Response.check (r : Response) (mode : Mode) (expected : Expectation) : Logged Outcome := do
  let o := r.outcome mode expected
  Logged.noteIf (!o.passed) .debug
    ("Invocation response with status " ++ decimal r.status.toNat ++ " failed checks: " ++
      o.failedText)
  return o

end FunctionLoad.Invocation
