import FunctionLoad.Invocation.Request
import FunctionLoad.Invocation.Response
import FunctionLoad.Settings.Basic
import FunctionLoad.Text.Quoted

/-!
# Invocation contexts

* `Context`: where and how all functions of a run are invoked.
* **`Context.make`**: the context of a target, unless its base URL is no URL of the web.
* `Context.prepare`: the request for a function and an input.
* `Context.tryPrepare`: the same for an input that may have no JSON.
* `Context.checkFunction`: the outcome of a response, judged by the workload of the function.
-/

namespace FunctionLoad.Invocation

open FunctionLoad.Decimal FunctionLoad.Text

/-- Where and how all functions of a run are invoked. -/
structure Context where
  baseUrl : String
  mode : Mode
  timeout : Duration
  deriving Repr, DecidableEq

namespace Context

/-- **The context of a target**, unless its base URL is no URL of the web. -/
def make (t : Target) : Logged (Except Error Context) :=
  match Url.parse t.baseUrl with
  | .error reason => pure (.error (.invalidUrl reason))
  | .ok url =>
    if !url.isWeb then pure (.error (.unsupportedScheme url.schemeText))
    else do
      Logged.note .debug
        ("Invocation context for " ++ t.baseUrl ++ " in " ++ t.mode.name ++ " mode with " ++
          decimal t.timeout.seconds ++ "s timeout")
      return .ok ⟨t.baseUrl, t.mode, t.timeout⟩

/-- A context as it is shown to developers. -/
def text (c : Context) : String :=
  "InvocationContext \x7b base_url: " ++ quoted c.baseUrl ++ ", mode: " ++ c.mode.title ++
    ", timeout: " ++ c.timeout.text ++ ", .. \x7d"

/-- The address of a function. -/
def endpoint (c : Context) (function : String) : String :=
  Invocation.endpoint function c.baseUrl c.mode

/-- **The request for a function and an input**, and the sink with the size of its body. -/
def prepare {σ : Type} [Sink σ] (c : Context) (function : String) (input : Json.Value) (sink : σ) :
    Logged (Request × σ) := do
  let (body, sink) ← wrap input sink
  return (⟨c.endpoint function, body, c.timeout⟩, sink)

/-- The request for a function and an input that may have no JSON. -/
def tryPrepare {σ : Type} [Sink σ] (c : Context) (function : String)
    (input : Except InvalidJson Json.Value) (sink : σ) :
    Logged (Except InvalidJson Request × σ) := do
  let (body, sink) ← tryWrap input sink
  return (body.map fun body => ⟨c.endpoint function, body, c.timeout⟩, sink)

/-- The outcome of a response. -/
def check (c : Context) (r : Response) (expected : Expectation) : Logged Outcome :=
  r.check c.mode expected

/-- **The outcome of a response**, judged by the workload of the function. -/
def checkFunction (c : Context) (function : String) (r : Response) :
    Logged (Except Error Outcome) :=
  match Workload.ofFunction function with
  | .error e => pure (.error (.workload e))
  | .ok w => .ok <$> c.check r (expectation w)

end Context

end FunctionLoad.Invocation
