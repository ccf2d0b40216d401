import FunctionLoad.Failure
import FunctionLoad.Invocation.Context
import FunctionLoad.Json.Reader
import FunctionLoad.Payload.Model

/-!
# Previews

* `Preview.Record`: one iteration as a run would send it.
* `Preview.attempt`: the record of an iteration, whose body is read again; `Preview.record` is it
  without the reading.
* `Preview.records`: the records of consecutive iterations, up to the first one that fails.
* **`Preview.build`**: the records of a preview, the source after it, and the sizes it measured.
-/

namespace FunctionLoad.Preview

open FunctionLoad.Invocation FunctionLoad.Payload

/-- One iteration as a run would send it. -/
structure Record where
  iteration : UInt64
  index : Index
  address : String
  /-- The body, with the members of every object sorted. -/
  envelope : Json.Value
  deriving Repr

/-- A record as JSON. -/
def Record.toValue (r : Record) : Json.Value :=
  .object [("iteration", .nat r.iteration), ("index", r.index.toValue), ("path", .text r.address),
    ("envelope", r.envelope)]

/-- How many iterations a preview has. It ends before the largest number of an iteration. -/
def length (first count : UInt64) : Nat :=
  min (first.toNat + count.toNat) (UInt64.size - 1) - first.toNat

/-- Why there is no body for an input. -/
def unwrapped (e : InvalidJson) : Failure :=
  Failure.within "Failed to wrap payload" ⟨e.message, [e.reason]⟩

/-- The value of a body that is read again, with the members of every object sorted. The fault of a
body that is no JSON has one wording. -/
def reread (body : String) : Except Failure Json.Value :=
  match Json.read? body with
  | some v => .ok v.canonical
  | none => .error ⟨"malformed body", []⟩

/-- The record of one iteration, made from what its body is read as. The source and the sink have
moved on even if there is none. -/
def attempt {σ τ : Type} [Source σ] [Sink τ] (m : Model) (c : Context) (w : Workload)
    (function : String) (iteration : UInt64) (source : σ) (sink : τ) :
    Logged (Except Failure Record × σ × τ) := do
  let (selected, source) ← m.next w iteration source
  let (request, sink) ← c.tryPrepare function (.ok selected.input.toValue) sink
  let made := do
    let request ← request.mapError unwrapped
    let envelope ← reread request.body
    return ⟨iteration, selected.index, request.address, envelope⟩
  return (made, source, sink)

/-- The record of one iteration if its body is read as what it was written from, the source after it,
and the sink with its size. -/
def record {σ τ : Type} [Source σ] [Sink τ] (m : Model) (c : Context) (w : Workload)
    (function : String) (iteration : UInt64) (source : σ) (sink : τ) :
    Logged (Record × σ × τ) := do
  let (selected, source) ← m.next w iteration source
  let input := selected.input.toValue
  let (request, sink) ← c.prepare function input sink
  return (⟨iteration, selected.index, request.address, (envelope input).canonical⟩, source, sink)

/-- The records of consecutive iterations. The first one that fails ends them. -/
def records {σ τ : Type} [Source σ] [Sink τ] (m : Model) (c : Context) (w : Workload)
    (function : String) :
    (n : Nat) → UInt64 → σ → τ → Logged (Except Failure (List Record) × σ × τ)
  | 0, _, source, sink => pure (.ok [], source, sink)
  | n + 1, iteration, source, sink => do
    let (made, source, sink) ← attempt m c w function iteration source sink
    match made with
    | .error f => return (.error f, source, sink)
    | .ok r =>
      let (rest, source, sink) ← records m c w function n (iteration + 1) source sink
      return (rest.map (r :: ·), source, sink)

/-- **The records of a preview**, unless one of them fails, the source after it, and the sink with the
sizes of the bodies. -/
def build {σ τ : Type} [Source σ] [Sink τ] (s : Settings) (function : String)
    (first count : UInt64) (source : σ) (sink : τ) :
    Logged (Except Failure (List Record) × σ × τ) := do
  match Workload.ofFunction function with
  | .error e =>
    return (.error (.within ("Cannot preview function '" ++ function ++ "'") ⟨e.message, []⟩),
      source, sink)
  | .ok w =>
    let m ← Model.ofPool s.payload
    match ← Context.make s.target with
    | .error e =>
      return (.error (.within "Failed to build invocation context" (.ofChain e.chain)), source, sink)
    | .ok c => records m c w function (length first count) first source sink

end FunctionLoad.Preview
