import FunctionLoad.Payload.WordStats
import FunctionLoad.Payload.JsonTransform
import FunctionLoad.Catalog

/-!
# Inputs of invocations

* `Input`: the input of an invocation, of either workload.
* **`Input.ofSeed`**: the input of a workload for a seed; `Input.build` finds the seed of an index.
* `Input.toValue`, `Input.ofValue?`: an input as JSON. Nothing but its fields tells its workload.
-/

namespace FunctionLoad.Payload

/-- The input of an invocation. -/
inductive Input where
  | wordStats (x : WordStats)
  | jsonTransform (x : JsonTransform)
  deriving Repr, DecidableEq

namespace Input

/-- **The input of a workload for a seed.** -/
def ofSeed (w : Workload) (seed : UInt64) : Input :=
  match w with
  | .wordStats => .wordStats (.ofSeed seed.toNat)
  | .jsonTransform => .jsonTransform (.ofSeed seed.toNat)

/-- The input of a workload for an index. -/
def build {σ : Type} [Source σ] (w : Workload) (i : Index) (source : σ) : Input × σ :=
  let p := seedOf i source
  (ofSeed w p.1, p.2)

/-- An input as JSON. -/
def toValue : Input → Json.Value
  | .wordStats x => x.toValue
  | .jsonTransform x => x.toValue

/-- The input that a JSON value stands for: word statistics if it can be that. -/
def ofValue? (v : Json.Value) : Option Input :=
  match WordStats.ofValue? v with
  | some x => some (.wordStats x)
  | none => (JsonTransform.ofValue? v).map .jsonTransform

end Input

end FunctionLoad.Payload
