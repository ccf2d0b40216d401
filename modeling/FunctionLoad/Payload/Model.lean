import FunctionLoad.Payload.Input
import FunctionLoad.Settings.Basic

/-!
# Payloads of a run

* `select`: the index that an iteration uses.
* `Model`: how a run chooses payloads.
* **`Model.next`**: the payload of an iteration, and the source after it.
-/

namespace FunctionLoad.Payload

/-- The index that an iteration uses. A pool without slots and the mode without pool use none. -/
def select {σ : Type} [Source σ] (mode : Selection.Mode) (size iteration : UInt64) (source : σ) :
    Index × σ :=
  if size = 0 then (.unpooled, source)
  else
    match mode with
    | .poolSequential => (.pooled (iteration % size), source)
    | .poolRandom =>
      let p := draw source
      (.pooled (slotOfDraw size p.1), p.2)
    | .legacyRandom => (.unpooled, source)

/-- A payload with its index. -/
structure Selected where
  index : Index
  input : Input
  deriving Repr, DecidableEq

/-- A payload as JSON. -/
def Selected.toValue (s : Selected) : Json.Value :=
  .object [("index", s.index.toValue), ("input", s.input.toValue)]

/-- How a run chooses payloads. -/
structure Model where
  mode : Selection.Mode
  size : UInt64
  deriving Repr, DecidableEq

namespace Model

/-- A model; a pool that has no slots is noted. -/
def make (mode : Selection.Mode) (size : UInt64) : Logged Model := do
  Logged.noteIf (size == 0 && mode != .legacyRandom) .warn
    "Payload pool size is 0; every iteration will synthesize a fresh payload"
  return ⟨mode, size⟩

/-- The model of a pool. -/
def ofPool (p : Pool) : Logged Model :=
  make p.mode p.size

/-- The index that an iteration uses. -/
def select {σ : Type} [Source σ] (m : Model) (iteration : UInt64) (source : σ) : Index × σ :=
  Payload.select m.mode m.size iteration source

/-- **The payload of an iteration**, and the source after it. -/
def next {σ : Type} [Source σ] (m : Model) (w : Workload) (iteration : UInt64) (source : σ) :
    Logged (Selected × σ) := do
  let (index, source) := m.select iteration source
  let (input, source) := Input.build w index source
  Logged.note .trace
    ("Iteration " ++ Decimal.decimal iteration.toNat ++ " of " ++ Named.name w ++
      " selected payload index " ++ index.text ++ " (" ++ m.mode.name ++ ")")
  return (⟨index, input⟩, source)

end Model

end FunctionLoad.Payload
