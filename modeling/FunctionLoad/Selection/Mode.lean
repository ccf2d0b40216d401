import FunctionLoad.Log.Event
import FunctionLoad.Text.LowerCase

/-!
# Selection modes

* `Selection.Mode`: how an iteration of a run comes to its payload.
* `Mode.parse`: a mode by its name in any case, with blanks around it.
* **`Mode.resolve`**: a mode by its name; an unknown one counts as `legacyRandom` and is noted.
* `Mode.ofName`: the same for a name that may be missing.
-/

namespace FunctionLoad.Selection

open FunctionLoad.Text

/-- How an iteration of a run comes to its payload. -/
inductive Mode where
  /-- A fresh payload for every iteration. -/
  | legacyRandom
  /-- The slots of a pool in turn. -/
  | poolSequential
  /-- Slots of a pool at random. -/
  | poolRandom
  deriving Repr, DecidableEq

namespace Mode

/-- All modes. -/
def all : List Mode := [.legacyRandom, .poolSequential, .poolRandom]

/-- The name of a mode. -/
def name : Mode → String
  | .legacyRandom => "legacy-random"
  | .poolSequential => "pool-sequential"
  | .poolRandom => "pool-random"

/-- A text that names no mode. -/
structure Unknown where
  raw : String
  deriving Repr, DecidableEq

/-- The wording of an unknown mode. -/
def Unknown.message (u : Unknown) : String :=
  "Invalid payload mode: " ++ u.raw

/-- A mode by its name in any case, with blanks around it. -/
def parse (s : String) : Except Unknown Mode :=
  let wanted := lower (trim s)
  match all.find? fun m => m.name == wanted with
  | some m => .ok m
  | none => .error ⟨s⟩

/-- **A mode by its name.** An unknown one counts as `legacyRandom` and is noted. -/
def resolve (s : String) : Logged Mode :=
  match parse s with
  | .ok m => pure m
  | .error _ => do
    Logged.note .warn
      ("Unrecognized payload mode '" ++ s ++ "', falling back to " ++ legacyRandom.name)
    return .legacyRandom

/-- The mode of a name that may be missing: without a name it is `legacyRandom`, and nothing is
noted. -/
def ofName (s : Option String) : Logged Mode :=
  match s with
  | none => pure .legacyRandom
  | some s => resolve s

end Mode

end FunctionLoad.Selection
