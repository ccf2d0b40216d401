import FunctionLoad.Text.Ascii
import FunctionLoad.Text.Blank

/-!
# Invocation modes

* `Invocation.Mode`: whether a function is waited for.
* **`Mode.resolve`**: everything but `async` counts as `sync`.
* `Mode.ofName`: the same for a name that may be missing.
-/

namespace FunctionLoad.Invocation

open FunctionLoad.Text

/-- Whether a function is waited for. -/
inductive Mode where
  /-- The response holds the result. -/
  | sync
  /-- The response holds the name of an execution that goes on. -/
  | async
  deriving Repr, DecidableEq

namespace Mode

/-- The name of a mode. -/
def name : Mode → String
  | .sync => "sync"
  | .async => "async"

/-- The name with a capital. -/
def title : Mode → String
  | .sync => "Sync"
  | .async => "Async"

/-- The verb of a mode in the address of a function. -/
def verb : Mode → String
  | .sync => "invoke"
  | .async => "enqueue"

/-- **The mode that a text names**, in any case and with blanks around it: everything but `async`
counts as `sync`. -/
def resolve (s : String) : Mode :=
  if equalsIgnoringCase (trim s) "async" then .async else .sync

/-- The mode of a name that may be missing: without a name it is `sync`. -/
def ofName (s : Option String) : Mode :=
  (s.map resolve).getD .sync

theorem resolve_name (m : Mode) : resolve m.name = m := by cases m <;> decide

end Mode

end FunctionLoad.Invocation
