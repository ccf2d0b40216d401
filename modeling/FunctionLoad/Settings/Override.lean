import FunctionLoad.Settings.Basic
import FunctionLoad.Settings.PositiveNumber

/-!
# Settings from keys

* `Key`: the seven keys; three of them carry the name of the family that a program belongs to.
* `Lookup`: the values of keys.
* `Target.override`, `Pool.override`, `Logging.override`: a part with the values of its keys.
* **`Settings.override`**: settings with the values of all keys. A value that says nothing leaves
  the setting as it was or puts its default there; most of them are noted.
* **`Settings.ofKeys`**: the settings that keys alone make, checked.
-/

namespace FunctionLoad.Settings

open FunctionLoad.Text FunctionLoad.Decimal

/-- A key for one setting. -/
inductive Key where
  | baseUrl
  | invocationMode
  | timeout
  | selectionMode
  | poolSize
  | level
  | format
  deriving Repr, DecidableEq

namespace Key

/-- All keys, in the order in which they are looked up. -/
def all : List Key :=
  [.baseUrl, .invocationMode, .timeout, .selectionMode, .poolSize, .level, .format]

/-- The name of a key for programs of a family. -/
def name (family : String) : Key → String
  | .baseUrl => "NANOFAAS_URL"
  | .invocationMode => "INVOCATION_MODE"
  | .timeout => family ++ "_REQUEST_TIMEOUT"
  | .selectionMode => "K6_PAYLOAD_MODE"
  | .poolSize => "K6_PAYLOAD_POOL_SIZE"
  | .level => family ++ "_LOG_LEVEL"
  | .format => family ++ "_LOG_FORMAT"

end Key

/-- The family whose keys are read where no other is named. -/
def defaultFamily : String := "LOADGEN"

/-- The values of keys. -/
abbrev Lookup := String → Option String

/-- The value of a key that counts only where it is not empty. -/
def nonEmptyValue (value : Option String) : Option String :=
  value.filter (· != "")

/-! ## Single settings -/

/-- A base URL and the value of its key. -/
def overrideBaseUrl (value : Option String) (current : String) : String :=
  (nonEmptyValue value).getD current

/-- An invocation mode and the value of its key. -/
def overrideInvocationMode (value : Option String) (current : Invocation.Mode) : Invocation.Mode :=
  (value.map Invocation.Mode.resolve).getD current

/-- A number of seconds above zero, with blanks around it. -/
def seconds? (s : String) : Option UInt64 :=
  (word? (trim s)).filter (0 < ·)

/-- A timeout and the value of its key. What is no number of seconds above zero is noted. -/
def overrideTimeout (key : String) (value : Option String) (current : Duration) :
    Logged Duration :=
  match value with
  | none => pure current
  | some s =>
    match seconds? s with
    | some n => pure (.ofSeconds n.toNat)
    | none => do
      Logged.note .warn
        ("Invalid " ++ key ++ ": '" ++ s ++ "', keeping " ++ decimal current.seconds ++ "s")
      return current

/-- A selection mode and the value of its key. -/
def overrideSelectionMode (value : Option String) (current : Selection.Mode) :
    Logged Selection.Mode :=
  match nonEmptyValue value with
  | none => pure current
  | some s => Selection.Mode.resolve s

/-- A pool size and the value of its key. What starts with no positive number stands for the
default. -/
def overridePoolSize (value : Option String) (current : UInt64) : UInt64 :=
  (value.map (positiveOr defaultPoolSize)).getD current

/-- A log level and the value of its key. What names no level is noted. -/
def overrideLevel (key : String) (value : Option String) (current : Log.Level) :
    Logged Log.Level :=
  match value with
  | none => pure current
  | some s =>
    match Log.Level.parse s with
    | .ok level => pure level
    | .error _ => do
      Logged.note .warn ("Invalid " ++ key ++ ": '" ++ s ++ "', keeping " ++ current.name)
      return current

/-- A log format and the value of its key. What names no format is noted. -/
def overrideFormat (key : String) (value : Option String) (current : Log.Format) :
    Logged Log.Format :=
  match value with
  | none => pure current
  | some s =>
    match Log.Format.parse s with
    | .ok format => pure format
    | .error _ => do
      Logged.note .warn ("Invalid " ++ key ++ ": '" ++ s ++ "', keeping " ++ current.title)
      return current

end FunctionLoad.Settings

namespace FunctionLoad

open Settings

/-! ## Parts -/

/-- A target with the values of its keys. -/
def Target.override (family : String) (lookup : Lookup) (t : Target) : Logged Target := do
  let timeoutKey := Key.timeout.name family
  let timeout ← overrideTimeout timeoutKey (lookup timeoutKey) t.timeout
  return {
    baseUrl := overrideBaseUrl (lookup (Key.baseUrl.name family)) t.baseUrl
    mode := overrideInvocationMode (lookup (Key.invocationMode.name family)) t.mode
    timeout := timeout }

/-- A pool with the values of its keys. -/
def Pool.override (family : String) (lookup : Lookup) (p : Pool) : Logged Pool := do
  let mode ← overrideSelectionMode (lookup (Key.selectionMode.name family)) p.mode
  return { mode := mode, size := overridePoolSize (lookup (Key.poolSize.name family)) p.size }

/-- Logging with the values of its keys. -/
def Logging.override (family : String) (lookup : Lookup) (l : Logging) : Logged Logging := do
  let levelKey := Key.level.name family
  let formatKey := Key.format.name family
  let level ← overrideLevel levelKey (lookup levelKey) l.level
  let format ← overrideFormat formatKey (lookup formatKey) l.format
  return { level := level, format := format }

/-- **Settings with the values of all keys.** -/
def Settings.override (family : String) (lookup : Lookup) (s : Settings) : Logged Settings := do
  let target ← s.target.override family lookup
  let payload ← s.payload.override family lookup
  let logging ← s.logging.override family lookup
  return { target := target, payload := payload, logging := logging }

/-- Settings that satisfy their requirements, or the first refusal. -/
def Settings.checked (s : Settings) : Except Refusal Settings :=
  s.check.map fun _ => s

/-- **The settings that keys alone make**, checked. -/
def Settings.ofKeys (family : String) (lookup : Lookup) : Logged (Except Refusal Settings) :=
  Settings.checked <$> Settings.override family lookup {}

end FunctionLoad
