import FunctionLoad.Text.Ascii
import FunctionLoad.Text.Blank
import FunctionLoad.Decimal.Digits

/-!
# Log levels and formats

* `Level`: how severe an event is; `Level.parse` reads a name in any case, or a number.
* `Format`: how events are laid out; `Format.parse` reads a name in any case.
-/

namespace FunctionLoad.Log

open FunctionLoad.Text FunctionLoad.Decimal

/-! ## Levels -/

/-- How severe an event is. -/
inductive Level where
  | error
  | warn
  | info
  | debug
  | trace
  deriving Repr, DecidableEq

namespace Level

/-- All levels, the most severe one first. -/
def all : List Level := [.error, .warn, .info, .debug, .trace]

/-- The name in capitals. -/
def name : Level → String
  | .error => "ERROR"
  | .warn => "WARN"
  | .info => "INFO"
  | .debug => "DEBUG"
  | .trace => "TRACE"

/-- The name in small letters. -/
def word : Level → String
  | .error => "error"
  | .warn => "warn"
  | .info => "info"
  | .debug => "debug"
  | .trace => "trace"

/-- The number of a level; the most severe one has the least. -/
def number : Level → Nat
  | .error => 1
  | .warn => 2
  | .info => 3
  | .debug => 4
  | .trace => 5

/-- The level with a number, counted from one. -/
def ofNumber? (n : Nat) : Option Level :=
  if n = 0 then none else all[n - 1]?

/-- A level by its number or by its name in any case. -/
def ofText? (s : String) : Option Level :=
  match natural? 10 s.toList with
  | some n => ofNumber? n
  | none => all.find? fun l => equalsIgnoringCase l.word s

/-- A text that names no level. -/
structure Unknown where
  raw : String
  deriving Repr, DecidableEq

/-- The wording of an unknown level. -/
def Unknown.message (u : Unknown) : String :=
  "error parsing level: expected one of \"error\", \"warn\", \"info\", \"debug\", \"trace\", " ++
    "or a number 1-5: '" ++ u.raw ++ "'"

/-- A level by its number or name, with blanks around it. -/
def parse (s : String) : Except Unknown Level :=
  match ofText? (trim s) with
  | some l => .ok l
  | none => .error ⟨s⟩

end Level

/-! ## Formats -/

/-- How events are laid out. -/
inductive Format where
  | json
  | text
  | compact
  deriving Repr, DecidableEq

namespace Format

/-- All formats. -/
def all : List Format := [.json, .text, .compact]

/-- The name of a format. -/
def name : Format → String
  | .json => "json"
  | .text => "text"
  | .compact => "compact"

/-- The name with a capital. -/
def title : Format → String
  | .json => "Json"
  | .text => "Text"
  | .compact => "Compact"

/-- A text that names no format. -/
structure Unknown where
  raw : String
  deriving Repr, DecidableEq

/-- The wording of an unknown format. -/
def Unknown.message (u : Unknown) : String :=
  "unknown log format '" ++ u.raw ++ "' (json, text or compact)"

/-- A format by its name in any case, with blanks around it. -/
def parse (s : String) : Except Unknown Format :=
  match all.find? fun f => equalsIgnoringCase f.name (trim s) with
  | some f => .ok f
  | none => .error ⟨s⟩

end Format

end FunctionLoad.Log
