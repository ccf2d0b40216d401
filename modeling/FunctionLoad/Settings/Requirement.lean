import FunctionLoad.Url.Reader
import FunctionLoad.Decimal.Shortest

/-!
# What settings have to satisfy

* `Violation`: how a field breaks its requirement, with the wording in `Violation.message`.
* `nonEmpty`, `positive`, `positiveInt`, `positiveDouble`: requirements on single values.
* **`httpUrl`**: a text that is a URL of the web.
-/

namespace FunctionLoad.Settings

open FunctionLoad.Decimal

/-- How a field breaks its requirement. -/
inductive Violation where
  | empty (field : String)
  | invalidUrl (field : String) (reason : Url.Error)
  | unsupportedScheme (field scheme : String)
  | notPositive (field value : String)
  deriving Repr, DecidableEq

/-- The wording of a violation. -/
def Violation.message : Violation → String
  | .empty field => field ++ " cannot be empty"
  | .invalidUrl field reason => field ++ " has invalid URL format: " ++ reason.message
  | .unsupportedScheme field scheme =>
    field ++ " scheme '" ++ scheme ++ "' not supported (only http/https)"
  | .notPositive field value => field ++ " must be greater than 0, got " ++ value

/-- What holds, or the violation. -/
def require (condition : Bool) (v : Violation) : Except Violation Unit :=
  if condition then .ok () else .error v

/-- A text that is not empty. -/
def nonEmpty (field value : String) : Except Violation Unit :=
  require (value != "") (.empty field)

/-- A natural number above zero. -/
def positive (field : String) (value : Nat) : Except Violation Unit :=
  require (0 < value) (.notPositive field (decimal value))

/-- An integer above zero. -/
def positiveInt (field : String) (value : Int) : Except Violation Unit :=
  require (0 < value) (.notPositive field (decimalInt value))

/-- A double that is not zero or below. What is not a number passes. -/
def positiveDouble (field : String) (value : Float) : Except Violation Unit :=
  require (!(value ≤ 0.0)) (.notPositive field (plain.text value))

/-- **A text that is a URL of the web.** -/
def httpUrl (field value : String) : Except Violation Unit := do
  nonEmpty field value
  match Url.parse value with
  | .error reason => throw (.invalidUrl field reason)
  | .ok url => require url.isWeb (.unsupportedScheme field url.schemeText)

end FunctionLoad.Settings
