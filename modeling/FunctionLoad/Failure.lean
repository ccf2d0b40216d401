import FunctionLoad.Decimal.Digits
import FunctionLoad.Text.Ascii

/-!
# Failures with causes

* `Failure`: what failed, and the chain of its causes.
* `Failure.within`: the same failure as the cause of another one.
* **`Failure.line`**: a failure on one line; **`Failure.report`**: with its causes below it.
-/

namespace FunctionLoad

open FunctionLoad.Decimal FunctionLoad.Text

/-- What failed, and the chain of its causes, the immediate one first. -/
structure Failure where
  message : String
  causes : List String := []
  deriving Repr, DecidableEq

namespace Failure

/-- The failure whose wording and causes are a list that is not empty. -/
def ofChain : List String → Failure
  | [] => ⟨"", []⟩
  | message :: causes => ⟨message, causes⟩

/-- The same failure as the cause of another one. -/
def within (context : String) (f : Failure) : Failure :=
  ⟨context, f.message :: f.causes⟩

/-- **A failure on one line**, every cause behind a colon. -/
def line (f : Failure) : String :=
  String.intercalate ": " (f.message :: f.causes)

/-- A text whose first line stands behind `first` and all others behind `later`. -/
def indented (first later : String) (s : String) : String :=
  first ++ String.intercalate ("\n" ++ later) ((splitWhere (· == '\n') s.toList).map String.ofList)

/-- A number at the end of five columns. -/
def numberColumn (n : Nat) : String :=
  let ds := decimal n
  String.ofList (List.replicate (5 - ds.length) ' ') ++ ds ++ ": "

/-- Causes one below the other, counted from `n`. -/
def numbered (n : Nat) : List String → List String
  | [] => []
  | c :: r => indented (numberColumn n) "       " c :: numbered (n + 1) r

/-- **A failure with its causes below it.** Several causes are numbered. -/
def report (f : Failure) : String :=
  match f.causes with
  | [] => f.message
  | [c] => f.message ++ "\n\nCaused by:\n" ++ indented "    " "    " c
  | cs => f.message ++ "\n\nCaused by:\n" ++ String.intercalate "\n" (numbered 0 cs)

end Failure

end FunctionLoad
