import FunctionLoad.Decimal.Digits

/-!
# Durations

* `Duration`: a length of time in whole milliseconds.
* `Duration.text`: the duration in seconds, or in milliseconds below one second.
-/

namespace FunctionLoad

open FunctionLoad.Decimal

/-- A length of time in whole milliseconds. -/
structure Duration where
  milliseconds : Nat
  deriving Repr, DecidableEq

namespace Duration

/-- A number of seconds. -/
def ofSeconds (n : Nat) : Duration :=
  ⟨n * 1000⟩

/-- The whole seconds of a duration. -/
def seconds (d : Duration) : Nat :=
  d.milliseconds / 1000

/-- The digits of thousandths after a point, without zeros at the end. -/
def thousandths (n : Nat) : String :=
  if n = 0 then ""
  else
    let ds := [place (n / 100), place (n / 10), place n]
    "." ++ String.ofList (ds.reverse.dropWhile (· == '0')).reverse
where
  /-- The last decimal digit of a number. -/
  place (n : Nat) : Char := FunctionLoad.Text.hexDigit (n % 10)

/-- The duration in seconds, or in milliseconds below one second. -/
def text (d : Duration) : String :=
  if 1000 ≤ d.milliseconds then
    decimal d.seconds ++ thousandths (d.milliseconds % 1000) ++ "s"
  else if 0 < d.milliseconds then decimal d.milliseconds ++ "ms"
  else "0ns"

@[simp] theorem seconds_ofSeconds (n : Nat) : (ofSeconds n).seconds = n := by
  simp [ofSeconds, seconds]

end Duration

end FunctionLoad
