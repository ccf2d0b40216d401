import FunctionLoad.Decimal.Digits

/-!
# Sets of characters as ranges of code points

* `Ranges`: a set of code points as a list of inclusive ranges; `holds` is membership.
* `Ranges.ofText`: ranges from their written form, `first-last` or a single code point, in
  hexadecimal and separated by spaces or line ends.
-/

namespace FunctionLoad.Text

open FunctionLoad.Decimal

/-- A set of code points, as inclusive ranges. -/
abbrev Ranges := List (Nat × Nat)

namespace Ranges

/-- Whether a code point is in the set. -/
def holdsCode (r : Ranges) (n : Nat) : Bool :=
  r.any fun p => p.1 ≤ n && n ≤ p.2

/-- Whether a character is in the set. -/
def holds (r : Ranges) (c : Char) : Bool :=
  r.holdsCode c.toNat

/-- The ranges that a text lists, in hexadecimal. -/
def ofText (s : String) : Ranges :=
  (words s.toList).map fun item =>
    match splitWhere (· == '-') item with
    | [first, last] => (ofDigits 16 first, ofDigits 16 last)
    | _ => (ofDigits 16 item, ofDigits 16 item)

end Ranges

end FunctionLoad.Text
