import FunctionLoad.Text.Blank
import FunctionLoad.Text.Bytes
import FunctionLoad.Decimal.Digits

/-!
# Positive numbers at the start of a text

* `unsignedPart`: a text without blanks and a plus in front, none behind a minus.
* **`positiveOr`**: the number that a text starts with, or a fallback. Blanks and a plus may stand
  in front of it, and anything behind it.
* `cutSign?`, `digitCount`, **`readPositive?`**: the same number, found byte by byte in a text that may
  be missing.
-/

namespace FunctionLoad.Settings

open FunctionLoad.Text FunctionLoad.Decimal

/-- A text without blanks and a plus in front; none if there is a minus instead. -/
def unsignedPart (s : String) : Option (List Char) :=
  match (trimStart s).toList with
  | '-' :: _ => none
  | '+' :: r => some r
  | cs => some cs

/-- The number that the digits at the start denote, if it is positive and fits in 64 bits. -/
def leadingNumber? (cs : List Char) : Option UInt64 :=
  let n := ofDigits 10 (cs.takeWhile isDigit)
  if 1 ≤ n ∧ n < UInt64.size then some (UInt64.ofNat n) else none

/-- **The positive number that a text starts with**, or a fallback. -/
def positiveOr (fallback : UInt64) (s : String) : UInt64 :=
  ((unsignedPart s).bind leadingNumber?).getD fallback

/-! ## Byte by byte -/

/-- Whether a text has a minus in front, and the text behind its sign, which is cut off as one byte.
None where that byte is a part of a character only. -/
def cutSign? (s : String) : Option (Bool × String) :=
  if (bytes s).head? = some '-'.toUInt8 then (dropBytes? 1 s).map (true, ·)
  else if (bytes s).head? = some '+'.toUInt8 then (dropBytes? 1 s).map (false, ·)
  else some (false, s)

/-- Whether a byte is an ASCII decimal digit. -/
def isDigitByte (b : UInt8) : Bool :=
  '0'.toUInt8 ≤ b && b ≤ '9'.toUInt8

/-- How many bytes at the start of a text are digits. -/
def digitCount (s : String) : Nat :=
  ((bytes s).takeWhile isDigitByte).length

/-- **The positive number that a text starts with, found byte by byte**; the fallback also where there
is no text. None where the text would be cut inside a character. -/
def readPositive? (fallback : UInt64) (raw : Option String) : Option UInt64 :=
  match raw.filter (· != "") with
  | none => some fallback
  | some s => do
    let (isNegative, unsigned) ← cutSign? (trimStart s)
    if digitCount unsigned = 0 ∨ isNegative then
      return fallback
    else
      let ds ← takeBytes? (digitCount unsigned) unsigned
      return ((word? ds).filter (1 ≤ ·)).getD fallback

end FunctionLoad.Settings
