import FunctionLoad.Decimal.Digits

/-!
# Double-precision numbers as fractions

* `Finite`: a finite double as sign, significand and power of two; `finite?` reads one off its bits.
* `ofDecimal`: the double nearest to a decimal fraction; `ofText?` reads one from its decimal text.
* `hexBits`: the sixteen hexadecimal digits of a double's bits.
* `fixed`: a double with a fixed number of places, a half going to the even neighbour.
-/

namespace FunctionLoad.Decimal

open FunctionLoad.Text

/-- A finite double: `significand * 2 ^ exponent`, with a sign of its own for zero. -/
structure Finite where
  negative : Bool
  significand : Nat
  exponent : Int
  deriving Repr, DecidableEq

/-- The parts of a double, unless it is infinite or not a number. -/
def finite? (x : Float) : Option Finite :=
  let bits := x.toBits.toNat
  let biased : Nat := bits / 0x10000000000000 % 0x800
  let fraction : Nat := bits % 0x10000000000000
  let negative := bits / 0x8000000000000000 == 1
  if biased == 2047 then none
  else if biased == 0 then some ⟨negative, fraction, -1074⟩
  else some ⟨negative, fraction + 0x10000000000000, (biased : Int) - 1075⟩

namespace Finite

/-- Numerator of the absolute value over `denominator`. -/
def numerator (x : Finite) : Nat :=
  x.significand * Nat.pow 2 x.exponent.toNat

/-- Denominator of the absolute value, a power of two. -/
def denominator (x : Finite) : Nat :=
  Nat.pow 2 (-x.exponent).toNat

end Finite

/-- A quotient of natural numbers rounded to the nearest, a half going to the even neighbour. -/
def roundHalfEven (n d : Nat) : Nat :=
  let q := n / d
  let twice := 2 * (n % d)
  if twice > d ∨ (twice = d ∧ q % 2 = 1) then q + 1 else q

/-- A finite double with `places` digits after the point. -/
def Finite.fixed (places : Nat) (x : Finite) : String :=
  let scaled := roundHalfEven (x.numerator * Nat.pow 10 places) x.denominator
  let whole := decimal (scaled / Nat.pow 10 places)
  let rest := digits (scaled % Nat.pow 10 places)
  let text :=
    if places = 0 then whole
    else whole ++ "." ++ String.ofList (List.replicate (places - rest.length) '0' ++ rest)
  if x.negative then "-" ++ text else text

/-- A double with `places` digits after the point. -/
def fixed (places : Nat) (x : Float) : String :=
  match finite? x with
  | some f => f.fixed places
  | none => if x.isNaN then "NaN" else if x < 0 then "-inf" else "inf"

/-- The sixteen hexadecimal digits of a double's bits. -/
def hexBits (x : Float) : String :=
  String.ofList (hexPadded 16 x.toBits.toNat)

/-- The double nearest to `significand * 10 ^ exponent`. Beyond four hundred places on either side
of the point nothing but infinity and zero is near. -/
def ofDecimal (significand : Nat) (exponent : Int) : Float :=
  let top := (digits significand).length + exponent
  if significand = 0 ∨ top < -400 then 0.0
  else if top > 400 then 1.0 / 0.0
  else Float.ofScientific significand (exponent < 0) exponent.natAbs

/-- The decimal exponent after an `e`, all of the text. -/
private def exponent? (cs : List Char) : Option Int :=
  match cs with
  | [] => some 0
  | c :: r => if c == 'e' || c == 'E' then integer? 10 r else none

/-- An unsigned decimal number with optional point and exponent, as significand and exponent. -/
def unsignedDecimal? (cs : List Char) : Option (Nat × Int) :=
  let whole := cs.takeWhile isDigit
  let rest := cs.dropWhile isDigit
  match rest with
  | '.' :: tail =>
    let places := tail.takeWhile isDigit
    if whole ++ places = [] then none
    else
      (exponent? (tail.dropWhile isDigit)).map fun e =>
        (ofDigits 10 (whole ++ places), e - places.length)
  | _ =>
    if whole = [] then none else (exponent? rest).map fun e => (ofDigits 10 whole, e)

/-- The double nearest to a decimal number without sign; also the words for infinity and for
what is not a number, in any case. -/
def unsignedText? (cs : List Char) : Option Float :=
  let word := String.ofList (cs.map lowerAscii)
  if word = "inf" ∨ word = "infinity" then some (1.0 / 0.0)
  else if word = "nan" then some (Float.ofBits 0x7ff8000000000000)
  else (unsignedDecimal? cs).map fun p => ofDecimal p.1 p.2

/-- The double nearest to a decimal number with an optional sign, all of the text. -/
def ofText? (s : String) : Option Float :=
  match s.toList with
  | '-' :: cs => (unsignedText? cs).map fun x => -x
  | '+' :: cs => unsignedText? cs
  | cs => unsignedText? cs

end FunctionLoad.Decimal
