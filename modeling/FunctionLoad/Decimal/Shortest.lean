import FunctionLoad.Decimal.Binary64

/-!
# The shortest decimal text of a double

* `shortest`: the fewest decimal digits that read back as the same double, the nearest such digits,
  a tie going to the even last digit.
* `Layout`: where a format sets the point and when it writes an exponent; `Layout.text` applies it.
* `plain`: positional at every size, no point in whole numbers.
-/

namespace FunctionLoad.Decimal

/-- The interval of reals that round to a double, over a common denominator. -/
structure Interval where
  low : Nat
  value : Nat
  high : Nat
  denominator : Nat
  closed : Bool

/-- The interval around a positive double. Below a power of two the neighbour is half as far. -/
def Finite.interval (x : Finite) : Interval :=
  let up := Nat.pow 2 x.exponent.toNat
  let below := if x.significand = 0x10000000000000 ∧ x.exponent > -1074 then 1 else 2
  { low := (4 * x.significand - below) * up
    value := 4 * x.significand * up
    high := (4 * x.significand + 2) * up
    denominator := 4 * x.denominator
    closed := x.significand % 2 == 0 }

namespace Interval

/-- The position of the point: the value lies in `[10 ^ (point - 1), 10 ^ point)`. -/
def point (i : Interval) : Int :=
  if i.denominator ≤ i.value then (digits (i.value / i.denominator)).length
  else
    let ratio := (i.denominator + i.value - 1) / i.value
    1 - ((digits (ratio - 1)).length : Int)

/-- Whether `c * 10 ^ e` lies in the interval. -/
def holds (i : Interval) (c : Nat) (e : Int) : Bool :=
  let left := c * Nat.pow 10 e.toNat * i.denominator
  let scale := Nat.pow 10 (-e).toNat
  if i.closed then i.low * scale ≤ left && left ≤ i.high * scale
  else i.low * scale < left && left < i.high * scale

/-- The neighbour of the value on the grid of multiples of `10 ^ e` that reads back as it. -/
def onGrid? (i : Interval) (e : Int) : Option Nat :=
  let n := i.value * Nat.pow 10 (-e).toNat
  let d := i.denominator * Nat.pow 10 e.toNat
  let c := n / d
  let twice := 2 * (n % d)
  match i.holds c e, i.holds (c + 1) e with
  | true, true => some (if twice > d || (twice == d && c % 2 == 1) then c + 1 else c)
  | true, false => some c
  | false, true => some (c + 1)
  | false, false => none

/-- The first grid, from `count` digits on, with a neighbour that reads back. -/
def search (i : Interval) : Nat → Nat → Nat × Int
  | 0, _ => (0, 0)
  | fuel + 1, count =>
    let e := i.point - count
    match i.onGrid? e with
    | some c => (c, e)
    | none => i.search fuel (count + 1)

end Interval

/-- A number without its trailing zeros, and how many there were. -/
def stripZeros (fuel : Nat) (c : Nat) (e : Int) : Nat × Int :=
  match fuel with
  | 0 => (c, e)
  | fuel + 1 => if c % 10 = 0 ∧ c ≠ 0 then stripZeros fuel (c / 10) (e + 1) else (c, e)

/-- The fewest digits that read back as a positive double, as a number and a power of ten. Seventeen
digits always do. -/
def shortest (x : Finite) : Nat × Int :=
  let found := x.interval.search 17 1
  stripZeros 20 found.1 found.2

/-- Where a format sets the point, and how it writes an exponent. -/
structure Layout where
  /-- Whether a number with the point at this position is written without exponent. -/
  positional : Int → Bool
  /-- Whether a whole number ends in `.0`. -/
  pointZero : Bool
  /-- Whether an exponent above zero has a plus in front. -/
  plus : Bool

namespace Layout

/-- The text of an exponent. -/
def powerText (l : Layout) (e : Int) : List Char :=
  'e' :: (if l.plus ∧ 0 < e then ['+'] else []) ++ (decimalInt e).toList

/-- The text of digits `ds` times `10 ^ e`. -/
def digitsText (l : Layout) (ds : List Char) (e : Int) : List Char :=
  let point := e + ds.length
  if l.positional point then
    if 0 ≤ e then ds ++ List.replicate e.toNat '0' ++ (if l.pointZero then ['.', '0'] else [])
    else if 0 < point then ds.take point.toNat ++ '.' :: ds.drop point.toNat
    else ['0', '.'] ++ List.replicate (-point).toNat '0' ++ ds
  else
    match ds with
    | [] => []
    | [d] => d :: l.powerText (point - 1)
    | d :: r => d :: '.' :: r ++ l.powerText (point - 1)

/-- The text of a finite double. -/
def finiteText (l : Layout) (x : Finite) : String :=
  let body :=
    if x.significand = 0 then '0' :: (if l.pointZero then ['.', '0'] else [])
    else
      let p := shortest x
      l.digitsText (digits p.1) p.2
  String.ofList (if x.negative then '-' :: body else body)

/-- The text of a double, `NaN` and `inf` included. -/
def text (l : Layout) (x : Float) : String :=
  match finite? x with
  | some f => l.finiteText f
  | none => if x.isNaN then "NaN" else if x < 0 then "-inf" else "inf"

end Layout

/-- Positional at every size, no point in whole numbers. -/
def plain : Layout := ⟨fun _ => true, false, false⟩

end FunctionLoad.Decimal
