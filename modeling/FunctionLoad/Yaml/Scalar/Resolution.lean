import FunctionLoad.Decimal.Binary64

/-!
# What an untagged scalar means

* `isNull`, `bool?`, `integer?`, `isDouble`: the plain scalars that are no text.
* `Resolved`, **`resolve`**: what a plain scalar without a tag means.

Integers are written in decimal, or with `0x`, `0o` and `0b`. Decimal digits after a leading zero
are text.
-/

namespace FunctionLoad.Yaml

open FunctionLoad.Decimal

/-- The words for nothing. -/
def isNull (s : String) : Bool :=
  s == "" || s == "~" || s == "null" || s == "Null" || s == "NULL"

/-- The words for truth values. -/
def bool? (s : String) : Option Bool :=
  if s == "true" || s == "True" || s == "TRUE" then some true
  else if s == "false" || s == "False" || s == "FALSE" then some false
  else none

/-- A text without a plus in front. -/
def withoutPlus : List Char → List Char
  | '+' :: r => r
  | cs => cs

/-- Whether decimal digits, perhaps behind a sign, have a zero in front. -/
def isZeroPadded (cs : List Char) : Bool :=
  let ds :=
    match cs with
    | '-' :: r => r
    | r => withoutPlus r
  match ds with
  | '0' :: d :: r => (d :: r).all isDigit
  | _ => false

/-- A natural number in the notation of its base. -/
def based? : List Char → Option Nat
  | '0' :: 'x' :: r => unsigned? 16 r
  | '0' :: 'o' :: r => unsigned? 8 r
  | '0' :: 'b' :: r => unsigned? 2 r
  | cs => unsigned? 10 cs

/-- A natural number with an optional plus. -/
def whole? (s : String) : Option Nat :=
  if isZeroPadded s.toList then none else based? (withoutPlus s.toList)

/-- An integer of at most 128 bits. -/
def integer? (s : String) : Option Int :=
  match s.toList with
  | '-' :: r =>
    if isZeroPadded r then none
    else (based? r).bind fun n => if n ≤ 0x80000000000000000000000000000000 then some (-(n : Int)) else none
  | _ => (whole? s).bind fun n => if n < 0x100000000000000000000000000000000 then some (n : Int) else none

/-- Whether a text is a number with a point or exponent, or a word for infinity or for what is not
a number. Numbers out of the range of doubles are text. -/
def isDouble (s : String) : Bool :=
  let cs := withoutPlus s.toList
  let word := String.ofList cs
  let isSigned := cs.head? == some '+' || cs.head? == some '-'
  if isZeroPadded s.toList || (s.toList != cs && isSigned) then false
  else
    word == ".inf" || word == ".Inf" || word == ".INF" || s == "-.inf" || s == "-.Inf" ||
      s == "-.INF" || s == ".nan" || s == ".NaN" || s == ".NAN" ||
      (ofText? word).any Float.isFinite

/-- What a plain scalar without a tag means. -/
inductive Resolved where
  | null
  | bool (b : Bool)
  | integer (n : Int)
  | double
  | text
  deriving Repr, DecidableEq

/-- **What a plain scalar without a tag means.** -/
def resolve (s : String) : Resolved :=
  if isNull s then .null
  else
    match bool? s with
    | some b => .bool b
    | none =>
      match integer? s with
      | some n => .integer n
      | none => if isDouble s then .double else .text

end FunctionLoad.Yaml
