import FunctionLoad.Json.Basic
import FunctionLoad.Decimal.Digits

/-!
# Reading of JSON

* `skipBlank`, `string?`, `number?`: the blanks, quoted texts and numbers of JSON.
* `value?`: a value nested at most to a depth, and what follows it.
* **`read?`**: the value that a whole text denotes, if it is JSON.

Every reader takes the characters from where it starts and returns what it leaves of them. A number
with a point, an exponent or more than 64 bits is a double, made from at most 64 bits of its digits
by one multiplication or division by a power of ten; one out of the range of doubles is refused.
-/

namespace FunctionLoad.Json

open FunctionLoad.Text FunctionLoad.Decimal

/-- The four blanks of JSON. -/
def isBlank (c : Char) : Bool :=
  c == ' ' || c == '\n' || c == '\t' || c == '\r'

/-- What follows the blanks at the start. -/
def skipBlank (cs : List Char) : List Char :=
  cs.dropWhile isBlank

/-! ## Texts -/

/-- The code unit that four hexadecimal digits denote. -/
def codeUnit? (a b c d : Char) : Option Nat := do
  let a ← hexValue? a
  let b ← hexValue? b
  let c ← hexValue? c
  let d ← hexValue? d
  return ((a * 16 + b) * 16 + c) * 16 + d

/-- The character that a letter after a backslash stands for. -/
def escaped? (c : Char) : Option Char :=
  if c == '"' || c == '\\' || c == '/' then some c
  else if c == 'b' then some (Char.ofNat 8)
  else if c == 'f' then some (Char.ofNat 12)
  else if c == 'n' then some '\n'
  else if c == 'r' then some '\r'
  else if c == 't' then some '\t'
  else none

/-- The text up to the closing quote. Control characters and lone halves of surrogate pairs are
refused. -/
def string? : List Char → Option (List Char × List Char)
  | [] => none
  | '\\' :: 'u' :: a :: b :: c :: d :: r => do
    let n ← codeUnit? a b c d
    if 0xD800 ≤ n ∧ n < 0xDC00 then
      match r with
      | '\\' :: 'u' :: e :: f :: g :: h :: r =>
        let m ← codeUnit? e f g h
        if 0xDC00 ≤ m ∧ m < 0xE000 then
          let (s, r) ← string? r
          return (Char.ofNat ((n - 0xD800) * 0x400 + (m - 0xDC00) + 0x10000) :: s, r)
        else none
      | _ => none
    else if 0xDC00 ≤ n ∧ n < 0xE000 then none
    else
      let (s, r) ← string? r
      return (Char.ofNat n :: s, r)
  | '\\' :: c :: r => do
    let d ← escaped? c
    let (s, r) ← string? r
    return (d :: s, r)
  | c :: r =>
    if c = '"' then some ([], r)
    else if c = '\\' ∨ c.toNat < 0x20 then none
    else do
      let (s, r) ← string? r
      return (c :: s, r)

/-! ## Numbers -/

/-- Digits taken into a significand as long as it fits in 64 bits, and the digits left over. -/
def absorb (significand : Nat) : List Char → Nat × List Char
  | [] => (significand, [])
  | c :: r =>
    let next := significand * 10 + (digitValue? 10 c).getD 0
    if next < UInt64.size then absorb next r else (significand, c :: r)

/-- The power of ten with a natural exponent, as a double. -/
def powerOfTen (n : Nat) : Float :=
  Float.ofScientific 1 false n

/-- A significand times a power of ten, unless that is out of the range of doubles. -/
def scale? (significand : Nat) (exponent : Int) : Option Float :=
  let f := (UInt64.ofNat significand).toFloat
  if significand = 0 then some f
  else if 308 < exponent then none
  else if 0 ≤ exponent then
    let x := f * powerOfTen exponent.toNat
    if x.isFinite then some x else none
  else if -308 ≤ exponent then some (f / powerOfTen (-exponent).toNat)
  else if -616 ≤ exponent then some (f / powerOfTen 308 / powerOfTen (-exponent - 308).toNat)
  else some 0.0

/-- The exponent after its letter, and what follows it. -/
def exponent? (cs : List Char) : Option (Int × List Char) :=
  let (minus, cs) :=
    match cs with
    | '+' :: r => (false, r)
    | '-' :: r => (true, r)
    | r => (false, r)
  let ds := cs.takeWhile isDigit
  if ds = [] then none
  else
    let n : Int := ofDigits 10 ds
    some (if minus then -n else n, cs.dropWhile isDigit)

/-- A double with a sign of its own for zero. -/
def signed (minus : Bool) (x : Float) : Number :=
  .double (if minus then -x else x)

/-- The rest of a number after its significand, with the power of ten so far. -/
def scaled? (minus : Bool) (significand : Nat) (exponent : Int) (cs : List Char) :
    Option (Number × List Char) :=
  match cs with
  | c :: r =>
    if c = 'e' ∨ c = 'E' then do
      let (e, r) ← exponent? r
      let x ← scale? significand (exponent + e)
      return (signed minus x, r)
    else do
      let x ← scale? significand exponent
      return (signed minus x, cs)
  | [] => do
    let x ← scale? significand exponent
    return (signed minus x, [])

/-- A whole number without point and exponent. Zero keeps its sign as a double. -/
def wholeNumber (minus : Bool) (n : Nat) : Number :=
  if minus then
    if n = 0 ∨ 0x8000000000000000 < n then .double (-(UInt64.ofNat n).toFloat)
    else .negative (Int64.ofInt (-(n : Int)))
  else .whole (UInt64.ofNat n)

/-- A number after its sign, and what follows it. -/
def unsigned? (minus : Bool) (cs : List Char) : Option (Number × List Char) :=
  let ds := cs.takeWhile isDigit
  let rest := cs.dropWhile isDigit
  if ds = [] ∨ (ds.head? = some '0' ∧ 1 < ds.length) then none
  else
    let (significand, dropped) := absorb 0 ds
    match rest with
    | '.' :: tail =>
      let places := tail.takeWhile isDigit
      if places = [] then none
      else
        let (significand, left) := absorb significand places
        scaled? minus significand (dropped.length - (places.length - left.length : Nat) : Int)
          (tail.dropWhile isDigit)
    | c :: _ =>
      if c = 'e' ∨ c = 'E' ∨ dropped ≠ [] then scaled? minus significand dropped.length rest
      else some (wholeNumber minus significand, rest)
    | [] =>
      if dropped ≠ [] then scaled? minus significand dropped.length rest
      else some (wholeNumber minus significand, rest)

/-- A number, and what follows it. -/
def number? : List Char → Option (Number × List Char)
  | '-' :: r => unsigned? true r
  | cs => unsigned? false cs

/-! ## Values -/

/-- What follows a word that the text starts with. -/
def after? : List Char → List Char → Option (List Char)
  | [], cs => some cs
  | w :: ws, c :: cs => if w = c then after? ws cs else none
  | _ :: _, [] => none

/-- The items of a list after its bracket, given a reader of items. -/
def items? (item : List Char → Option (Value × List Char)) :
    Nat → List Char → Option (List Value × List Char)
  | 0, _ => none
  | fuel + 1, cs => do
    let (v, r) ← item cs
    match skipBlank r with
    | ',' :: r =>
      let (vs, r) ← items? item fuel r
      return (v :: vs, r)
    | ']' :: r => return ([v], r)
    | _ => none

/-- The members of an object after its brace, given a reader of values. -/
def members? (item : List Char → Option (Value × List Char)) :
    Nat → List Char → Option (List (String × Value) × List Char)
  | 0, _ => none
  | fuel + 1, cs =>
    match skipBlank cs with
    | '"' :: r => do
      let (k, r) ← string? r
      match skipBlank r with
      | ':' :: r =>
        let (v, r) ← item r
        match skipBlank r with
        | ',' :: r =>
          let (ms, r) ← members? item fuel r
          return ((String.ofList k, v) :: ms, r)
        | '\x7d' :: r => return ([(String.ofList k, v)], r)
        | _ => none
      | _ => none
    | _ => none

/-- A value nested at most `depth` deep, and what follows it. -/
def value? (depth : Nat) (cs : List Char) : Option (Value × List Char) :=
  match skipBlank cs with
  | [] => none
  | '"' :: r => (string? r).map fun p => (.text (String.ofList p.1), p.2)
  | 'n' :: r => (after? ['u', 'l', 'l'] r).map fun r => (.null, r)
  | 't' :: r => (after? ['r', 'u', 'e'] r).map fun r => (.bool true, r)
  | 'f' :: r => (after? ['a', 'l', 's', 'e'] r).map fun r => (.bool false, r)
  | '[' :: r =>
    match depth with
    | 0 => none
    | depth + 1 =>
      match skipBlank r with
      | ']' :: r => some (.list [], r)
      | _ => (items? (value? depth) (r.length + 1) r).map fun p => (.list p.1, p.2)
  | '\x7b' :: r =>
    match depth with
    | 0 => none
    | depth + 1 =>
      match skipBlank r with
      | '\x7d' :: r => some (.object [], r)
      | _ => (members? (value? depth) (r.length + 1) r).map fun p => (.object p.1, p.2)
  | cs => (number? cs).map fun p => (.number p.1, p.2)

/-- How deep lists and objects may be nested. -/
def maxDepth : Nat := 127

/-- **The value that a text denotes, if it is JSON.** -/
def read? (s : String) : Option Value :=
  match value? maxDepth s.toList with
  | some (v, r) => if skipBlank r = [] then some v else none
  | none => none

end FunctionLoad.Json
