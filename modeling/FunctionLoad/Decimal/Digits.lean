import FunctionLoad.Text.Ascii

/-!
# Digits of natural numbers

* `digits`: the decimal digits of a number, most significant first; `decimal` is their text.
* `ofDigits`: the number that a list of digits of some base denotes.
* `natural?`, `whole?`, `integer?`: readers of a whole text as a number with an optional sign.
* **`ofDigits_digits`**: the digits of a number denote it.
-/

namespace FunctionLoad.Decimal

open FunctionLoad.Text

/-- The digit characters of `n` in front of `rest`. -/
def digitsBefore (n : Nat) (rest : List Char) : List Char :=
  if n < 10 then hexDigit n :: rest
  else digitsBefore (n / 10) (hexDigit (n % 10) :: rest)
termination_by n
decreasing_by omega

/-- The decimal digits of a number, most significant first. -/
def digits (n : Nat) : List Char :=
  digitsBefore n []

/-- The decimal form of a natural number. -/
def decimal (n : Nat) : String :=
  String.ofList (digits n)

/-- The decimal form of an integer. -/
def decimalInt (n : Int) : String :=
  match n with
  | .ofNat m => decimal m
  | .negSucc m => "-" ++ decimal (m + 1)

/-- The number that digits of `base` denote after a leading value; characters that are no digits
count as zero. -/
def ofDigitsFrom (base : Nat) (value : Nat) (cs : List Char) : Nat :=
  cs.foldl (fun v c => v * base + (digitValue? base c).getD 0) value

/-- The number that a list of digits of `base` denotes. -/
def ofDigits (base : Nat) (cs : List Char) : Nat :=
  ofDigitsFrom base 0 cs

/-- Whether a character is a digit of `base`. -/
def isDigitOf (base : Nat) (c : Char) : Bool :=
  (digitValue? base c).isSome

/-- Whether a character is an ASCII decimal digit. -/
def isDigit (c : Char) : Bool :=
  isDigitOf 10 c

/-- A non-empty list of digits of `base`, as a number. -/
def unsigned? (base : Nat) (cs : List Char) : Option Nat :=
  if cs ≠ [] ∧ cs.all (isDigitOf base) then some (ofDigits base cs) else none

/-- A natural number with an optional `+`, all of the text. -/
def natural? (base : Nat) : List Char → Option Nat
  | '+' :: cs => unsigned? base cs
  | cs => unsigned? base cs

/-- An integer with an optional `+` or `-`, all of the text. -/
def integer? (base : Nat) : List Char → Option Int
  | '-' :: cs => (unsigned? base cs).map fun n => -(n : Int)
  | cs => (natural? base cs).map Int.ofNat

/-- A number that fits in 64 bits without sign, written in decimal with an optional `+`. -/
def word? (s : String) : Option UInt64 :=
  (natural? 10 s.toList).bind fun n => if n < UInt64.size then some (UInt64.ofNat n) else none

/-! ## Digits denote their number -/

theorem hexDigit_value : ∀ d < 10, digitValue? 10 (hexDigit d) = some d := by decide

theorem digitValue?_hexDigit_mod (n : Nat) : digitValue? 10 (hexDigit (n % 10)) = some (n % 10) :=
  hexDigit_value _ (Nat.mod_lt _ (by decide))

theorem ofDigitsFrom_digitsBefore (n : Nat) (v : Nat) (rest : List Char) :
    ∃ k, ofDigitsFrom 10 v (digitsBefore n rest) = ofDigitsFrom 10 (v * k + n) rest := by
  induction n, rest using digitsBefore.induct with
  | case1 n rest h =>
    refine ⟨10, ?_⟩
    rw [digitsBefore, if_pos h]
    simp [ofDigitsFrom, hexDigit_value n h]
  | case2 n rest h ih =>
    obtain ⟨k, hk⟩ := ih
    refine ⟨k * 10, ?_⟩
    rw [digitsBefore, if_neg h, hk]
    simp only [ofDigitsFrom, List.foldl_cons, digitValue?_hexDigit_mod, Option.getD_some]
    congr 1
    have := Nat.div_add_mod n 10
    rw [Nat.add_mul, Nat.mul_assoc]
    omega

/-- **The digits of a number denote it.** -/
theorem ofDigits_digits (n : Nat) : ofDigits 10 (digits n) = n := by
  obtain ⟨k, hk⟩ := ofDigitsFrom_digitsBefore n 0 []
  simpa [ofDigits, digits, ofDigitsFrom] using hk

theorem all_isDigit_digitsBefore (n : Nat) (rest : List Char) (h : rest.all isDigit = true) :
    (digitsBefore n rest).all isDigit = true := by
  induction n, rest using digitsBefore.induct with
  | case1 n rest hn =>
    rw [digitsBefore, if_pos hn]
    simp only [List.all_cons, h, Bool.and_true]
    simp [isDigit, isDigitOf, hexDigit_value n hn]
  | case2 n rest hn ih =>
    rw [digitsBefore, if_neg hn]
    refine ih ?_
    simp only [List.all_cons, h, Bool.and_true]
    simp [isDigit, isDigitOf, digitValue?_hexDigit_mod]

/-- The digits of a number are decimal digits. -/
theorem all_isDigit_digits (n : Nat) : (digits n).all isDigit = true :=
  all_isDigit_digitsBefore n [] rfl

end FunctionLoad.Decimal
