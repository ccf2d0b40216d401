import FunctionLoad.Decimal.Digits
import Mathlib.Tactic.SplitIfs

/-!
# Digits that are written for numbers

* `digitsBefore_eq_cons`, `digits_ne_nil`, **`not_leadingZero`**: what the digits of a number start
  with.
* `isDigit_iff`, `isDigit_of_mem_digits`, `exists_digits_eq_cons`: decimal digits as characters.
* `unsigned?_eq_some_iff`, `natural?_eq_some_iff`: which texts are read as numbers.
* **`unsigned?_digits`**: the digits of a number are read back.
-/

namespace FunctionLoad.Decimal

open FunctionLoad.Text

/-- A positive number starts with a digit above zero. -/
theorem digitsBefore_eq_cons (n : Nat) (rest : List Char) (h : 0 < n) :
    ∃ d r, 0 < d ∧ d < 10 ∧ digitsBefore n rest = hexDigit d :: r := by
  induction n, rest using digitsBefore.induct with
  | case1 n rest hn => exact ⟨n, rest, h, hn, by rw [digitsBefore, if_pos hn]⟩
  | case2 n rest hn ih =>
    rw [digitsBefore, if_neg hn]
    exact ih (by omega)

theorem hexDigit_ne_zero : ∀ d < 10, 0 < d → hexDigit d ≠ '0' := by decide

theorem digits_zero : digits 0 = ['0'] := by rw [digits, digitsBefore]; rfl

theorem digits_ne_nil (n : Nat) : digits n ≠ [] := by
  by_cases h : n = 0
  · subst h; rw [digits_zero]; exact List.cons_ne_nil _ _
  · obtain ⟨d, r, _, _, hd⟩ := digitsBefore_eq_cons n [] (by omega)
    rw [digits, hd]
    exact List.cons_ne_nil _ _

/-- Only zero is written with a leading zero, and that has one digit. -/
theorem not_leadingZero (n : Nat) : ¬ ((digits n).head? = some '0' ∧ 1 < (digits n).length) := by
  by_cases h : n = 0
  · subst h; rw [digits_zero]; decide
  · obtain ⟨d, r, h0, h10, hd⟩ := digitsBefore_eq_cons n [] (by omega)
    rw [digits, hd]
    rintro ⟨hh, -⟩
    exact hexDigit_ne_zero d h10 h0 (Option.some.inj hh)

theorem isDigit_of_mem_digits {n : Nat} : ∀ c ∈ digits n, isDigit c = true :=
  List.all_eq_true.mp (all_isDigit_digits n)

/-- The digits of a number start with one. -/
theorem exists_digits_eq_cons (n : Nat) : ∃ c r, digits n = c :: r ∧ isDigit c = true := by
  obtain ⟨c, r, hcr⟩ := List.exists_cons_of_ne_nil (digits_ne_nil n)
  exact ⟨c, r, hcr, isDigit_of_mem_digits c (hcr ▸ List.mem_cons_self)⟩

theorem toList_decimal (n : Nat) : (decimal n).toList = digits n := by
  rw [decimal, String.toList_ofList]

theorem isDigit_iff {c : Char} : isDigit c = true ↔ 48 ≤ c.toNat ∧ c.toNat ≤ 57 := by
  simp only [isDigit, isDigitOf, digitValue?, hexValue?]
  split_ifs <;> simp only [Bool.and_eq_true, decide_eq_true_eq] at * <;> simp <;> omega

theorem exists_hexDigit {c : Char} (h : isDigit c = true) : ∃ n < 10, c = hexDigit n := by
  have hn := isDigit_iff.mp h
  refine ⟨c.toNat - 48, by omega, ?_⟩
  rw [hexDigit, if_pos (by omega), Nat.add_sub_cancel' hn.1, Char.ofNat_toNat]

theorem ne_of_isDigit {c d : Char} (h : isDigit c = true) (hd : isDigit d = false) : c ≠ d := by
  rintro rfl
  rw [h] at hd
  cases hd

/-! ## Readers -/

theorem unsigned?_eq_some_iff {base n : Nat} {cs : List Char} :
    unsigned? base cs = some n ↔
      cs ≠ [] ∧ (∀ c ∈ cs, isDigitOf base c = true) ∧ ofDigits base cs = n := by
  unfold unsigned?
  split_ifs with h
  · rw [List.all_eq_true] at h
    simp only [Option.some.injEq, h, ne_eq, not_false_eq_true, true_and]
    exact ⟨fun hn => ⟨h.2, hn⟩, And.right⟩
  · rw [List.all_eq_true, not_and] at h
    exact ⟨False.elim, fun hn => absurd hn.2.1 (h hn.1)⟩

/-- A plus counts for nothing in front of digits. -/
theorem natural?_eq_some_iff {n : Nat} {cs : List Char} :
    natural? 10 cs = some n ↔ ∃ sign ds : List Char, cs = sign ++ ds ∧
      (sign = [] ∨ sign = ['+']) ∧ ds ≠ [] ∧ (∀ c ∈ ds, isDigit c = true) ∧
      ofDigits 10 ds = n := by
  constructor
  · intro h
    unfold natural? at h
    split at h
    · next ds => exact ⟨['+'], ds, rfl, Or.inr rfl, unsigned?_eq_some_iff.mp h⟩
    · exact ⟨[], _, rfl, Or.inl rfl, unsigned?_eq_some_iff.mp h⟩
  · rintro ⟨sign, ds, rfl, rfl | rfl, hds⟩
    · obtain ⟨d, r, rfl⟩ := List.exists_cons_of_ne_nil hds.1
      have hd : d ≠ '+' := by
        rintro rfl
        exact absurd (hds.2.1 '+' List.mem_cons_self) (by decide)
      unfold natural?
      split
      · next he => exact absurd (List.cons.inj he).1 hd
      · exact unsigned?_eq_some_iff.mpr hds
    · exact unsigned?_eq_some_iff.mpr hds

/-- The digits of a number are read back. -/
theorem unsigned?_digits (n : Nat) : unsigned? 10 (digits n) = some n := by
  have h : (digits n).all (isDigitOf 10) = true := all_isDigit_digits n
  rw [unsigned?, if_pos ⟨digits_ne_nil n, h⟩, ofDigits_digits]

end FunctionLoad.Decimal
