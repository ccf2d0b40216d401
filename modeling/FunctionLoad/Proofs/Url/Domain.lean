import FunctionLoad.Url.Domain
import Mathlib.Tactic.SplitIfs

/-!
# Domain names that end in a blank

* **`normalize_concat`**: a character that the tables do not hold stays where it is at the end of a
  text.
* `map?_concat`, `decodeLabel?_concat`: so a blank at the end stays in the mapped name, and in its
  last label.
* **`toAscii?_concat`**: a name that ends in a blank has no ASCII form.

A blank is a space or one of the control characters before it.
-/

namespace FunctionLoad.Text

/-- A character that separates nothing is put behind the last piece. -/
theorem splitWhere_concat {α : Type} {p : α → Bool} {a : α} (h : p a = false) (l : List α) :
    ∃ front last, splitWhere p l = front ++ [last] ∧
      splitWhere p (l ++ [a]) = front ++ [last ++ [a]] := by
  induction l with
  | nil =>
    refine ⟨[], [], rfl, ?_⟩
    simp [splitWhere, h]
  | cons b l ih =>
    obtain ⟨front, last, h1, h2⟩ := ih
    rw [List.cons_append, splitWhere, splitWhere, h1, h2]
    by_cases hb : p b = true
    · rw [if_pos hb, if_pos hb]
      exact ⟨[] :: front, last, rfl, rfl⟩
    · rw [if_neg hb, if_neg hb]
      cases front with
      | nil => exact ⟨[], b :: last, rfl, rfl⟩
      | cons f front => exact ⟨(b :: f) :: front, last, rfl, rfl⟩

end FunctionLoad.Text

namespace FunctionLoad.Url

open FunctionLoad.Text FunctionLoad.Text.LowerCase

/-! ## Punycode -/

namespace Punycode

variable {c : Char}

/-- A number leaves a character that is no digit. -/
theorem number?_concat (h : digitValue? c = none) {bias j : Nat} {cs r : List Char} :
    ∀ {i weight position : Nat}, number? bias i weight position (cs ++ [c]) = some (j, r) →
      ∃ s, r = s ++ [c] := by
  induction cs with
  | nil =>
    intro i weight position hn
    rw [List.nil_append, number?, h] at hn
    cases hn
  | cons b cs ih =>
    intro i weight position hn
    rw [List.cons_append, number?] at hn
    cases hd : digitValue? b with
    | none =>
      rw [hd] at hn
      cases hn
    | some d =>
      rw [hd] at hn
      dsimp only [Option.bind_eq_bind, Option.bind_some] at hn
      split_ifs at hn
      · cases hn
        exact ⟨cs, rfl⟩
      · exact ih hn

theorem insertAll_concat (h : digitValue? c = none) (fuel : Nat) :
    ∀ (n i bias : Nat) (out cs : List Char), insertAll fuel n i bias out (cs ++ [c]) = none := by
  induction fuel with
  | zero =>
    intro n i bias out cs
    cases cs <;> rfl
  | succ fuel ih =>
    intro n i bias out cs
    rw [insertAll]
    · cases hn : number? bias i 1 36 (cs ++ [c]) with
      | none => rfl
      | some p =>
        obtain ⟨j, r⟩ := p
        obtain ⟨s, rfl⟩ := number?_concat h hn
        dsimp only [Option.bind_eq_bind, Option.bind_some]
        split_ifs
        · rfl
        · exact ih _ _ _ _ s
    · exact List.append_ne_nil_of_right_ne_nil cs (List.cons_ne_nil c [])

/-- **A text that ends in no digit encodes nothing.** -/
theorem decode?_concat (h : digitValue? c = none) (hc : c ≠ '-') (cs : List Char) :
    decode? (cs ++ [c]) = none := by
  have ht : ((cs ++ [c]).reverse.takeWhile (· ≠ '-')).reverse =
      (cs.reverse.takeWhile (· ≠ '-')).reverse ++ [c] := by
    rw [List.reverse_append, List.reverse_singleton, List.singleton_append,
      List.takeWhile_cons_of_pos (by simpa using hc), List.reverse_cons]
  rw [decode?, ht]
  split_ifs
  · exact insertAll_concat h _ _ _ _ _ cs
  · exact insertAll_concat h _ _ _ _ _ _

end Punycode

namespace Domain

/-! ## Normal form -/

variable {x : Nat}

theorem combiningClass_eq_zero (h : x < firstCombining) : combiningClass x = 0 :=
  if_pos h

theorem decompose_eq_self (h : x < firstComposed) (fuel : Nat) : decompose fuel x = [x] := by
  cases fuel with
  | zero => rfl
  | succ fuel => rw [decompose, decomposeBy, if_pos h]

theorem join?_eq_none (h : x < firstCombining) (base : Nat) : join? base x = none := by
  rw [join?, if_pos h]

theorem reorder_concat (h : x < firstCombining) (ns : List Nat) :
    reorder (ns ++ [x]) = reorder ns ++ [(x, 0)] := by
  have hs (done : List (Nat × Nat)) : settle (x, 0) done = (x, 0) :: done := by
    cases done with
    | nil => rfl
    | cons y done => rw [settle, if_neg fun hp => absurd hp.1 (Nat.lt_irrefl 0)]
  rw [reorder, reorder, List.foldl_append, List.foldl_cons, List.foldl_nil,
    combiningClass_eq_zero h, hs, List.reverse_cons]

theorem composeFrom_concat (h : x < firstCombining) (ns : List (Nat × Nat)) :
    ∀ (base : Nat) (waiting : List Nat) (last : Option Nat),
      composeFrom base waiting last (ns ++ [(x, 0)]) = composeFrom base waiting last ns ++ [x] := by
  induction ns with
  | nil =>
    intro base waiting last
    rw [List.nil_append, composeFrom.eq_def]
    simp only [join?_eq_none h, ite_self, if_true]
    simp only [composeFrom, List.reverse_nil]
  | cons y ns ih =>
    intro base waiting last
    obtain ⟨n, k⟩ := y
    rw [List.cons_append, composeFrom.eq_def, composeFrom.eq_def _ _ _ (_ :: ns)]
    dsimp only
    split
    · exact ih _ _ _
    · by_cases hk : k = 0
      · rw [if_pos hk, if_pos hk, ih, List.append_assoc]
      · rw [if_neg hk, if_neg hk, ih]

theorem compose_concat (h : x < firstCombining) (ns : List (Nat × Nat)) :
    compose (ns ++ [(x, 0)]) = compose ns ++ [x] := by
  induction ns with
  | nil => rfl
  | cons y ns ih =>
    obtain ⟨n, k⟩ := y
    rw [List.cons_append, compose, compose]
    split_ifs
    · exact composeFrom_concat h ns n [] none
    · rw [ih, List.cons_append]

/-- **A character before the tables stays where it is at the end of a text.** -/
theorem normalize_concat (h : x < firstComposed) (ns : List Nat) :
    normalize (ns ++ [x]) = normalize ns ++ [x] := by
  have hx : x < firstCombining := Nat.lt_trans h (by decide)
  rw [normalize, normalize, List.flatMap_append, List.flatMap_singleton, decompose_eq_self h,
    reorder_concat hx, compose_concat hx]

/-! ## Blanks -/

variable {c : Char}

theorem ne_of_blank (h : c.toNat ≤ 0x20) {d : Char} (hd : 0x20 < d.toNat) : c ≠ d := by
  rintro rfl
  exact absurd h (Nat.not_le_of_gt hd)

theorem replacement?_blank : ∀ n ≤ 0x20, replacement? n = some [n] := by decide

theorem map?_concat (h : c.toNat ≤ 0x20) (cs : List Char) :
    map? (cs ++ [c]) = (map? cs).map (· ++ [c]) := by
  have hx : c.toNat < firstComposed := Nat.lt_of_le_of_lt h (by decide)
  rw [map?, map?, List.mapM_append, List.mapM_cons, List.mapM_nil, replacement?_blank _ h]
  cases cs.mapM fun c => replacement? c.toNat with
  | none => rfl
  | some ns =>
    dsimp only [Option.bind_eq_bind, Option.bind_some, Option.pure_def, Option.map_some]
    rw [List.flatten_append, List.flatten_singleton, normalize_concat hx, List.map_append,
      List.map_singleton, Char.ofNat_toNat]

theorem isEncoded_concat (hc : c ≠ '-') {label : List Char} (h : isEncoded (label ++ [c]) = true) :
    ∃ code, (label ++ [c]).drop 4 = code ++ [c] := by
  have hp : mark <+: label ++ [c] := List.isPrefixOf_iff_prefix.mp h
  obtain h0 | h0 := List.prefix_concat_iff.mp hp
  · have hl := congrArg List.getLast? h0
    rw [List.getLast?_concat] at hl
    exact absurd (Option.some.inj hl).symm hc
  · have hl : 4 ≤ label.length := h0.length_le
    exact ⟨label.drop 4, by rw [List.drop_append_of_le_length hl]⟩

/-- A label that ends in a blank is none, or it keeps the blank. -/
theorem decodeLabel?_concat (h : c.toNat ≤ 0x20) {label decoded : List Char}
    (hd : decodeLabel? (label ++ [c]) = some decoded) : decoded = label ++ [c] := by
  have hc : c ≠ '-' := ne_of_blank h (by decide)
  have hv : Punycode.digitValue? c = none := by
    unfold Punycode.digitValue?
    rw [if_neg (by omega), if_neg (by omega), if_neg (by omega)]
  unfold decodeLabel? at hd
  split_ifs at hd with he
  · obtain ⟨code, hcode⟩ := isEncoded_concat hc he
    rw [hcode] at hd
    dsimp only at hd
    rw [Punycode.decode?_concat hv hc] at hd
    split_ifs at hd
  · exact (Option.some.inj hd).symm

theorem isForbidden_blank (h : c.toNat ≤ 0x20) : isForbidden c = true := by
  unfold isForbidden
  rw [decide_eq_true h, Bool.true_or, Bool.true_or]

theorem toAsciiAny?_concat (h : c.toNat ≤ 0x20) (cs : List Char) :
    toAsciiAny? (cs ++ [c]) = none := by
  unfold toAsciiAny?
  rw [map?_concat h]
  cases map? cs with
  | none => rfl
  | some mapped =>
    have hp : (c == '.') = false := beq_eq_false_iff_ne.mpr (ne_of_blank h (by decide))
    obtain ⟨front, last, -, hs⟩ := splitWhere_concat (p := (· == '.')) hp mapped
    dsimp only [Option.bind_eq_bind, Option.bind_some, Option.map_some]
    rw [hs, List.mapM_append]
    cases front.mapM decodeLabel? with
    | none => rfl
    | some front =>
      rw [List.mapM_cons, List.mapM_nil]
      cases hl : decodeLabel? (last ++ [c]) with
      | none => rfl
      | some l =>
        cases decodeLabel?_concat h hl
        dsimp only [Option.bind_eq_bind, Option.bind_some, Option.pure_def]
        rw [if_pos]
        simp [isForbidden_blank h]

/-- **A name that ends in a blank has no ASCII form.** -/
theorem toAscii?_concat (h : c.toNat ≤ 0x20) (cs : List Char) : toAscii? (cs ++ [c]) = none := by
  rw [toAscii?]
  by_cases hs : isSimple (cs ++ [c]) = true
  · rw [if_pos hs, if_pos]
    simp [isForbidden_blank h]
  · rw [if_neg hs]
    exact toAsciiAny?_concat h cs

end Domain

end FunctionLoad.Url
