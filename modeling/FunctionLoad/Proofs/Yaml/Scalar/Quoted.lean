import FunctionLoad.Yaml.Scalar.Quoted
import FunctionLoad.Proofs.Yaml.Shape
import Mathlib.Algebra.Group.Nat.Defs
import Mathlib.Tactic.SplitIfs

/-!
# Quoted scalars that are read back

* `Quoted.Pending`: the gap in front of the rest of a text between single quotes.
* **`Quoted.single?_singleChars`**: a text between single quotes is read back, with its breaks.
* `Quoted.codePoint?_capitalHex`, `Quoted.doubleFrom_escape`: every escape is undone.
* **`Quoted.double?_doubleChars`**: every text between double quotes is read back.
-/

namespace FunctionLoad.Yaml.Quoted

open FunctionLoad.Text

variable {line column : Nat} {gap : Gap}

/-! ## Single quotes -/

theorem singleFrom_quote (r : List Char) : singleFrom line column gap ('\'' :: '\'' :: r) =
    (singleFrom line (column + 2) .none r).map fun p => (gap.text ++ '\'' :: p.1, p.2) := by
  rw [singleFrom]

theorem singleFrom_cons {c : Char} {r : List Char} (h : c = '\'' → r.head? ≠ some '\'') :
    singleFrom line column gap (c :: r) =
      if isGap c then singleFrom line (column + 1) (gap.space c) r
      else if isBreak c then singleFrom (line + 1) 0 (gap.lineBreak c) r
      else if column == 0 && atMarker (c :: r) then none
      else if c == '\'' then some (gap.text, ⟨r, line, column + 1⟩)
      else (singleFrom line (column + 1) .none r).map fun p => (gap.text ++ c :: p.1, p.2) := by
  rw [singleFrom.eq_def]
  split
  · next he => cases he
  · next he =>
    obtain ⟨rfl, rfl⟩ := List.cons.inj he
    exact absurd rfl (h rfl)
  · next he =>
    obtain ⟨rfl, rfl⟩ := List.cons.inj he
    rfl

theorem singleFrom_break {c : Char} (hp : isPrintable c = true) (hc : isAnyBreak c = true)
    (r : List Char) : singleFrom line column gap (c :: r) =
      singleFrom (line + 1) 0 (gap.lineBreak c) r := by
  have hb : isBreak c = true := (isBreak_eq_isAnyBreak hp).trans hc
  have hq : c ≠ '\'' := by
    rintro rfl
    exact absurd hb (by decide)
  rw [singleFrom_cons (fun h => absurd h hq), isGap_of_isBreak hb, if_neg (by simp), if_pos hb]

theorem singleFrom_space (r : List Char) : singleFrom line column gap (' ' :: r) =
    singleFrom line (column + 1) (gap.space ' ') r := by
  have hs : isGap ' ' = true := by decide
  rw [singleFrom_cons (fun h => absurd h (by decide)), if_pos hs]

/-- **Any other character ends the gap in front of it**, a quote as two of them. -/
theorem singleFrom_character {c : Char} (hg : isGap c = false) (hb : isBreak c = false)
    (h0 : 0 < column) (line : Nat) (gap : Gap) (r : List Char) :
    ∃ column', 0 < column' ∧
      singleFrom line column gap ((if c = '\'' then ['\'', '\''] else [c]) ++ r) =
        (singleFrom line column' .none r).map fun p => (gap.text ++ c :: p.1, p.2) := by
  by_cases hq : c = '\''
  · subst hq
    exact ⟨column + 2, by omega, singleFrom_quote r⟩
  · refine ⟨column + 1, by omega, ?_⟩
    rw [if_neg hq, List.cons_append, List.nil_append, singleFrom_cons (fun h => absurd h hq)]
    simp [hg, hb, hq, Nat.ne_of_gt h0]

/-- Spaces at the start of a line do not count. -/
theorem singleFrom_indentation (n : Nat) (first : Option Char) (breaks rest : List Char) :
    singleFrom line column (.broken first breaks) (indentation n ++ rest) =
      singleFrom line (column + n) (.broken first breaks) rest := by
  induction n generalizing column with
  | zero => rfl
  | succ n ih =>
    rw [indentation_succ, List.cons_append, singleFrom_space, Gap.space, ih]
    congr 1
    omega

/-- **The gap in front of the rest of a text** between single quotes, behind a character: spaces of
the same line behind a space, or breaks that are no line feeds behind a break. -/
inductive Pending : (afterBreak : Bool) → (previous : Char) → (column : Nat) → Gap → Prop
  | spaces {p : Char} {column : Nat} {newest : List Char} :
    (newest ≠ [] → p = ' ') → 0 < column → Pending false p column (.spaces newest)
  | broken {p first : Char} {column : Nat} {newest : List Char} :
    isAnyBreak p = true → first ≠ '\n' → Pending true p column (.broken (some first) newest)

theorem Pending.none {p : Char} {column : Nat} (h : 0 < column) : Pending false p column Gap.none :=
  .spaces (fun h0 => absurd rfl h0) h

theorem Pending.lineBreak {ab : Bool} {p c : Char} (h : Pending ab p column gap)
    (hs : p = ' ' → isAnyBreak c = false) (hb : isAnyBreak c = true) (hc : c ≠ '\n') :
    Pending true c 0 (gap.lineBreak c) ∧ (gap.lineBreak c).text = gap.text ++ [c] := by
  cases h with
  | broken hp hf => exact ⟨.broken hb hf, by simp [Gap.lineBreak, Gap.text, hf]⟩
  | @spaces p _ newest hn h0 =>
    have hn0 : newest = [] := by
      cases newest with
      | nil => rfl
      | cons d r =>
        rw [hs (hn (by simp))] at hb
        cases hb
    subst hn0
    exact ⟨.broken hb hc, by simp [Gap.lineBreak, Gap.text, hc]⟩

/-- Where a character that is no break was written behind a gap, it is read on its own line. -/
theorem singleFrom_pending {ab : Bool} {p : Char} (h : Pending ab p column gap) {indent : Nat}
    (hi : 0 < indent) (line : Nat) (rest : List Char) :
    ∃ column', 0 < column' ∧ Pending ab p column' gap ∧
      singleFrom line column gap ((if ab then indentation indent else []) ++ rest) =
        singleFrom line column' gap rest := by
  cases h with
  | spaces hn h0 => exact ⟨_, h0, .spaces hn h0, rfl⟩
  | broken hp hf => exact ⟨column + indent, by omega, .broken hp hf, singleFrom_indentation _ _ _ _⟩

/-- **The rest of a text between single quotes is read back**, behind the gap in front of it. -/
theorem singleFrom_singleChars {indent : Nat} (hi : 0 < indent) {tail : List Char}
    (ht : tail.head? ≠ some '\'') {cs : List Char} {ab : Bool} {p : Char}
    (hp : Pending ab p column gap) (h1 : (shapeFrom p cs).special = false)
    (h2 : (shapeFrom p cs).breakSpace = false) (h3 : (shapeFrom p cs).spaceBreak = false)
    (hn : '\n' ∉ cs) (line : Nat) :
    ∃ line' column', singleFrom line column gap (singleChars indent ab cs ++ '\'' :: tail) =
      some (gap.text ++ cs, ⟨tail, line', column'⟩) := by
  induction cs generalizing line column gap ab p with
  | nil =>
    obtain ⟨k, hk, -, he⟩ := singleFrom_pending hp hi line ('\'' :: tail)
    have hg : isGap '\'' = false := by decide
    have hb : isBreak '\'' = false := by decide
    refine ⟨line, k + 1, ?_⟩
    rw [singleChars, he, singleFrom_cons (fun _ => ht)]
    simp [hg, hb, Nat.ne_of_gt hk]
  | cons c r ih =>
    simp only [special_shapeFrom_cons, breakSpace_shapeFrom_cons, spaceBreak_shapeFrom_cons,
      Bool.or_eq_false_iff, Bool.not_eq_false'] at h1 h2 h3
    rw [List.mem_cons, not_or] at hn
    rw [singleChars]
    cases hc : isAnyBreak c with
    | true =>
      have hs : p = ' ' → isAnyBreak c = false := fun he => by simpa [he] using h3.2
      obtain ⟨hp', htext⟩ := hp.lineBreak hs hc (Ne.symm hn.1)
      obtain ⟨l, k, he⟩ := ih hp' h1.1 h2.1 h3.1 hn.2 (line + 1)
      refine ⟨l, k, ?_⟩
      rw [if_pos rfl, List.cons_append, singleFrom_break h1.2 hc, he, htext, List.append_assoc]
      rfl
    | false =>
      rw [if_neg (by simp), List.append_assoc, List.append_assoc]
      obtain ⟨k, hk, hp', he⟩ := singleFrom_pending hp hi line
        ((if c = '\'' then ['\'', '\''] else [c]) ++ (singleChars indent false r ++ '\'' :: tail))
      rw [he]
      cases hg : isGap c with
      | true =>
        -- a space joins the gap, which has no break, because none stands in front of it
        obtain rfl := eq_space_of_isGap h1.2 hg
        cases hp' with
        | broken hb _ => simp [hb] at h2
        | @spaces _ _ newest hs h0 =>
          have hp2 : Pending false ' ' (k + 1) (.spaces (' ' :: newest)) :=
            .spaces (fun _ => rfl) (by omega)
          obtain ⟨l, m, hr⟩ := ih hp2 h1.1 h2.1 h3.1 hn.2 line
          refine ⟨l, m, ?_⟩
          rw [if_neg (by decide), List.cons_append, List.nil_append, singleFrom_space, Gap.space,
            hr]
          simp [Gap.text]
      | false =>
        obtain ⟨k', hk', hq⟩ := singleFrom_character hg (isBreak_of_isAnyBreak hc) hk line gap
          (singleChars indent false r ++ '\'' :: tail)
        obtain ⟨l, m, hr⟩ := ih (Pending.none hk') h1.1 h2.1 h3.1 hn.2 line
        refine ⟨l, m, ?_⟩
        rw [hq, hr]
        rfl

/-- **A text between single quotes is read back**, and the cursor stands behind the closing one. -/
theorem single?_singleChars {indent : Nat} (hi : 0 < indent) (hc : 0 < column) {cs tail : List Char}
    (ht : tail.head? ≠ some '\'') (ha : allowsSingle cs = true) (hn : '\n' ∉ cs) (line : Nat) :
    ∃ line' column', single? ⟨singleChars indent false cs ++ '\'' :: tail, line, column⟩ =
      some (cs, ⟨tail, line', column'⟩) := by
  simp only [allowsSingle, Bool.not_eq_true', Bool.or_eq_false_iff] at ha
  obtain ⟨-, h1, h2, h3⟩ := shape_eq_shapeFrom cs
  obtain ⟨l, k, h⟩ := singleFrom_singleChars hi ht (Pending.none (p := 'a') hc)
    (h1 ▸ ha.1.1) (h2 ▸ ha.1.2) (h3 ▸ ha.2) hn line
  exact ⟨l, k, h⟩

/-! ## Double quotes -/

theorem hexValue?_hexDigitUpper : ∀ d < 16, hexValue? (hexDigitUpper d) = some d := by decide

theorem foldlM_capitalHex (width n v : Nat) :
    (capitalHex width n).foldlM (fun n d => (hexValue? d).map (n * 16 + ·)) v =
      some (v * 16 ^ width + n % 16 ^ width) := by
  induction width generalizing n with
  | zero => simp [capitalHex, Nat.mod_one]
  | succ width ih =>
    have hd := hexValue?_hexDigitUpper (n % 16) (Nat.mod_lt _ (by decide))
    rw [capitalHex, List.foldlM_append, ih, Nat.pow_succ', Nat.mod_mul, Nat.mul_left_comm]
    simp [hd]
    omega

theorem toNat_isScalar (c : Char) :
    c.toNat < 0xD800 ∨ (0xE000 ≤ c.toNat ∧ c.toNat < 0x110000) := by
  have := c.valid
  simp only [UInt32.isValidChar, Nat.isValidChar] at this
  simp only [Char.toNat]
  omega

/-- Hexadecimal digits denote the character that they were written for. -/
theorem codePoint?_capitalHex {c : Char} {width : Nat} (h : c.toNat < 16 ^ width) :
    codePoint? (capitalHex width c.toNat) = some c := by
  rw [codePoint?, foldlM_capitalHex, Nat.mod_eq_of_lt h]
  simp [toNat_isScalar c]

/-- A letter that escapes a character stands for it. -/
theorem escaped?_escapeLetter? {c d : Char} (h : escapeLetter? c = some d) :
    escaped? d = some c ∧ d ≠ 'x' ∧ d ≠ 'u' ∧ d ≠ 'U' ∧ isBreak d = false := by
  have hc : c = Char.ofNat c.toNat := (Char.ofNat_toNat c).symm
  revert h
  fun_cases escapeLetter? c <;> intro h <;> cases h
  case case10 hq =>
    have hq : c = '"' ∨ c = '\\' := by simpa using hq
    rcases hq with rfl | rfl <;> decide
  all_goals
    rename_i n hn
    rw [hc, show c.toNat = _ from eq_of_beq hn]
    decide

theorem doubleFrom_cons {c : Char} (h : c ≠ '\\') (r : List Char) :
    doubleFrom line column gap (c :: r) =
      if isGap c then doubleFrom line (column + 1) (gap.space c) r
      else if isBreak c then doubleFrom (line + 1) 0 (gap.lineBreak c) r
      else if column == 0 && atMarker (c :: r) then none
      else if c == '"' then some (gap.text, ⟨r, line, column + 1⟩)
      else (doubleFrom line (column + 1) .none r).map fun p => (gap.text ++ c :: p.1, p.2) := by
  rw [doubleFrom.eq_def]
  split <;> simp_all

theorem doubleFrom_letter {c d : Char} (h : escapeLetter? c = some d) (r : List Char) :
    doubleFrom line column gap ('\\' :: d :: r) =
      (doubleFrom line (column + 2) .none r).map fun p => (gap.text ++ c :: p.1, p.2) := by
  obtain ⟨he, hx, hu, hU, hb⟩ := escaped?_escapeLetter? h
  rw [doubleFrom]
  · simp [he, hb]
  · simp [hx]
  · simp [hu]
  · simp [hU]

/-- **Every escape is undone.** -/
theorem doubleFrom_escape (line column : Nat) (gap : Gap) (c : Char) (r : List Char) :
    ∃ column', 0 < column' ∧ doubleFrom line column gap (escape c ++ r) =
      (doubleFrom line column' .none r).map fun p => (gap.text ++ c :: p.1, p.2) := by
  unfold escape
  cases h : escapeLetter? c with
  | some d => exact ⟨column + 2, by omega, doubleFrom_letter h r⟩
  | none =>
    dsimp only
    split_ifs with h2 h4
    · refine ⟨column + 4, by omega, ?_⟩
      have hp : codePoint? (capitalHex 2 c.toNat) = some c := codePoint?_capitalHex (by omega)
      simp only [capitalHex, List.nil_append, List.cons_append] at hp ⊢
      rw [doubleFrom, hp, Option.bind_some]
    · refine ⟨column + 6, by omega, ?_⟩
      have hp : codePoint? (capitalHex 4 c.toNat) = some c := codePoint?_capitalHex (by omega)
      simp only [capitalHex, List.nil_append, List.cons_append] at hp ⊢
      rw [doubleFrom, hp, Option.bind_some]
    · refine ⟨column + 10, by omega, ?_⟩
      have hp : codePoint? (capitalHex 8 c.toNat) = some c :=
        codePoint?_capitalHex (by have := toNat_isScalar c; omega)
      simp only [capitalHex, List.nil_append, List.cons_append] at hp ⊢
      rw [doubleFrom, hp, Option.bind_some]

theorem doubleFrom_doubleChars (line : Nat) (tail cs g : List Char) (hc : 0 < column) :
    ∃ column', doubleFrom line column (.spaces g) (cs.flatMap doubleChar ++ '"' :: tail) =
      some (g.reverse ++ cs, ⟨tail, line, column'⟩) := by
  induction cs generalizing column g with
  | nil =>
    have hg : isGap '"' = false := by decide
    have hb : isBreak '"' = false := by decide
    refine ⟨column + 1, ?_⟩
    rw [List.flatMap_nil, List.nil_append, doubleFrom_cons (by decide)]
    simp [hg, hb, Gap.text, Nat.ne_of_gt hc]
  | cons c r ih =>
    rw [List.flatMap_cons, List.append_assoc, doubleChar]
    split_ifs with he
    · obtain ⟨k, hk, h⟩ := doubleFrom_escape line column (.spaces g) c
        (r.flatMap doubleChar ++ '"' :: tail)
      obtain ⟨m, hm⟩ := ih [] hk
      exact ⟨m, by simp [h, Gap.none, hm, Gap.text]⟩
    · simp only [Bool.not_eq_true, Bool.or_eq_false_iff, Bool.not_eq_false',
        beq_eq_false_iff_ne] at he
      obtain ⟨⟨⟨hp, hb⟩, hq⟩, hs⟩ := he
      rw [List.cons_append, List.nil_append, doubleFrom_cons hs]
      by_cases hg : isGap c = true
      · obtain rfl := eq_space_of_isGap hp hg
        obtain ⟨m, hm⟩ := ih (' ' :: g) (show 0 < column + 1 by omega)
        exact ⟨m, by simp [hg, Gap.space, hm]⟩
      · obtain ⟨m, hm⟩ := ih [] (show 0 < column + 1 by omega)
        have h0 : column ≠ 0 := by omega
        refine ⟨m, ?_⟩
        rw [if_neg hg, isBreak_eq_isAnyBreak hp, hb]
        simp [h0, hq, Gap.none, hm, Gap.text]

/-- **Every text between double quotes is read back**, and the cursor stands behind the closing
one. -/
theorem double?_doubleChars (hc : 0 < column) (cs tail : List Char) (line : Nat) :
    ∃ column', double? ⟨cs.flatMap doubleChar ++ '"' :: tail, line, column⟩ =
      some (cs, ⟨tail, line, column'⟩) := by
  obtain ⟨k, h⟩ := doubleFrom_doubleChars line tail cs [] hc
  exact ⟨k, h⟩

end FunctionLoad.Yaml.Quoted
