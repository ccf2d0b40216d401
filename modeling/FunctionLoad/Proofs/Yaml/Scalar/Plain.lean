import FunctionLoad.Yaml.Scalar.Plain
import FunctionLoad.Proofs.Yaml.Shape
import Mathlib.Tactic.SplitIfs

/-!
# Plain scalars that are read back

* `IsRun`: characters that a plain scalar goes on with, behind a given one.
* **`Plain.readFrom_run`**: a run is read to its end, with the spaces in it.
* `Plain.readFrom_line`, `Plain.readFrom_colon`: where a plain scalar ends in front of a line that
  stands no deeper, and in front of a colon.
* `IsPlain`: a text that may be written plain and is not empty.
* **`Plain.read?_line`**, **`Plain.read?_key`**: such a text is read back.
* `IsPlain.canStart`: a plain scalar may start with the first character of such a text.
-/

namespace FunctionLoad.Yaml

/-! ## Runs -/

/-- **Characters that a plain scalar goes on with** behind a given one. -/
structure IsRun (previous : Char) (cs : List Char) : Prop where
  indicator : (shapeFrom previous cs).indicator = false
  lineBreak : (shapeFrom previous cs).lineBreak = false
  special : (shapeFrom previous cs).special = false

namespace IsRun

variable {p c : Char} {r : List Char}

theorem tail (h : IsRun p (c :: r)) : IsRun c r := by
  obtain ⟨hi, hb, hs⟩ := h
  simp only [indicator_shapeFrom_cons, lineBreak_shapeFrom_cons, special_shapeFrom_cons,
    Bool.or_eq_false_iff] at hi hb hs
  exact ⟨hi.1, hb.1, hs.1⟩

theorem printable (h : IsRun p (c :: r)) : isPrintable c = true :=
  isPrintable_of_special h.special c List.mem_cons_self

theorem not_isBreak (h : IsRun p (c :: r)) : isBreak c = false := by
  have hb := h.lineBreak
  simp only [lineBreak_shapeFrom_cons, Bool.or_eq_false_iff] at hb
  exact isBreak_of_isAnyBreak hb.2

/-- A colon in a run stands in front of a character that is no blank. -/
theorem not_endsWord (h : IsRun p (':' :: r)) (tail : List Char) :
    endsWord (r ++ tail) = false := by
  have hi := h.indicator
  simp only [indicator_shapeFrom_cons, isIndicator, Bool.or_eq_false_iff] at hi
  cases r with
  | nil => simp [endsAnyWord] at hi
  | cons d r =>
    have hd : isGap d = false ∧ isAnyBreak d = false := by simpa [endsAnyWord] using hi.2.1
    simp [endsWord, hd.1, isBreak_of_isAnyBreak hd.2]

/-- A hash in a run stands behind a character that is no blank. -/
theorem not_isGap (h : IsRun p ('#' :: r)) : isGap p = false := by
  have hi := h.indicator
  simp only [indicator_shapeFrom_cons, isIndicator, Bool.or_eq_false_iff] at hi
  have hp : isGap p = false ∧ isAnyBreak p = false := by simpa using hi.2.2
  exact hp.1

/-- No character of a run stops a scalar, not even a colon. -/
theorem not_stopsAt (h : IsRun p (c :: r)) (tail : List Char) :
    Plain.stopsAt false c (r ++ tail) = false := by
  by_cases hc : c = ':'
  · subst hc
    simp [Plain.stopsAt, h.not_endsWord tail]
  · simp [Plain.stopsAt, hc]

/-- Behind a gap neither a hash nor the margin stops a scalar. -/
theorem not_stopsAfterGap (h : IsRun p (c :: r)) {margin column : Nat} (hp : isGap p = true)
    (hc : 0 < column) (hm : margin ≤ column) (tail : List Char) :
    Plain.stopsAfterGap false margin column (c :: (r ++ tail)) = false := by
  have hhash : c ≠ '#' := by
    rintro rfl
    rw [h.not_isGap] at hp
    cases hp
  have hmargin : ¬ column < margin := by omega
  have hcolumn : column ≠ 0 := by omega
  simp [Plain.stopsAfterGap, hhash, hmargin, hcolumn]

end IsRun

namespace Plain

variable {margin line column : Nat}

/-- **A run is read to its end**, with the spaces in front of it, which stand behind a blank. -/
theorem readFrom_run {p : Char} {cs g : List Char} (h : IsRun p cs) (hm : margin ≤ column + 1)
    (hg : g ≠ [] → isGap p = true ∧ 0 < column ∧ margin ≤ column)
    (hl : cs.getLast? ≠ some ' ') (hn : cs = [] → g = []) (line : Nat) (tail : List Char) :
    readFrom false margin line column (.spaces g) (cs ++ tail) =
      (readFrom false margin line (column + cs.length) .none tail).map fun q =>
        (g.reverse ++ cs ++ q.1, q.2) := by
  induction cs generalizing p g column with
  | nil =>
    rw [hn rfl]
    simp [Gap.none]
  | cons c r ih =>
    have hr : r.getLast? ≠ some ' ' := by
      cases r with
      | nil => simp
      | cons d r => simpa using hl
    rw [List.cons_append, readFrom]
    by_cases hc : isGap c = true
    · -- a space joins the gap; more of the run follows, because no space ends it
      obtain rfl := eq_space_of_isGap h.printable hc
      have hne : r ≠ [] := by
        rintro rfl
        exact hl rfl
      rw [if_pos hc, if_neg (by simp [Gap.isBroken]), Gap.space, ih h.tail (by omega)
        (fun _ => ⟨hc, by omega, by omega⟩) hr (fun h0 => absurd h0 hne)]
      simp [Nat.add_assoc, Nat.add_comm 1]
    · -- nothing stops the scalar here, in the run or behind a gap
      have hs : stopsAt false c (r ++ tail) = false := h.not_stopsAt tail
      have hst : (Gap.isSome (.spaces g) && stopsAfterGap false margin column (c :: (r ++ tail))) =
          false := by
        by_cases hg0 : g = []
        · simp [hg0, Gap.isSome]
        · obtain ⟨hp, h0, hm'⟩ := hg hg0
          rw [h.not_stopsAfterGap hp h0 hm', Bool.and_false]
      have hr' : IsRun c r := h.tail
      rw [if_neg hc, if_neg (by simp [h.not_isBreak]), hst, if_neg (by simp),
        if_neg (by simp [isMisplacedColon]), hs, if_neg (by simp)]
      rw [show Gap.none = .spaces [] from rfl, ih hr' (by omega) (fun h0 => absurd rfl h0) hr
        (fun _ => rfl)]
      rw [Option.map_map, List.length_cons, Nat.add_right_comm, Nat.add_assoc column]
      congr 1
      funext q
      simp [Gap.text]

theorem readFrom_spaces (n : Nat) (first : Option Char) (breaks rest : List Char) :
    readFrom false margin line column (.broken first breaks) (indentation n ++ rest) =
      readFrom false margin line (column + n) (.broken first breaks) rest := by
  induction n generalizing column with
  | zero => rfl
  | succ n ih =>
    have hs : isGap ' ' = true := by decide
    rw [indentation_succ, List.cons_append, readFrom, if_pos hs, if_neg (by simp), Gap.space, ih]
    congr 1
    omega

/-- **A plain scalar ends in front of a line that stands no deeper**; its break is passed over. -/
theorem readFrom_line {depth : Nat} (hd : depth < margin) {rest : List Char}
    (hr : startsWord rest = true) :
    readFrom false margin line column .none ('\n' :: (indentation depth ++ rest)) =
      some ([], true, ⟨rest, line + 1, depth⟩) := by
  have hb : isBreak '\n' = true := by decide
  rw [readFrom, if_neg (by decide), if_pos hb, Gap.none, Gap.lineBreak, readFrom_spaces]
  cases rest with
  | nil => simp [readFrom, Gap.isBroken]
  | cons c r =>
    simp only [startsWord, Bool.and_eq_true, Bool.not_eq_true'] at hr
    simp [readFrom, hr, Gap.isSome, Gap.isBroken, stopsAfterGap, hd]

/-- A plain scalar ends in front of a colon that a blank follows. -/
theorem readFrom_colon {rest : List Char} (hr : endsWord rest = true) :
    readFrom false margin line column .none (':' :: rest) =
      some ([], false, ⟨':' :: rest, line, column⟩) := by
  have h1 : isGap ':' = false := by decide
  have h2 : isBreak ':' = false := by decide
  simp [readFrom, h1, h2, hr, Gap.none, Gap.isSome, Gap.isBroken, isMisplacedColon, stopsAt]

end Plain

/-! ## Plain texts -/

/-- **A text that may be written plain** and is not empty. -/
structure IsPlain (cs : List Char) : Prop where
  allowed : allowsPlain cs = true
  ne_nil : cs ≠ []

namespace IsPlain

variable {c : Char} {r cs : List Char}

theorem shape_eq_empty (h : IsPlain cs) : (shape cs).indicator = false ∧
    (shape cs).lineBreak = false ∧ (shape cs).special = false ∧ hasOpenEnd cs = false := by
  have ha := h.allowed
  simp only [allowsPlain, Bool.not_eq_true', Bool.or_eq_false_iff] at ha
  exact ⟨ha.1.1.1.1.1, ha.1.1.1.1.2, ha.1.1.1.2, ha.2⟩

theorem isRun (h : IsPlain cs) : IsRun 'a' cs := by
  obtain ⟨hi, hb, hs, -⟩ := h.shape_eq_empty
  obtain ⟨h1, h2, -, -⟩ := shape_eq_shapeFrom cs
  refine ⟨?_, h1 ▸ hb, h2 ▸ hs⟩
  cases cs with
  | nil => rfl
  | cons c r =>
    -- what starts a text is an indicator whenever it is one behind a letter
    simp only [shape, Bool.or_eq_false_iff, startsIndicator] at hi
    have hg : isGap 'a' = false := by decide
    have hk : isAnyBreak 'a' = false := by decide
    simp only [indicator_shapeFrom_cons, isIndicator, Bool.or_eq_false_iff]
    refine ⟨hi.1.1, ?_, by simp [hg, hk]⟩
    by_cases hc : c = ':'
    · simpa [hc] using hi.2.2
    · simp [hc]

theorem getLast?_ne (h : IsPlain cs) : cs.getLast? ≠ some ' ' := by
  intro hl
  have ho := h.shape_eq_empty.2.2.2
  simp [hasOpenEnd, hl] at ho

/-! ### Their first character -/

theorem not_startsIndicator (h : IsPlain (c :: r)) : startsIndicator c r = false := by
  have hi := h.shape_eq_empty.1
  simp only [shape, Bool.or_eq_false_iff] at hi
  exact hi.2

theorem not_isGap (h : IsPlain (c :: r)) : isGap c = false := by
  cases hg : isGap c with
  | false => rfl
  | true =>
    have hc := eq_space_of_isGap h.isRun.printable hg
    have ho := h.shape_eq_empty.2.2.2
    simp [hasOpenEnd, hc] at ho

/-- A dash, a colon or a question mark at the start stands in front of a character that is no
blank. -/
theorem not_endsWord (h : IsPlain (c :: r)) (hc : c = '-' ∨ c = '?' ∨ c = ':') (tail : List Char) :
    endsWord (r ++ tail) = false ∧ (r ++ tail).head?.any isGap = false := by
  have hi := h.not_startsIndicator
  simp only [startsIndicator, Bool.or_eq_false_iff] at hi
  have he : endsAnyWord r = false := by
    rcases hc with rfl | rfl | rfl <;> simpa using hi.2
  cases r with
  | nil => simp [endsAnyWord] at he
  | cons d r =>
    have hd : isGap d = false ∧ isAnyBreak d = false := by simpa [endsAnyWord] using he
    simp [endsWord, hd.1, isBreak_of_isAnyBreak hd.2]

/-- **A plain scalar may start with the first character of a plain text.** -/
theorem canStart (h : IsPlain (c :: r)) (tail : List Char) :
    Plain.canStart false c (r ++ tail) = true := by
  unfold Plain.canStart
  split_ifs with h1 h2
  · rw [(h.not_endsWord (.inl (by simpa using h1)) tail).2]
    rfl
  · have hc : c = '?' ∨ c = ':' := by simpa using h2
    simp [(h.not_endsWord (.inr hc) tail).1]
  · have hi := h.not_startsIndicator
    simp only [startsIndicator, Bool.or_eq_false_iff] at hi
    simp [Plain.isReserved, Plain.isFlowIndicator, hi, h.not_isGap, h.isRun.not_isBreak]

theorem startsWord (h : IsPlain (c :: r)) (tail : List Char) :
    startsWord (c :: r ++ tail) = true := by
  have hi := h.not_startsIndicator
  simp only [startsIndicator, Bool.or_eq_false_iff, beq_eq_false_iff_ne] at hi
  have hb := ne_of_isPrintable h.isRun.printable (by decide : isPrintable '\ufeff' = false)
  simp [Yaml.startsWord, h.not_isGap, h.isRun.not_isBreak, hi, hb]

theorem startsWord_append (h : IsPlain cs) (tail : List Char) :
    Yaml.startsWord (cs ++ tail) = true := by
  obtain ⟨c, r, rfl⟩ := List.exists_cons_of_ne_nil h.ne_nil
  exact h.startsWord tail

end IsPlain

/-! ## Reading -/

namespace Plain

variable {margin line column : Nat} {cs rest : List Char}

theorem readFrom_isPlain (h : IsPlain cs) (hm : margin ≤ column + 1) (tail : List Char) :
    readFrom false margin line column .none (cs ++ tail) =
      (readFrom false margin line (column + cs.length) .none tail).map fun q =>
        (cs ++ q.1, q.2) := by
  have hr := readFrom_run h.isRun hm (fun h0 => absurd rfl h0) h.getLast?_ne (fun _ => rfl) line
    tail
  simpa [Gap.none] using hr

/-- **A plain text is read back**, up to the next line. -/
theorem read?_line (h : IsPlain cs) (hm : margin ≤ column + 1) {depth : Nat} (hd : depth < margin)
    (hr : startsWord rest = true) :
    read? false margin ⟨cs ++ '\n' :: (indentation depth ++ rest), line, column⟩ =
      some (cs, true, ⟨rest, line + 1, depth⟩) := by
  simp [read?, readFrom_isPlain h hm, readFrom_line hd hr]

/-- **A plain text is read back** as a key, up to its colon. -/
theorem read?_key (h : IsPlain cs) (hm : margin ≤ column + 1) (hr : endsWord rest = true) :
    read? false margin ⟨cs ++ ':' :: rest, line, column⟩ =
      some (cs, false, ⟨':' :: rest, line, column + cs.length⟩) := by
  simp [read?, readFrom_isPlain h hm, readFrom_colon hr]

end Plain

end FunctionLoad.Yaml
