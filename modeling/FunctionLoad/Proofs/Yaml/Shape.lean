import FunctionLoad.Yaml.Printer

/-!
# What the shape of a text says of its characters

* `isAllowed_of_isPrintable`, `isBreak_eq_isAnyBreak`: printable characters as the reader sees them.
* `shape_eq_shapeFrom`: the first character of a text counts as one behind a letter.
* **`isPrintable_of_special`**: a text without special characters is printable.
* `startsWord`: what may stand behind an indentation, where something else goes on.
-/

namespace FunctionLoad.Yaml

/-! ## Printable characters -/

theorem isAllowed_of_isPrintable {c : Char} (h : isPrintable c = true) : isAllowed c = true := by
  simp only [isPrintable, isAllowed, Bool.or_eq_true, Bool.and_eq_true, decide_eq_true_eq,
    beq_iff_eq] at h ⊢
  omega

theorem ne_of_isPrintable {c d : Char} (h : isPrintable c = true) (hd : isPrintable d = false) :
    c ≠ d := by
  rintro rfl
  rw [h] at hd
  cases hd

theorem isBreak_eq_isAnyBreak {c : Char} (h : isPrintable c = true) : isBreak c = isAnyBreak c := by
  have h1 := ne_of_isPrintable h (by decide : isPrintable '\r' = false)
  have h2 := ne_of_isPrintable h (by decide : isPrintable '\u0085' = false)
  rw [isAnyBreak, beq_false_of_ne h1, beq_false_of_ne h2, Bool.or_false, Bool.or_false]

theorem isBreak_of_isAnyBreak {c : Char} (h : isAnyBreak c = false) : isBreak c = false := by
  simp only [isAnyBreak, Bool.or_eq_false_iff] at h
  exact h.1.1

theorem isGap_eq_false_iff {c : Char} : isGap c = false ↔ c ≠ ' ' ∧ c ≠ '\t' := by
  simp [isGap]

theorem isGap_of_isBreak {c : Char} (h : isBreak c = true) : isGap c = false := by
  rw [isGap_eq_false_iff]
  constructor <;> rintro rfl <;> exact absurd h (by decide)

/-- A blank that is printable is a space. -/
theorem eq_space_of_isGap {c : Char} (hp : isPrintable c = true) (hg : isGap c = true) :
    c = ' ' := by
  have ht := ne_of_isPrintable hp (by decide : isPrintable '\t' = false)
  simpa [isGap, ht] using hg

/-! ## Shapes -/

section

variable (p c : Char) (r : List Char)

@[simp] theorem indicator_shapeFrom_cons : (shapeFrom p (c :: r)).indicator =
    ((shapeFrom c r).indicator || isIndicator p c r) := rfl

@[simp] theorem lineBreak_shapeFrom_cons : (shapeFrom p (c :: r)).lineBreak =
    ((shapeFrom c r).lineBreak || isAnyBreak c) := rfl

@[simp] theorem special_shapeFrom_cons : (shapeFrom p (c :: r)).special =
    ((shapeFrom c r).special || !isPrintable c) := rfl

@[simp] theorem breakSpace_shapeFrom_cons : (shapeFrom p (c :: r)).breakSpace =
    ((shapeFrom c r).breakSpace || (isAnyBreak p && c == ' ')) := rfl

@[simp] theorem spaceBreak_shapeFrom_cons : (shapeFrom p (c :: r)).spaceBreak =
    ((shapeFrom c r).spaceBreak || (p == ' ' && isAnyBreak c)) := rfl

end

/-- The first character of a text counts as one behind a letter. -/
theorem shape_eq_shapeFrom (cs : List Char) : (shape cs).lineBreak = (shapeFrom 'a' cs).lineBreak ∧
    (shape cs).special = (shapeFrom 'a' cs).special ∧
    (shape cs).breakSpace = (shapeFrom 'a' cs).breakSpace ∧
    (shape cs).spaceBreak = (shapeFrom 'a' cs).spaceBreak := by
  cases cs with
  | nil => exact ⟨rfl, rfl, rfl, rfl⟩
  | cons c r =>
    have hb : isAnyBreak 'a' = false := by decide
    simp [shape, hb]

/-- **A text without special characters is printable.** -/
theorem isPrintable_of_special {p : Char} {cs : List Char} (h : (shapeFrom p cs).special = false) :
    ∀ c ∈ cs, isPrintable c = true := by
  induction cs generalizing p with
  | nil => intro c hc; cases hc
  | cons d r ih =>
    simp only [special_shapeFrom_cons, Bool.or_eq_false_iff, Bool.not_eq_false'] at h
    intro c hc
    rcases List.mem_cons.mp hc with rfl | hc
    · exact h.2
    · exact ih h.1 c hc

/-! ## Where a line goes on -/

/-- What may stand behind an indentation: the end of the text, or a character that is no blank, no
break, no byte order mark and starts no comment. -/
def startsWord : List Char → Bool
  | [] => true
  | c :: _ => !isGap c && !isBreak c && c != '#' && c != '\ufeff'

theorem length_indentation (n : Nat) : (indentation n).length = n :=
  List.length_replicate

theorem indentation_succ (n : Nat) : indentation (n + 1) = ' ' :: indentation n := rfl

end FunctionLoad.Yaml
