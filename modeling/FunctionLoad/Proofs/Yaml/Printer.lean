import FunctionLoad.Proofs.Yaml.Scalar.Plain
import FunctionLoad.Proofs.Yaml.Scalar.Literal
import FunctionLoad.Proofs.Decimal
import Mathlib.Tactic.IntervalCases

/-!
# What the printer writes

* `IsKey`, `Tree.IsWritable`, `AreWritable`: trees whose mappings have members, with keys that can
  be written as they are.
* `isPlain_digits`: numbers are written plain.
* `Written`, **`Tree.written_text`**: how a scalar is written, and that every text is in a way that
  it allows.
* `AllPrintable`, **`allPrintable_membersChars`**: what is written holds nothing but printable
  characters.
-/

namespace FunctionLoad.Yaml

open FunctionLoad.Text FunctionLoad.Decimal

/-! ## Trees that can be written -/

/-- **A text that may be a key**: written plain, and not too long for the reader. -/
structure IsKey (key : String) : Prop extends IsPlain key.toList where
  length_le : key.toList.length ≤ 1024

mutual

/-- **A tree whose mappings all have members**, with keys that can be written. -/
def Tree.IsWritable : Tree → Prop
  | .text _ => True
  | .number _ => True
  | .mapping members => members ≠ [] ∧ AreWritable members

/-- Members with keys and values that can be written. -/
def AreWritable : List (String × Tree) → Prop
  | [] => True
  | (key, t) :: r => IsKey key ∧ t.IsWritable ∧ AreWritable r

end

/-! ## Numbers -/

theorem isPrintable_of_isDigit {c : Char} (h : isDigit c = true) : isPrintable c = true := by
  have hn := isDigit_iff.mp h
  simp [isPrintable]
  omega

theorem isAnyBreak_of_isDigit {c : Char} (h : isDigit c = true) : isAnyBreak c = false := by
  obtain ⟨n, hn, rfl⟩ := exists_hexDigit h
  interval_cases n <;> rfl

theorem startsIndicator_of_isDigit {c : Char} (h : isDigit c = true) (r : List Char) :
    startsIndicator c r = false := by
  obtain ⟨n, hn, rfl⟩ := exists_hexDigit h
  interval_cases n <;> rfl

/-- Digits rule no way of writing out. -/
theorem shapeFrom_digits (p : Char) {cs : List Char} (h : ∀ c ∈ cs, isDigit c = true) :
    shapeFrom p cs = {} := by
  induction cs generalizing p with
  | nil => rfl
  | cons c r ih =>
    have hc := h c List.mem_cons_self
    have h1 := ne_of_isDigit hc (by decide : isDigit ':' = false)
    have h2 := ne_of_isDigit hc (by decide : isDigit '#' = false)
    have h3 := ne_of_isDigit hc (by decide : isDigit ' ' = false)
    rw [shapeFrom, ih c fun d hd => h d (List.mem_cons_of_mem c hd)]
    simp [isIndicator, h1, h2, h3, isPrintable_of_isDigit hc, isAnyBreak_of_isDigit hc]

/-- **Numbers are written plain.** -/
theorem isPlain_digits (n : Nat) : IsPlain (digits n) := by
  refine ⟨?_, digits_ne_nil n⟩
  obtain ⟨c, r, hcr⟩ := List.exists_cons_of_ne_nil (digits_ne_nil n)
  have hd (d : Char) (h : d ∈ c :: r) : isDigit d = true := isDigit_of_mem_digits d (hcr ▸ h)
  have hc := hd c List.mem_cons_self
  have h1 := ne_of_isDigit hc (by decide : isDigit '-' = false)
  have h2 := ne_of_isDigit hc (by decide : isDigit '.' = false)
  have hend : hasOpenEnd (c :: r) = false := by
    have hopen (d : Char) (h : d ∈ c :: r) : (d == ' ' || isAnyBreak d) = false := by
      have hs := ne_of_isDigit (hd d h) (by decide : isDigit ' ' = false)
      simp [isAnyBreak_of_isDigit (hd d h), hs]
    have hlast := hopen _ (List.getLast_mem (List.cons_ne_nil c r))
    rw [hasOpenEnd, List.getLast?_eq_some_getLast (List.cons_ne_nil c r)]
    simpa using ⟨by simpa using hopen c List.mem_cons_self, by simpa using hlast⟩
  have hs : shape (c :: r) = {} := by
    rw [shape, shapeFrom_digits c fun d h => hd d (List.mem_cons_of_mem c h)]
    simp [startsIndicator_of_isDigit hc, isAnyBreak_of_isDigit hc, isPrintable_of_isDigit hc, h1,
      h2]
  rw [hcr, allowsPlain, hs, hend]
  rfl

/-! ## Scalars -/

/-- **How a scalar is written** behind a colon, with the end of its line. -/
inductive Written (depth : Nat) (cs : List Char) : Style → List Char → Prop
  | plain : IsPlain cs → Written depth cs .plain (' ' :: (cs ++ ['\n']))
  | single : allowsSingle cs = true → '\n' ∉ cs → Written depth cs .singleQuoted
      (' ' :: '\'' :: (singleChars (depth + 2) false cs ++ ['\'', '\n']))
  | double : Written depth cs .doubleQuoted (' ' :: '"' :: (cs.flatMap doubleChar ++ ['"', '\n']))
  | literal : (∀ c ∈ cs, isPrintable c = true) → cs ≠ [] → Written depth cs .literal
      (' ' :: '|' :: (literalHeader cs ++ '\n' :: (literalChars (depth + 2) true cs ++ closing cs)))

theorem endLine_concat (cs : List Char) {c : Char} (h : isBreak c = false) :
    endLine (cs ++ [c]) = cs ++ [c, '\n'] := by
  simp [endLine, h]

theorem IsPlain.endLine {cs : List Char} (h : IsPlain cs) :
    endLine (' ' :: cs) = ' ' :: (cs ++ ['\n']) := by
  have ho := h.shape_eq_empty.2.2.2
  have hl := List.getLast?_eq_some_getLast h.ne_nil
  simp only [hasOpenEnd, hl, Option.any_some, Bool.or_eq_false_iff] at ho
  simp [Yaml.endLine, List.getLast?_cons, hl, isBreak_of_isAnyBreak ho.2.2]

theorem getLast?_literalChars (indent : Nat) (ab : Bool) (cs : List Char) :
    (literalChars indent ab cs).getLast? = cs.getLast? := by
  induction cs generalizing ab with
  | nil => rfl
  | cons c r ih =>
    rw [literalChars]
    split_ifs <;> simp [List.getLast?_cons, ih]

/-- A literal ends its line just if its text does. -/
theorem endLine_literalChars (pre : List Char) (indent : Nat) {cs : List Char} (h : cs ≠ []) :
    endLine (pre ++ literalChars indent true cs) =
      pre ++ (literalChars indent true cs ++ closing cs) := by
  have hl : (pre ++ literalChars indent true cs).getLast? = cs.getLast? := by
    rw [List.getLast?_append, getLast?_literalChars, List.getLast?_eq_some_getLast h,
      Option.some_or]
  rw [endLine, closing, hl]
  split_ifs <;> simp

/-- **Every text is written in a way that it allows.** -/
theorem Tree.written_text (depth : Nat) (s : String) :
    Written depth s.toList (styleOf s) ((Tree.text s).chars depth) := by
  rw [Tree.chars, scalarChars]
  have hdouble := endLine_concat (' ' :: '"' :: s.toList.flatMap doubleChar)
    (by decide : isBreak '"' = false)
  -- the cases are those of `styleOf`, in its order
  by_cases hn : '\n' ∈ s.toList
  · have hne : s.toList ≠ [] := List.ne_nil_of_mem hn
    by_cases hl : allowsLiteral s.toList = true
    · rw [show styleOf s = .literal by simp only [styleOf, if_pos hn, if_pos hl]]
      have hs := hl
      simp only [allowsLiteral, Bool.not_eq_true', Bool.or_eq_false_iff] at hs
      have he := endLine_literalChars (' ' :: '|' :: (literalHeader s.toList ++ ['\n'])) (depth + 2)
        hne
      simp only [List.cons_append, List.append_assoc, List.nil_append] at he ⊢
      rw [he]
      exact .literal (isPrintable_of_special ((shape_eq_shapeFrom _).2.1 ▸ hs.1.1)) hne
    · rw [show styleOf s = .doubleQuoted by simp only [styleOf, if_pos hn, if_neg hl]]
      exact hdouble ▸ Written.double
  · by_cases hp : resolve s = .text ∧ !isZeroPadded s.toList ∧ allowsPlain s.toList
    · rw [show styleOf s = .plain by simp only [styleOf, if_neg hn, if_pos hp]]
      have hne : s.toList ≠ [] := by
        intro h0
        have h1 : s = "" := String.toList_inj.mp h0
        rw [h1] at hp
        exact absurd hp.1 (by decide)
      have hs : IsPlain s.toList := ⟨hp.2.2, hne⟩
      exact hs.endLine ▸ .plain hs
    · by_cases ha : allowsSingle s.toList = true
      · rw [show styleOf s = .singleQuoted by simp only [styleOf, if_neg hn, if_neg hp, if_pos ha]]
        have he := endLine_concat (' ' :: '\'' :: singleChars (depth + 2) false s.toList)
          (by decide : isBreak '\'' = false)
        exact he ▸ .single ha hn
      · rw [show styleOf s = .doubleQuoted by simp only [styleOf, if_neg hn, if_neg hp, if_neg ha]]
        exact hdouble ▸ Written.double

theorem Tree.written_number (depth n : Nat) :
    Written depth (digits n) .plain ((Tree.number n).chars depth) := by
  rw [Tree.chars]
  exact .plain (isPlain_digits n)

/-! ## Printable characters -/

/-- **A text of printable characters.** -/
def AllPrintable (cs : List Char) : Prop :=
  ∀ c ∈ cs, isPrintable c = true

namespace AllPrintable

variable {indent : Nat} {cs : List Char}

@[simp] theorem nil : AllPrintable [] := List.forall_mem_nil _

@[simp] theorem cons_iff {c : Char} :
    AllPrintable (c :: cs) ↔ isPrintable c = true ∧ AllPrintable cs :=
  List.forall_mem_cons

@[simp] theorem append_iff {ds : List Char} :
    AllPrintable (cs ++ ds) ↔ AllPrintable cs ∧ AllPrintable ds :=
  List.forall_mem_append

@[simp] theorem indentation (n : Nat) : AllPrintable (indentation n) := fun c hc => by
  rw [List.eq_of_mem_replicate hc]
  decide

theorem singleChars (h : AllPrintable cs) (ab : Bool) :
    AllPrintable (singleChars indent ab cs) := by
  have hq : isPrintable '\'' = true := by decide
  induction cs generalizing ab with
  | nil => cases ab <;> simp [Yaml.singleChars]
  | cons c r ih =>
    rw [cons_iff] at h
    rw [Yaml.singleChars]
    split_ifs <;> simp [hq, h.1, ih h.2]

theorem literalChars (h : AllPrintable cs) (ab : Bool) :
    AllPrintable (literalChars indent ab cs) := by
  induction cs generalizing ab with
  | nil => simp [Yaml.literalChars]
  | cons c r ih =>
    rw [cons_iff] at h
    rw [Yaml.literalChars]
    split_ifs <;> simp [h.1, ih h.2]

theorem isPrintable_hexDigitUpper : ∀ d < 16, isPrintable (hexDigitUpper d) = true := by decide

theorem capitalHex (width n : Nat) : AllPrintable (capitalHex width n) := by
  induction width generalizing n with
  | zero => simp [Yaml.capitalHex]
  | succ width ih =>
    have hd := isPrintable_hexDigitUpper (n % 16) (Nat.mod_lt _ (by decide))
    simp [Yaml.capitalHex, ih, hd]

theorem isPrintable_escapeLetter? {c d : Char} (h : escapeLetter? c = some d) :
    isPrintable d = true := by
  revert h
  fun_cases escapeLetter? c <;> intro h <;> cases h
  case case10 hq =>
    have hq : c = '"' ∨ c = '\\' := by simpa using hq
    rcases hq with rfl | rfl <;> decide
  all_goals decide

theorem escape (c : Char) : AllPrintable (escape c) := by
  have h1 : isPrintable '\\' = true := by decide
  have h2 : isPrintable 'x' = true := by decide
  have h3 : isPrintable 'u' = true := by decide
  have h4 : isPrintable 'U' = true := by decide
  unfold Yaml.escape
  cases h : escapeLetter? c with
  | some d => simp [h1, isPrintable_escapeLetter? h]
  | none =>
    dsimp only
    split_ifs <;> simp [h1, h2, h3, h4, capitalHex]

theorem doubleChars (cs : List Char) : AllPrintable (cs.flatMap doubleChar) := by
  induction cs with
  | nil => simp
  | cons c r ih =>
    rw [List.flatMap_cons, append_iff, doubleChar]
    refine ⟨?_, ih⟩
    split_ifs with h
    · exact escape c
    · simp only [Bool.not_eq_true, Bool.or_eq_false_iff, Bool.not_eq_false'] at h
      simpa using h.1.1.1

theorem literalHeader (cs : List Char) : AllPrintable (literalHeader cs) := by
  have h1 : isPrintable '2' = true := by decide
  have h2 : isPrintable '-' = true := by decide
  have h3 : isPrintable '+' = true := by decide
  rw [literalHeader_eq]
  cases hidesDepth cs <;> cases chompOf cs <;> simp [Chomp.mark, h1, h2, h3]

theorem closing (cs : List Char) : AllPrintable (closing cs) := by
  have h : isPrintable '\n' = true := by decide
  rw [Yaml.closing]
  split_ifs <;> simp [h]

end AllPrintable

theorem IsPlain.allPrintable {cs : List Char} (h : IsPlain cs) : AllPrintable cs :=
  isPrintable_of_special h.isRun.special

/-- A scalar holds nothing but printable characters. -/
theorem Written.allPrintable {depth : Nat} {cs text : List Char} {style : Style}
    (h : Written depth cs style text) : AllPrintable text := by
  have h1 : isPrintable ' ' = true := by decide
  have h2 : isPrintable '\n' = true := by decide
  have h3 : isPrintable '\'' = true := by decide
  have h4 : isPrintable '"' = true := by decide
  have h5 : isPrintable '|' = true := by decide
  cases h with
  | plain hp => simp [h1, h2, hp.allPrintable]
  | single ha hn =>
    simp only [allowsSingle, Bool.not_eq_true', Bool.or_eq_false_iff] at ha
    have hs := isPrintable_of_special ((shape_eq_shapeFrom cs).2.1 ▸ ha.1.1)
    simp [h1, h2, h3, AllPrintable.singleChars hs]
  | double => simp [h1, h2, h4, AllPrintable.doubleChars]
  | literal hp hn =>
    simp [h1, h2, h5, AllPrintable.literalHeader, AllPrintable.literalChars hp,
      AllPrintable.closing]

mutual

theorem Tree.allPrintable_chars (depth : Nat) (t : Tree) (h : t.IsWritable) :
    AllPrintable (t.chars depth) :=
  match t, h with
  | .text s, _ => (Tree.written_text depth s).allPrintable
  | .number n, _ => (Tree.written_number depth n).allPrintable
  | .mapping members, h => by
    have hb : isPrintable '\n' = true := by decide
    rw [Tree.chars, AllPrintable.cons_iff]
    exact ⟨hb, allPrintable_membersChars (depth + 2) members h.2⟩

theorem allPrintable_membersChars (depth : Nat) (members : List (String × Tree))
    (h : AreWritable members) : AllPrintable (membersChars depth members) :=
  match members, h with
  | [], _ => .nil
  | (key, t) :: r, h => by
    have hc : isPrintable ':' = true := by decide
    simp [membersChars, hc, h.1.allPrintable, Tree.allPrintable_chars depth t h.2.1,
      allPrintable_membersChars depth r h.2.2]

end

end FunctionLoad.Yaml
