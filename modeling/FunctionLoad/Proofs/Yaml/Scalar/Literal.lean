import FunctionLoad.Yaml.Scalar.Block
import FunctionLoad.Proofs.Yaml.Shape
import Mathlib.Tactic.SplitIfs

/-!
# Literals that are read back

* `IsLines`: texts made of lines that are not empty, with the chomping that keeps their last breaks.
* **`exists_isLines`**: every text is made of breaks and of lines behind them.
* `literalHeader_eq`: a header tells the chomping of a text, and its depth where that is hidden.
* `Block.breaksFrom_line`, `Block.breaksFrom_end`: breaks in front of a line, and behind the last.
* **`Block.linesFrom_literalChars`**: the lines of a literal are read back.
* `Block.header?_literalHeader`: chomping and depth are read back.
* **`Block.read?_literal`**: a literal is read back.
-/

namespace FunctionLoad.Yaml

open FunctionLoad.Decimal

/-! ## Texts as lines -/

/-- The chomping that keeps all breaks at the end of a text. -/
def chompOf (cs : List Char) : Chomp :=
  match cs.reverse with
  | [] => .strip
  | [c] => if isAnyBreak c then .keep else .strip
  | c :: d :: _ => if !isAnyBreak c then .strip else if isAnyBreak d then .keep else .clip

/-- Characters of one line. -/
structure IsLine (word : List Char) : Prop where
  ne_nil : word ≠ []
  no_break : ∀ c ∈ word, isAnyBreak c = false

/-- **A text made of lines that are not empty**, and the chomping that keeps its last breaks. -/
inductive IsLines : Chomp → List Char → Prop
  | strip {word : List Char} : IsLine word → IsLines .strip word
  | clip {word : List Char} {b : Char} : IsLine word → isAnyBreak b = true →
    IsLines .clip (word ++ [b])
  | keep {word bs : List Char} {b : Char} : IsLine word → isAnyBreak b = true → bs ≠ [] →
    (∀ c ∈ bs, isAnyBreak c = true) → IsLines .keep (word ++ b :: bs)
  | more {chomp : Chomp} {word bs cs : List Char} {b : Char} : IsLine word → isAnyBreak b = true →
    (∀ c ∈ bs, isAnyBreak c = true) → IsLines chomp cs → IsLines chomp (word ++ b :: (bs ++ cs))

/-- What stands in front of a text that starts with no break does not change its chomping. -/
theorem chompOf_append (pre : List Char) {c : Char} (hc : isAnyBreak c = false) (r : List Char) :
    chompOf (pre ++ c :: r) = chompOf (c :: r) := by
  unfold chompOf
  rw [List.reverse_append]
  cases hr : (c :: r).reverse with
  | nil => simp at hr
  | cons x z =>
    cases z with
    | nil =>
      have hx : c :: r = [x] := by simpa using congrArg List.reverse hr
      obtain ⟨rfl, -⟩ := List.cons.inj hx
      rw [List.cons_append, List.nil_append]
      cases pre.reverse <;> simp [hc]
    | cons y z => rfl

theorem chompOf_breaks (pre : List Char) {bs : List Char} (h : ∀ c ∈ bs, isAnyBreak c = true)
    (hl : 2 ≤ bs.length) : chompOf (pre ++ bs) = .keep := by
  unfold chompOf
  have hr (c : Char) (hc : c ∈ bs.reverse) : isAnyBreak c = true := h c (List.mem_reverse.mp hc)
  rw [List.reverse_append]
  rw [← List.length_reverse] at hl
  match bs.reverse, hl, hr with
  | x :: y :: z, _, hr => simp [hr x, hr y]

theorem chompOf_eq_keep {bs : List Char} (hn : bs ≠ []) (h : ∀ c ∈ bs, isAnyBreak c = true) :
    chompOf bs = .keep := by
  match bs, hn, h with
  | [b], _, h => simp [chompOf, h b]
  | b :: d :: r, _, h => exact chompOf_breaks [] h (by simp)

theorem IsLine.singleton {c : Char} (h : isAnyBreak c = false) : IsLine [c] :=
  ⟨by simp, by simpa using h⟩

theorem IsLine.cons {c : Char} {word : List Char} (h : isAnyBreak c = false) (hw : IsLine word) :
    IsLine (c :: word) :=
  ⟨by simp, fun d hd => (List.mem_cons.mp hd).elim (fun he => he ▸ h) (hw.no_break d)⟩

namespace IsLines

variable {chomp : Chomp} {cs : List Char}

/-- One character more belongs to the first line. -/
theorem cons {c : Char} (hc : isAnyBreak c = false) (h : IsLines chomp cs) :
    IsLines chomp (c :: cs) := by
  cases h with
  | strip hw => exact .strip (hw.cons hc)
  | clip hw hb => exact .clip (hw.cons hc) hb
  | keep hw hb hn hs => exact .keep (hw.cons hc) hb hn hs
  | more hw hb hs hl => exact .more (hw.cons hc) hb hs hl

theorem exists_head (h : IsLines chomp cs) : ∃ c r, cs = c :: r ∧ isAnyBreak c = false := by
  have hline {word : List Char} (hw : IsLine word) (tail : List Char) :
      ∃ c r, word ++ tail = c :: r ∧ isAnyBreak c = false := by
    cases word with
    | nil => exact absurd rfl hw.ne_nil
    | cons c r => exact ⟨c, r ++ tail, rfl, hw.no_break c List.mem_cons_self⟩
  cases h with
  | strip hw => simpa using hline hw []
  | clip hw _ => exact hline hw _
  | keep hw _ _ _ => exact hline hw _
  | more hw _ _ _ => exact hline hw _

end IsLines

/-- A character in front of breaks and lines goes on with the first line, or starts one if there
are breaks in between. -/
theorem isLines_cons {c : Char} (hc : isAnyBreak c = false) {bs lines : List Char}
    (hbs : ∀ b ∈ bs, isAnyBreak b = true) (hl : lines = [] ∨ IsLines (chompOf lines) lines) :
    IsLines (chompOf (c :: (bs ++ lines))) (c :: (bs ++ lines)) := by
  have hline := IsLine.singleton hc
  rcases hl with rfl | hl
  · rw [List.append_nil]
    match bs, hbs with
    | [], _ => simpa [chompOf, hc] using IsLines.strip hline
    | [b], hbs =>
      have hb := hbs b List.mem_cons_self
      simpa [chompOf, hb, hc] using IsLines.clip hline hb
    | b :: d :: r, hbs =>
      have hk : chompOf ([c] ++ b :: d :: r) = .keep := chompOf_breaks [c] hbs (by simp)
      rw [List.singleton_append] at hk
      rw [hk]
      exact .keep hline (hbs b List.mem_cons_self) (List.cons_ne_nil d r)
        fun e he => hbs e (List.mem_cons_of_mem b he)
  · obtain ⟨d, r, rfl, hd⟩ := hl.exists_head
    have hk := chompOf_append (c :: bs) hd r
    rw [List.cons_append] at hk
    rw [hk]
    cases bs with
    | nil => exact hl.cons hc
    | cons b bs =>
      exact .more hline (hbs b List.mem_cons_self)
        (fun e he => hbs e (List.mem_cons_of_mem b he)) hl

/-- **Every text is made of breaks and of lines behind them.** -/
theorem exists_isLines (cs : List Char) : ∃ bs lines, cs = bs ++ lines ∧
    (∀ c ∈ bs, isAnyBreak c = true) ∧ (lines = [] ∨ IsLines (chompOf lines) lines) := by
  induction cs with
  | nil => exact ⟨[], [], rfl, by simp, .inl rfl⟩
  | cons c r ih =>
    obtain ⟨bs, lines, rfl, hbs, hl⟩ := ih
    cases hc : isAnyBreak c with
    | true => exact ⟨c :: bs, lines, rfl, by simpa [hc] using hbs, hl⟩
    | false => exact ⟨[], c :: (bs ++ lines), rfl, by simp, .inr (isLines_cons hc hbs hl)⟩

/-! ## Headers -/

/-- Whether the first line of a text does not show how deep it stands. -/
def hidesDepth (cs : List Char) : Bool :=
  cs.head?.any fun c => c == ' ' || isAnyBreak c

/-- What stands behind the bar for a chomping. -/
def Chomp.mark : Chomp → List Char
  | .strip => ['-']
  | .clip => []
  | .keep => ['+']

theorem literalHeader_eq (cs : List Char) :
    literalHeader cs = (if hidesDepth cs then ['2'] else []) ++ (chompOf cs).mark := by
  change (if hidesDepth cs then ['2'] else []) ++ _ = _
  congr 1
  unfold chompOf
  cases cs.reverse with
  | nil => rfl
  | cons c r =>
    cases r with
    | nil => cases h : isAnyBreak c <;> simp [Chomp.mark, h]
    | cons d r => cases h : isAnyBreak c <;> cases h' : isAnyBreak d <;> simp [Chomp.mark, h, h']

/-! ## Lines as they are written -/

section

variable (indent : Nat)

theorem literalChars_false {word : List Char} (hw : ∀ c ∈ word, isAnyBreak c = false)
    (r : List Char) :
    literalChars indent false (word ++ r) = word ++ literalChars indent false r := by
  induction word with
  | nil => rfl
  | cons c word ih =>
    have hc := hw c List.mem_cons_self
    rw [List.cons_append, literalChars, ih fun d hd => hw d (List.mem_cons_of_mem c hd)]
    simp [hc]

theorem literalChars_breaks {bs : List Char} (hb : ∀ c ∈ bs, isAnyBreak c = true) (r : List Char) :
    literalChars indent true (bs ++ r) = bs ++ literalChars indent true r := by
  induction bs with
  | nil => rfl
  | cons c bs ih =>
    have hc := hb c List.mem_cons_self
    rw [List.cons_append, literalChars, ih fun d hd => hb d (List.mem_cons_of_mem c hd)]
    simp [hc]

theorem literalChars_break {b : Char} (hb : isAnyBreak b = true) (ab : Bool) (r : List Char) :
    literalChars indent ab (b :: r) = b :: literalChars indent true r := by
  simp [literalChars, hb]

/-- Lines that start behind a break start with their indentation. -/
theorem IsLines.literalChars_true {chomp : Chomp} {cs : List Char} (h : IsLines chomp cs) :
    literalChars indent true cs = indentation indent ++ literalChars indent false cs := by
  obtain ⟨c, r, rfl, hc⟩ := h.exists_head
  simp [literalChars, hc]

theorem length_le_literalChars (ab : Bool) (cs : List Char) :
    cs.length ≤ (literalChars indent ab cs).length := by
  induction cs generalizing ab with
  | nil => simp
  | cons c r ih =>
    have h1 := ih true
    have h2 := ih false
    rw [literalChars]
    split_ifs <;> simp <;> omega

end

/-- The line feed behind a literal that ends with no break of its own. -/
def closing (cs : List Char) : List Char :=
  if cs.getLast?.any isBreak then [] else ['\n']

theorem closing_append (pre : List Char) {cs : List Char} (h : cs ≠ []) :
    closing (pre ++ cs) = closing cs := by
  rw [closing, closing, List.getLast?_append, List.getLast?_eq_some_getLast h, Option.some_or]

theorem closing_line {word : List Char} (hw : IsLine word) : closing word = ['\n'] := by
  have hl := hw.no_break _ (List.getLast_mem hw.ne_nil)
  simp [closing, List.getLast?_eq_some_getLast hw.ne_nil, isBreak_of_isAnyBreak hl]

theorem closing_breaks (pre : List Char) {bs : List Char} (hn : bs ≠ [])
    (hb : ∀ c ∈ bs, isBreak c = true) : closing (pre ++ bs) = [] := by
  have hl := hb _ (List.getLast_mem hn)
  simp [closing, List.getLast?_eq_some_getLast hn, hl]

/-! ## Lines as they are read -/

namespace Block

variable {line column indent depth : Nat} {rest : List Char}

theorem breaksFrom_indentation {indent : Option Nat} (n widest : Nat)
    (h : ∀ i ∈ indent, column + n ≤ i) (r : List Char) :
    breaksFrom indent line column widest (indentation n ++ r) =
      breaksFrom indent line (column + n) widest r := by
  induction n generalizing column with
  | zero => rfl
  | succ n ih =>
    have hc : indent.all (column < ·) = true := by
      cases indent with
      | none => rfl
      | some i =>
        have := h i rfl
        simp
        omega
    rw [indentation_succ, List.cons_append, breaksFrom, hc]
    simp only [beq_self_eq_true, Bool.and_self, if_true]
    rw [ih fun i hi => by have := h i hi; omega]
    congr 1
    omega

/-- The breaks behind a line come first, whatever follows them. -/
theorem breaksFrom_breaks {bs : List Char} (hb : ∀ c ∈ bs, isBreak c = true) (line widest : Nat)
    (r : List Char) : ∃ line' widest', breaksFrom (some indent) line 0 widest (bs ++ r) =
      (breaksFrom (some indent) line' 0 widest' r).map fun p => (bs ++ p.1, p.2) := by
  induction bs generalizing line widest with
  | nil => exact ⟨line, widest, by simp⟩
  | cons c bs ih =>
    have hc := hb c List.mem_cons_self
    obtain ⟨h1, h2⟩ := isGap_eq_false_iff.mp (isGap_of_isBreak hc)
    obtain ⟨l, w, h⟩ := ih (fun d hd => hb d (List.mem_cons_of_mem c hd)) (line + 1) widest
    refine ⟨l, w, ?_⟩
    rw [List.cons_append, breaksFrom]
    simp [h1, h2, hc, h, Function.comp_def]

/-- **Breaks in front of a line**, and the cursor behind the indentation of it. -/
theorem breaksFrom_line {bs : List Char} (hb : ∀ c ∈ bs, isBreak c = true) {c : Char}
    (hc : isBreak c = false) (indent line widest : Nat) (r : List Char) : ∃ line' widest',
      breaksFrom (some indent) line 0 widest (bs ++ (indentation indent ++ c :: r)) =
        some (bs, widest', ⟨c :: r, line', indent⟩) := by
  obtain ⟨l, w, h⟩ := breaksFrom_breaks hb line widest (indentation indent ++ c :: r)
  refine ⟨l, max w indent, ?_⟩
  rw [h, breaksFrom_indentation _ _ (by simp), breaksFrom]
  simp [hc]

/-- **Breaks behind the last line**, and the cursor behind the indentation of what follows. -/
theorem breaksFrom_end {bs : List Char} (hb : ∀ c ∈ bs, isBreak c = true) (hd : depth < indent)
    (hr : startsWord rest = true) (line widest : Nat) : ∃ line' widest',
      breaksFrom (some indent) line 0 widest (bs ++ (indentation depth ++ rest)) =
        some (bs, widest', ⟨rest, line', depth⟩) := by
  obtain ⟨l, w, h⟩ := breaksFrom_breaks hb line widest (indentation depth ++ rest)
  refine ⟨l, max w depth, ?_⟩
  rw [h, breaksFrom_indentation _ _ (by simp; omega), Nat.zero_add]
  cases rest with
  | nil => simp [breaksFrom]
  | cons c r =>
    simp only [startsWord, Bool.and_eq_true, Bool.not_eq_true'] at hr
    obtain ⟨⟨⟨hg, hb⟩, -⟩, -⟩ := hr
    obtain ⟨h1, h2⟩ := isGap_eq_false_iff.mp hg
    simp [breaksFrom, h1, h2, hb]

/-- Without a hint the indentation of the first line is that of all. -/
theorem breaksFrom_none {c : Char} (hg : isGap c = false) (hb : isBreak c = false) (n line : Nat)
    (r : List Char) : breaksFrom none line 0 0 (indentation n ++ c :: r) =
      some ([], n, ⟨c :: r, line, n⟩) := by
  obtain ⟨h1, h2⟩ := isGap_eq_false_iff.mp hg
  rw [breaksFrom_indentation _ _ (by simp), breaksFrom]
  simp [h1, h2, hb]

theorem linesFrom_end (hd : depth < indent) (chomp : Chomp) (fuel : Nat) (first more : List Char)
    (blank : Bool) : linesFrom false chomp indent (fuel + 1) first more blank ⟨rest, line, depth⟩ =
      some (Block.tail chomp first more, ⟨rest, line, depth⟩) := by
  have h : depth ≠ indent := by omega
  simp [linesFrom, h]

/-- One line, and the breaks behind it. -/
theorem linesFrom_line {word : List Char} (hw : IsLine word) {b : Char} (hb : isBreak b = true)
    {chomp : Chomp} {fuel : Nat} (first more : List Char) (blank : Bool)
    {after breaks text : List Char} {widest : Nat} {start last : Cursor}
    (hs : breaksFrom (some indent) (line + 1) 0 0 after = some (breaks, widest, start))
    (hl : ∀ blank, linesFrom false chomp indent fuel [b] breaks blank start = some (text, last)) :
    linesFrom false chomp indent (fuel + 1) first more blank ⟨word ++ b :: after, line, indent⟩ =
      some (first ++ more ++ word ++ text, last) := by
  have hnb : ∀ c ∈ word, (!isBreak c) = true := fun c hc => by
    simp [isBreak_of_isAnyBreak (hw.no_break c hc)]
  have ht : (word ++ b :: after).takeWhile (!isBreak ·) = word := by
    rw [List.takeWhile_append_of_pos hnb, List.takeWhile_cons_of_neg (by simp [hb]),
      List.append_nil]
  have hd : (word ++ b :: after).dropWhile (!isBreak ·) = b :: after := by
    rw [List.dropWhile_append_of_pos hnb, List.dropWhile_cons_of_neg (by simp [hb])]
  simp [linesFrom, Cursor.skipWhile, Cursor.nextLine, ht, hd, hw.ne_nil, breaks?, hs, hl, joint]

/-- The last line and the breaks behind it, of which its chomping keeps some. -/
theorem linesFrom_last {word bs : List Char} {b : Char} (hw : IsLine word) (hb : isBreak b = true)
    (hbs : ∀ c ∈ bs, isBreak c = true) (hd : depth < indent) (hr : startsWord rest = true)
    (chomp : Chomp) {fuel : Nat} (hf : 1 < fuel) (line : Nat) : ∃ line', ∀ first more blank,
      linesFrom false chomp indent fuel first more blank
        ⟨word ++ b :: (bs ++ (indentation depth ++ rest)), line, indent⟩ =
        some (first ++ more ++ word ++ Block.tail chomp [b] bs, ⟨rest, line', depth⟩) := by
  obtain ⟨fuel, rfl⟩ : ∃ n, fuel = n + 2 := ⟨fuel - 2, by omega⟩
  obtain ⟨l, w, hs⟩ := breaksFrom_end hbs hd hr (line + 1) 0
  exact ⟨l, fun first more blank => linesFrom_line hw hb first more blank hs fun blank =>
    linesFrom_end hd chomp fuel [b] bs blank⟩

/-- **The lines of a literal are read back**, with the breaks that its chomping keeps. -/
theorem linesFrom_literalChars {chomp : Chomp} {cs : List Char} (h : IsLines chomp cs)
    (hp : ∀ c ∈ cs, isPrintable c = true) {fuel : Nat} (hf : cs.length < fuel)
    (hd : depth < indent) (hr : startsWord rest = true) (line : Nat) :
    ∃ line', ∀ first more blank,
      linesFrom false chomp indent fuel first more blank
        ⟨literalChars indent false cs ++ (closing cs ++ (indentation depth ++ rest)), line,
          indent⟩ =
        some (first ++ more ++ cs, ⟨rest, line', depth⟩) := by
  have hbr {c : Char} (hc : isPrintable c = true) (hb : isAnyBreak c = true) : isBreak c = true :=
    (isBreak_eq_isAnyBreak hc).trans hb
  have hpos {word : List Char} (hw : IsLine word) : 0 < word.length :=
    List.length_pos_iff.mpr hw.ne_nil
  induction h generalizing line fuel with
  | @strip word hw =>
    have hf' : 1 < fuel := by have := hpos hw; omega
    have hb : isBreak '\n' = true := by decide
    obtain ⟨l, h⟩ := linesFrom_last hw hb (List.forall_mem_nil _) hd hr .strip hf' line
    refine ⟨l, fun first more blank => ?_⟩
    have hc := literalChars_false indent hw.no_break []
    rw [List.append_nil] at hc
    simpa [hc, literalChars, closing_line hw, Block.tail] using h first more blank
  | @clip word b hw hb =>
    have hb' := hbr (hp b (by simp)) hb
    have hf' : 1 < fuel := by have := hpos hw; simp at hf; omega
    obtain ⟨l, h⟩ := linesFrom_last hw hb' (List.forall_mem_nil _) hd hr .clip hf' line
    refine ⟨l, fun first more blank => ?_⟩
    rw [literalChars_false indent hw.no_break, literalChars_break indent hb,
      closing_breaks word (by simp) (by simpa using hb')]
    simpa [literalChars, Block.tail] using h first more blank
  | @keep word bs b hw hb hn hs =>
    have hb' := hbr (hp b (by simp)) hb
    have hs' (c : Char) (hc : c ∈ bs) : isBreak c = true := hbr (hp c (by simp [hc])) (hs c hc)
    have hf' : 1 < fuel := by have := hpos hw; simp at hf; omega
    obtain ⟨l, h⟩ := linesFrom_last hw hb' hs' hd hr .keep hf' line
    refine ⟨l, fun first more blank => ?_⟩
    have hbs := literalChars_breaks indent hs []
    rw [List.append_nil] at hbs
    rw [literalChars_false indent hw.no_break, literalChars_break indent hb, hbs,
      closing_breaks word (List.cons_ne_nil b bs) (by simpa using ⟨hb', hs'⟩)]
    simpa [literalChars, Block.tail] using h first more blank
  | @more chomp word bs cs b hw hb hs hl ih =>
    have hb' := hbr (hp b (by simp)) hb
    have hs' (c : Char) (hc : c ∈ bs) : isBreak c = true := hbr (hp c (by simp [hc])) (hs c hc)
    obtain ⟨fuel, rfl⟩ : ∃ n, fuel = n + 1 := ⟨fuel - 1, by omega⟩
    obtain ⟨c, r, hcr, hc⟩ := hl.exists_head
    obtain ⟨r', hr'⟩ : ∃ r', literalChars indent false cs = c :: r' :=
      ⟨literalChars indent false r, by rw [hcr, literalChars, hc]; rfl⟩
    obtain ⟨l, w, hs0⟩ := breaksFrom_line hs' (isBreak_of_isAnyBreak hc) indent (line + 1) 0
      (r' ++ (closing cs ++ (indentation depth ++ rest)))
    have hf' : cs.length < fuel := by have := hpos hw; simp at hf; omega
    -- the breaks behind this line are handed on, and come in front of what the other lines mean
    obtain ⟨l', hl'⟩ := ih (fun d hd => hp d (by simp [hd])) hf' l
    refine ⟨l', fun first more blank => ?_⟩
    have hcl : closing (word ++ b :: (bs ++ cs)) = closing cs := by
      rw [← closing_append (word ++ b :: bs) (show cs ≠ [] by simp [hcr])]
      simp
    rw [literalChars_false indent hw.no_break, literalChars_break indent hb,
      literalChars_breaks indent hs, hl.literalChars_true, hcl, hr']
    rw [hr'] at hl'
    simpa using linesFrom_line hw hb' first more blank hs0 fun blank => hl' [b] bs blank

/-! ## Reading -/

theorem header?_literalHeader (cs r : List Char) : header? (literalHeader cs ++ '\n' :: r) =
    some (chompOf cs, if hidesDepth cs then some 2 else none, '\n' :: r) := by
  have hn : isDigit '\n' = false := by decide
  have h2 : isDigit '2' = true := by decide
  rw [literalHeader_eq]
  cases hidesDepth cs <;> cases chompOf cs <;> simp [Chomp.mark, header?, chomp?, depth?, hn, h2]

theorem endLine?_lineFeed (r : List Char) (line column : Nat) :
    Cursor.endLine? ⟨'\n' :: r, line, column⟩ = some ⟨r, line + 1, 0⟩ := by
  have hg : isGap '\n' = false := by decide
  have hb : isBreak '\n' = true := by decide
  simp [Cursor.endLine?, Cursor.skipWhile, Cursor.skipComment, Cursor.nextLine, hg, hb]

/-- Behind its header a literal is made of breaks and of lines that all stand as deep. -/
theorem read?_eq {cs text bs : List Char} {block widest : Nat} {start : Cursor}
    (h : breaksFrom (if hidesDepth cs then some (block + 2) else none) (line + 1) 0 0 text =
      some (bs, widest, start))
    (hw : hidesDepth cs = false → widest = block + 2) :
    Block.read? false (block + 1) ⟨literalHeader cs ++ '\n' :: text, line, column⟩ =
      linesFrom false (chompOf cs) (block + 2) (start.rest.length + 1) [] bs false start := by
  unfold Block.read?
  simp only [header?_literalHeader, Option.bind_eq_bind, Option.bind_some, endLine?_lineFeed]
  cases hh : hidesDepth cs with
  | true =>
    rw [hh, if_pos rfl] at h
    simp [breaks?, Nat.add_comm 2, h]
  | false =>
    rw [hh, if_neg (by simp)] at h
    simp [breaks?, h, hw hh]

/-- The breaks in front of the first line are read whether or not the header tells how deep that
stands. -/
theorem breaksFrom_first {bs r : List Char} {c : Char}
    (hp : ∀ d ∈ bs ++ c :: r, isPrintable d = true) (hbs : ∀ b ∈ bs, isAnyBreak b = true)
    (hc : isAnyBreak c = false) (indent line : Nat) (text : List Char) : ∃ line' widest,
      breaksFrom (if hidesDepth (bs ++ c :: r) then some indent else none) line 0 0
        (bs ++ (indentation indent ++ c :: text)) = some (bs, widest, ⟨c :: text, line', indent⟩) ∧
      (hidesDepth (bs ++ c :: r) = false → widest = indent) := by
  have hs (b : Char) (hb : b ∈ bs) : isBreak b = true :=
    (isBreak_eq_isAnyBreak (hp b (by simp [hb]))).trans (hbs b hb)
  have hc' := isBreak_of_isAnyBreak hc
  cases hh : hidesDepth (bs ++ c :: r) with
  | true =>
    obtain ⟨l, w, h⟩ := breaksFrom_line hs hc' indent line 0 text
    exact ⟨l, w, h, by simp⟩
  | false =>
    cases bs with
    | cons b bs => simp [hidesDepth, hbs b] at hh
    | nil =>
      have hg : isGap c = false := by
        cases hg : isGap c with
        | false => rfl
        | true => simp [hidesDepth, eq_space_of_isGap (hp c (by simp)) hg] at hh
      exact ⟨line, indent, breaksFrom_none hg hc' _ _ _, fun _ => rfl⟩

/-- **A literal is read back**, and the cursor stands behind the next indentation, which is no
deeper than the block around it. -/
theorem read?_literal {cs : List Char} (hp : ∀ c ∈ cs, isPrintable c = true) (hn : cs ≠ [])
    {block : Nat} (hd : depth ≤ block) (hr : startsWord rest = true) (line column : Nat) :
    ∃ line', Block.read? false (block + 1)
      ⟨literalHeader cs ++ '\n' :: (literalChars (block + 2) true cs ++
        (closing cs ++ (indentation depth ++ rest))), line, column⟩ =
      some (cs, ⟨rest, line', depth⟩) := by
  obtain ⟨bs, lines, rfl, hbs, hl⟩ := exists_isLines cs
  have hd' : depth < block + 2 := by omega
  rw [literalChars_breaks _ hbs]
  rcases hl with rfl | hl
  · -- nothing but breaks, which are all kept
    rw [List.append_nil] at hn hp ⊢
    have hs (b : Char) (hb : b ∈ bs) : isBreak b = true :=
      (isBreak_eq_isAnyBreak (hp b hb)).trans (hbs b hb)
    have hh : hidesDepth bs = true := by
      obtain ⟨b, r, rfl⟩ := List.exists_cons_of_ne_nil hn
      simp [hidesDepth, hbs b]
    obtain ⟨l, w, h⟩ := breaksFrom_end hs hd' hr (line + 1) 0
    refine ⟨l, ?_⟩
    rw [show closing bs = [] from closing_breaks [] hn hs, literalChars, List.append_nil,
      List.nil_append, read?_eq (by rw [hh]; exact h) (by simp [hh]), linesFrom_end hd',
      chompOf_eq_keep hn hbs]
    rfl
  · obtain ⟨c, r, rfl, hc⟩ := hl.exists_head
    have hlen := length_le_literalChars (block + 2) false (c :: r)
    have ht : literalChars (block + 2) false (c :: r) = c :: literalChars (block + 2) false r := by
      simp [literalChars, hc]
    obtain ⟨l, w, h, hw⟩ := breaksFrom_first hp hbs hc (block + 2) (line + 1)
      (literalChars (block + 2) false r ++ (closing (c :: r) ++ (indentation depth ++ rest)))
    rw [← List.cons_append, ← ht] at h
    have hf : (c :: r).length < (literalChars (block + 2) false (c :: r) ++
        (closing (c :: r) ++ (indentation depth ++ rest))).length + 1 := by
      rw [List.length_append]
      omega
    obtain ⟨l', h'⟩ := linesFrom_literalChars hl (fun d hd => hp d (List.mem_append_right bs hd)) hf
      hd' hr l
    refine ⟨l', ?_⟩
    rw [hl.literalChars_true, closing_append bs (List.cons_ne_nil c r), List.append_assoc,
      List.append_assoc, read?_eq h hw, chompOf_append bs hc r]
    exact h' [] bs false

end Block

end FunctionLoad.Yaml
