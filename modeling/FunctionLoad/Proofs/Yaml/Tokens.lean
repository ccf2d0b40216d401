import FunctionLoad.Yaml.Token.Stream
import FunctionLoad.Proofs.Yaml.Printer
import FunctionLoad.Proofs.Yaml.Scalar.Quoted
import Mathlib.Logic.Relation

/-!
# Tokens of a tree that was written

* `Tree.tokens`: what a tree is read as, one token after the other.
* `Scan.skipFrom_word`, `Scan.skipFrom_line`: blanks in front of a word, on its line or in front of
  that.
* `Scan.openAt`: the blocks and tokens in front of a member, whose mapping may start with it.
* `Scan.Step`, `Scan.Steps`: fetches that each read something.
* `Scan.AtLine`: a scan in front of a word on a line of its own, behind the blocks that end there.
* **`Scan.AtLine.key`**, **`Scan.scalar`**: a key with its colon, and a scalar behind it.
* **`Scan.behind`**, **`Scan.members`**: a value, and the members of a mapping one after the other.
* **`Tokens.ofText_print`**: the tokens of a text that was written.
-/

namespace FunctionLoad.Yaml

open FunctionLoad.Decimal

/-! ## Trees as tokens -/

mutual

/-- **The tokens that a tree is read as.** -/
def Tree.tokens : Tree → List Token
  | .text s => [.scalar s.toList (styleOf s)]
  | .number n => [.scalar (digits n) .plain]
  | .mapping members => .blockMappingStart :: (membersTokens members ++ [.blockEnd])

/-- The tokens of members. -/
def membersTokens : List (String × Tree) → List Token
  | [] => []
  | (key, t) :: r =>
    .key :: .scalar key.toList .plain :: .value :: (t.tokens ++ membersTokens r)

end

namespace Scan

variable {rest : List Char} {depth : Nat}

/-! ## Blanks -/

theorem skipFrom_word (hr : startsWord rest = true) (n fuel : Nat) (allowed : Bool)
    (line column : Nat) :
    skipFrom false (fuel + 1) allowed ⟨indentation n ++ rest, line, column⟩ =
      (allowed, ⟨rest, line, column + n⟩) := by
  have hspace : ∀ c ∈ indentation n, (c == ' ' || (c == '\t' && (false || !allowed))) = true := by
    intro c hc
    simp [List.eq_of_mem_replicate hc]
  have hbom : ((indentation n ++ rest).head? == some '\ufeff') = false := by
    cases n with
    | zero => cases rest <;> simp_all [startsWord, indentation]
    | succ n => simp [indentation_succ]
  rw [skipFrom]
  simp only [hbom, Bool.and_false, Bool.false_eq_true, if_false, Cursor.skipWhile,
    List.takeWhile_append_of_pos hspace, List.dropWhile_append_of_pos hspace]
  cases rest with
  | nil => simp [Cursor.skipComment, length_indentation]
  | cons c r =>
    simp only [startsWord, Bool.and_eq_true, Bool.not_eq_true', bne_iff_ne] at hr
    obtain ⟨⟨⟨hg, hb⟩, hh⟩, -⟩ := hr
    obtain ⟨h1, h2⟩ := isGap_eq_false_iff.mp hg
    simp [Cursor.skipComment, length_indentation, h1, h2, hh, hb]

/-- Where a word stands nothing is skipped. -/
theorem skipFrom_self (hr : startsWord rest = true) (fuel : Nat) (allowed : Bool)
    (line column : Nat) :
    skipFrom false (fuel + 1) allowed ⟨rest, line, column⟩ = (allowed, ⟨rest, line, column⟩) :=
  skipFrom_word hr 0 fuel allowed line column

theorem skipFrom_line (hr : startsWord rest = true) (n fuel : Nat) (allowed : Bool)
    (line column : Nat) :
    skipFrom false (fuel + 2) allowed ⟨'\n' :: (indentation n ++ rest), line, column⟩ =
      (true, ⟨rest, line + 1, n⟩) := by
  have h1 : isBreak '\n' = true := by decide
  rw [skipFrom]
  simp [Cursor.skipWhile, Cursor.skipComment, Cursor.nextLine, h1, skipFrom_word hr]

/-! ## Blocks -/

/-- **The blocks and tokens in front of a member.** Its mapping starts with it, unless one is open
at its depth. -/
def openAt (depth : Nat) (blocks : List Nat × List Token) : List Nat × List Token :=
  if blocks.1.head? = some depth then blocks
  else (depth :: blocks.1, .blockMappingStart :: blocks.2)

/-- The innermost block that stays open stands left of the limit. -/
theorem closeFrom_head (limit : Nat) (indents : List Nat) (ts : List Token) :
    ∀ column ∈ (closeFrom limit indents ts).1.head?, column < limit := by
  induction indents generalizing ts with
  | nil => simp [closeFrom]
  | cons column r ih =>
    rw [closeFrom]
    split_ifs with h
    · exact ih _
    · simpa using h

theorem closeFrom_cons_of_lt {limit column : Nat} (h : column < limit) (indents : List Nat)
    (ts : List Token) : closeFrom limit (column :: indents) ts = (column :: indents, ts) := by
  rw [closeFrom, if_neg (by omega)]

/-- No block ends in front of what stands right of the innermost one. -/
theorem closeFrom_eq_self {limit : Nat} {indents : List Nat}
    (h : ∀ column ∈ indents.head?, column < limit) (ts : List Token) :
    closeFrom limit indents ts = (indents, ts) := by
  cases indents with
  | nil => rfl
  | cons column r => exact closeFrom_cons_of_lt (h column rfl) r ts

theorem margin_le {s : Scan} (h : ∀ column ∈ s.indents.head?, column < depth + 1) :
    s.margin ≤ depth + 1 := by
  unfold margin
  cases hs : s.indents with
  | nil => simp
  | cons column r =>
    have := h column (by simp [hs])
    simp
    omega

theorem openAt_self (indents : List Nat) (ts : List Token) :
    openAt depth (depth :: indents, ts) = (depth :: indents, ts) := by
  simp [openAt]

/-! ## Fetches -/

/-- **One fetch**, which reads something. -/
def Step (s t : Scan) : Prop :=
  s.ended = false ∧ s.fetch = some t ∧ t.cursor.rest.length < s.cursor.rest.length

/-- Some fetches, one after the other. -/
abbrev Steps : Scan → Scan → Prop := Relation.ReflTransGen Step

theorem dropStale_eq {cursor : Cursor} {start : Option Start}
    (h : refresh cursor start = some start) (ts : List Token) (a : Bool) (indents : List Nat) :
    dropStale ⟨cursor, ts, a, indents, start, [], false⟩ =
      some ⟨cursor, ts, a, indents, start, [], false⟩ := by
  simp [dropStale, h]

/-- A fetch of a word in block mappings, behind blanks and behind the blocks that end there. -/
theorem fetch_word {cursor : Cursor} {ts : List Token} {a allowed : Bool} {indents : List Nat}
    {start : Option Start} {c : Char} {r : List Char} {line column : Nat}
    (h : skipFrom false (cursor.rest.length + 1) a cursor = (allowed, ⟨c :: r, line, column⟩))
    (hs : refresh ⟨c :: r, line, column⟩ start = some start) :
    fetch ⟨cursor, ts, a, indents, start, [], false⟩ =
      (next c r ⟨⟨c :: r, line, column⟩, (closeFrom (column + 1) indents ts).2, allowed,
        (closeFrom (column + 1) indents ts).1, start, [], false⟩).bind dropStale := by
  simp [fetch, skipBlank, inFlow, h, dropStale_eq hs, closeBlocks]

/-- **A scan in front of a word on a line of its own**, behind the blocks that end there. -/
structure AtLine (depth : Nat) (rest : List Char) (blocks : List Nat × List Token) (s : Scan) :
    Prop where
  start : s.start = none
  outer : s.outer = []
  ended : s.ended = false
  skip : ∃ line, skipFrom false (s.cursor.rest.length + 1) s.keyAllowed s.cursor =
    (true, ⟨rest, line, depth⟩)
  length_le : rest.length ≤ s.cursor.rest.length
  close : closeFrom (depth + 1) s.indents s.tokens = blocks

theorem atLine_word (hr : startsWord rest = true) (depth line : Nat) (indents : List Nat)
    (ts : List Token) : AtLine depth rest (closeFrom (depth + 1) indents ts)
      ⟨⟨rest, line, depth⟩, ts, true, indents, none, [], false⟩ :=
  ⟨rfl, rfl, rfl, ⟨line, skipFrom_self hr _ _ _ _⟩, Nat.le_refl _, rfl⟩

theorem atLine_lineFeed (hr : startsWord rest = true) (depth line column : Nat) (a : Bool)
    (indents : List Nat) (ts : List Token) : AtLine depth rest (closeFrom (depth + 1) indents ts)
      ⟨⟨'\n' :: (indentation depth ++ rest), line, column⟩, ts, a, indents, none, [], false⟩ :=
  ⟨rfl, rfl, rfl, ⟨line + 1, skipFrom_line hr _ _ _ _ _⟩, by simp; omega, rfl⟩

/-! ## Keys -/

/-- No marker between documents starts with a plain text, whatever ends that. -/
theorem atMarker_append {cs : List Char} (h : IsPlain cs) {d : Char} (h1 : d ≠ '-') (h2 : d ≠ '.')
    (tail : List Char) : atMarker (cs ++ d :: tail) = false := by
  match cs, h.ne_nil, h.shape_eq_empty.1 with
  | [a], _, _ =>
    unfold atMarker
    split <;> simp_all
  | [a, b], _, _ =>
    unfold atMarker
    split <;> simp_all
  | a :: b :: c :: r, _, hi =>
    simp only [shape, Bool.or_eq_false_iff] at hi
    unfold atMarker
    split <;> simp_all

/-- **A plain text is taken for a plain scalar.** -/
theorem next_plain {c : Char} {r : List Char} (h : IsPlain (c :: r)) {s : Scan} (tail : List Char)
    (ho : s.outer = []) (hm : s.cursor.column = 0 → atMarker (c :: (r ++ tail)) = false) :
    s.next c (r ++ tail) = s.plain := by
  have hi := h.not_startsIndicator
  simp only [startsIndicator, Bool.or_eq_false_iff, beq_eq_false_iff_ne] at hi
  have he (hc : c = '-' ∨ c = '?' ∨ c = ':') : endsWord (r ++ tail) = false :=
    (h.not_endsWord hc tail).1
  have hdash : (c == '-' && endsWord (r ++ tail)) = false := by
    by_cases hc : c = '-' <;> simp [hc, he]
  have hquestion : (c == '?' && endsWord (r ++ tail)) = false := by
    by_cases hc : c = '?' <;> simp [hc, he]
  have hcolon : (c == ':' && endsWord (r ++ tail)) = false := by
    by_cases hc : c = ':' <;> simp [hc, he]
  have hmark : (s.cursor.column == 0 && atMarker (c :: (r ++ tail))) = false := by
    by_cases hc : s.cursor.column = 0 <;> simp [hc, hm]
  unfold next
  simp [inFlow, ho, hi, hdash, hquestion, hcolon, hmark, h.canStart tail]

/-- Where the key of a member starts, behind given blocks and tokens. -/
def keyStart (depth line : Nat) (indents : List Nat) (ts : List Token) : Start :=
  ⟨ts.length, indents.head? == some depth, line, depth⟩

/-- A key that is not too long may still end on its line. -/
theorem refresh_keyStart {n : Nat} (hn : n ≤ 1024) (line : Nat) (indents : List Nat)
    (ts : List Token) (r : List Char) :
    refresh ⟨r, line, depth + n⟩ (some (keyStart depth line indents ts)) =
      some (some (keyStart depth line indents ts)) := by
  have hs : isStale ⟨r, line, depth + n⟩ (keyStart depth line indents ts) = false := by
    simp [isStale, keyStart, maxKeyLength]
    omega
  simp [refresh, hs]

section

variable {indents : List Nat} {key after : List Char}

/-- A plain scalar in front of a colon may be a key, because it starts on a line of its own. -/
theorem plain_key (h : ∀ column ∈ indents.head?, column < depth + 1) (hk : IsPlain key)
    (ha : endsWord after = true) (ts : List Token) (line : Nat) :
    plain ⟨⟨key ++ ':' :: after, line, depth⟩, ts, true, indents, none, [], false⟩ =
      some ⟨⟨':' :: after, line, depth + key.length⟩, .scalar key .plain :: ts, false, indents,
        some (keyStart depth line indents ts), [], false⟩ := by
  have hm (start : Option Start) : margin ⟨⟨key ++ ':' :: after, line, depth⟩, ts, true, indents,
      start, [], false⟩ ≤ depth + 1 := margin_le h
  simp [plain, markStart, dropStart, inFlow, emit, keyStart, Plain.read?_key hk (hm _) ha]

theorem fetch_key (hk : IsPlain key) (hn : key.length ≤ 1024) (ha : endsWord after = true)
    {cursor : Cursor} {ts ts' : List Token} {a : Bool} {indents' : List Nat} {line : Nat}
    (hskip : skipFrom false (cursor.rest.length + 1) a cursor =
      (true, ⟨key ++ ':' :: after, line, depth⟩))
    (hclose : closeFrom (depth + 1) indents ts = (indents', ts')) :
    fetch ⟨cursor, ts, a, indents, none, [], false⟩ =
      some ⟨⟨':' :: after, line, depth + key.length⟩, .scalar key .plain :: ts', false, indents',
        some (keyStart depth line indents' ts'), [], false⟩ := by
  have hhead : ∀ column ∈ indents'.head?, column < depth + 1 := by
    have := closeFrom_head (depth + 1) indents ts
    rwa [hclose] at this
  have hmark := atMarker_append hk (by decide : ':' ≠ '-') (by decide) after
  obtain ⟨c, r, rfl⟩ := List.exists_cons_of_ne_nil hk.ne_nil
  have hplain := (next_plain hk (':' :: after) rfl fun _ => hmark).trans
    (plain_key hhead hk ha ts' line)
  rw [List.cons_append] at hskip hplain
  rw [fetch_word hskip rfl, hclose, hplain, Option.bind_some,
    dropStale_eq (refresh_keyStart hn line indents' ts' _)]

theorem next_colon {s : Scan} (ho : s.outer = []) (hc : s.cursor.column ≠ 0)
    (ha : endsWord after = true) : s.next ':' after = s.value := by
  simp [next, inFlow, ho, hc, ha]

/-- The colon behind a key announces the key, and its mapping where that starts with it. -/
theorem value_key (h : ∀ column ∈ indents.head?, column < depth + 1) (ts : List Token)
    (line column : Nat) :
    value ⟨⟨':' :: after, line, column⟩, .scalar key .plain :: ts, false, indents,
        some (keyStart depth line indents ts), [], false⟩ =
      some ⟨⟨after, line, column + 1⟩,
        .value :: .scalar key .plain :: .key :: (openAt depth (indents, ts)).2, false,
        (openAt depth (indents, ts)).1, none, [], false⟩ := by
  have hstart : (Token.scalar key .plain :: .key :: ts).insertIdx (ts.length + 2 - ts.length)
      .blockMappingStart = .scalar key .plain :: .key :: .blockMappingStart :: ts := by
    simp
  cases indents with
  | nil =>
    simp [value, keyStart, insert, openBlock, inFlow, margin, take, Cursor.skip, openAt, hstart]
  | cons i r =>
    have hi := h i rfl
    by_cases hd : i = depth
    · subst hd
      simp [value, keyStart, insert, openBlock, inFlow, margin, take, Cursor.skip, openAt]
    · have hm : ¬ depth < i + 1 := by omega
      simp [value, keyStart, insert, openBlock, inFlow, margin, take, Cursor.skip, openAt, hstart,
        hd, hm]

theorem fetch_colon (h : ∀ column ∈ indents.head?, column < depth + 1) (hk : key ≠ [])
    (hn : key.length ≤ 1024) (ha : endsWord after = true) (ts : List Token) (line : Nat) :
    fetch ⟨⟨':' :: after, line, depth + key.length⟩, .scalar key .plain :: ts, false, indents,
        some (keyStart depth line indents ts), [], false⟩ =
      some ⟨⟨after, line, depth + key.length + 1⟩,
        .value :: .scalar key .plain :: .key :: (openAt depth (indents, ts)).2, false,
        (openAt depth (indents, ts)).1, none, [], false⟩ := by
  have hpos := List.length_pos_iff.mpr hk
  have hs : startsWord (':' :: after) = true := rfl
  have hword := skipFrom_self hs (':' :: after).length false line (depth + key.length)
  have hright : ∀ column ∈ indents.head?, column < depth + key.length + 1 :=
    fun column hc => by have := h column hc; omega
  rw [fetch_word hword (refresh_keyStart hn line indents ts _), closeFrom_eq_self hright,
    next_colon rfl (Nat.ne_of_gt (by dsimp only; omega)) ha, value_key h]
  rfl

end

/-- **A key is read with its colon.** -/
theorem AtLine.key {key : String} (hk : IsKey key) {after : List Char} (ha : endsWord after = true)
    {blocks : List Nat × List Token} {s : Scan}
    (h : AtLine depth (key.toList ++ ':' :: after) blocks s) {indents : List Nat} {ts : List Token}
    (ho : openAt depth blocks = (depth :: indents, ts)) : ∃ line column, depth < column ∧
      Steps s ⟨⟨after, line, column⟩, .value :: .scalar key.toList .plain :: .key :: ts, false,
        depth :: indents, none, [], false⟩ := by
  obtain ⟨cursor, ts0, a, indents0, start, outer, ended⟩ := s
  obtain ⟨rfl, rfl, rfl, ⟨line, hskip⟩, hlen, hclose⟩ := h
  obtain ⟨indents1, ts1⟩ := blocks
  have hhead : ∀ column ∈ indents1.head?, column < depth + 1 := by
    have := closeFrom_head (depth + 1) indents0 ts0
    rwa [hclose] at this
  have h1 := fetch_key hk.toIsPlain hk.length_le ha hskip hclose
  have h2 := fetch_colon hhead hk.ne_nil hk.length_le ha ts1 line
  rw [ho] at h2
  refine ⟨line, depth + key.toList.length + 1, by omega, ?_⟩
  refine Relation.ReflTransGen.head ⟨rfl, h1, ?_⟩ (Relation.ReflTransGen.single ⟨rfl, h2, ?_⟩)
  · have hpos := List.length_pos_iff.mpr hk.ne_nil
    rw [List.length_append] at hlen
    dsimp only at hlen ⊢
    omega
  · simp

/-! ## Scalars -/

section

variable {next : Nat} {cs : List Char} {line column : Nat}

/-- What stands behind a colon, on the same line, is fetched without ending a block. -/
theorem step_behind {c : Char} {r : List Char} {cursor : Cursor} {a : Bool} {indents : List Nat}
    {ts ts' : List Token} (hs : startsWord (c :: r) = true) (hc : depth < column)
    (hn : Scan.next c r ⟨⟨c :: r, line, column + 1⟩, ts, false, depth :: indents, none, [], false⟩ =
      some ⟨cursor, ts', a, depth :: indents, none, [], false⟩)
    (hl : cursor.rest.length ≤ r.length) :
    Step ⟨⟨' ' :: c :: r, line, column⟩, ts, false, depth :: indents, none, [], false⟩
      ⟨cursor, ts', a, depth :: indents, none, [], false⟩ := by
  have hskip : skipFrom false ((' ' :: c :: r).length + 1) false ⟨' ' :: c :: r, line, column⟩ =
      (false, ⟨c :: r, line, column + 1⟩) := skipFrom_word hs 1 _ _ _ _
  refine ⟨rfl, ?_, by simp; omega⟩
  rw [fetch_word hskip rfl, closeFrom_cons_of_lt (by omega), hn]
  rfl

theorem plain_line (hp : IsPlain cs) (hd : next ≤ depth) (hr : startsWord rest = true)
    (line : Nat) (hc : depth < column) (indents : List Nat) (ts : List Token) :
    plain ⟨⟨cs ++ '\n' :: (indentation next ++ rest), line, column⟩, ts, false, depth :: indents,
        none, [], false⟩ =
      some ⟨⟨rest, line + 1, next⟩, .scalar cs .plain :: ts, true, depth :: indents, none, [],
        false⟩ := by
  have h : Plain.read? false (depth + 1) ⟨cs ++ '\n' :: (indentation next ++ rest), line, column⟩ =
      some (cs, true, ⟨rest, line + 1, next⟩) :=
    Plain.read?_line hp (by omega) (Nat.lt_succ_of_le hd) hr
  simp [plain, markStart, inFlow, margin, emit, h]

/-- **A scalar behind a colon is read**, up to the next line, which stands no deeper. -/
theorem scalar {text : List Char} {style : Style} (hw : Written depth cs style text)
    (hd : next ≤ depth) (hr : startsWord rest = true) (line : Nat) {column : Nat}
    (hc : depth < column) (indents : List Nat) (ts : List Token) : ∃ s,
      Step ⟨⟨text ++ (indentation next ++ rest), line, column⟩, ts, false, depth :: indents, none,
        [], false⟩ s ∧
      AtLine next rest (closeFrom (next + 1) (depth :: indents) (.scalar cs style :: ts)) s := by
  have hpos : 0 < column + 1 + 1 := by omega
  cases hw with
  | plain hp =>
    have hplain := plain_line hp hd hr line (show depth < column + 1 by omega) indents ts
    obtain ⟨c, r, rfl⟩ := List.exists_cons_of_ne_nil hp.ne_nil
    have hnext := (next_plain hp ('\n' :: (indentation next ++ rest)) rfl (by simp)).trans hplain
    refine ⟨_, ?_, atLine_word hr next (line + 1) (depth :: indents) _⟩
    simpa using step_behind (hp.startsWord _) hc hnext (by simp; omega)
  | single ha hn =>
    obtain ⟨l, k, h⟩ := Quoted.single?_singleChars (by omega : 0 < depth + 2) hpos
      (by simp : ('\n' :: (indentation next ++ rest)).head? ≠ some '\'') ha hn line
    refine ⟨_, ?_, atLine_lineFeed hr next l k false (depth :: indents) _⟩
    simpa using step_behind rfl hc
      (by simp [Scan.next, inFlow, content, markStart, Cursor.skip, h, emit]) (by simp; omega)
  | double =>
    obtain ⟨k, h⟩ := Quoted.double?_doubleChars hpos cs ('\n' :: (indentation next ++ rest)) line
    refine ⟨_, ?_, atLine_lineFeed hr next line k false (depth :: indents) _⟩
    simpa using step_behind rfl hc
      (by simp [Scan.next, inFlow, content, markStart, Cursor.skip, h, emit]) (by simp; omega)
  | literal hp hn =>
    obtain ⟨l, h⟩ := Block.read?_literal hp hn hd hr line (column + 1 + 1)
    have hf : (Style.literal == Style.folded) = false := rfl
    refine ⟨_, ?_, atLine_word hr next l (depth :: indents) _⟩
    simpa using step_behind rfl hc
      (by simp [Scan.next, inFlow, blockScalar, dropStart, margin, Cursor.skip, hf, h, emit])
      (by simp; omega)

end

/-! ## Mappings -/

theorem endsWord_written {depth : Nat} {cs text : List Char} {style : Style}
    (h : Written depth cs style text) (tail : List Char) : endsWord (text ++ tail) = true := by
  cases h <;> rfl

theorem endsWord_chars (depth : Nat) (t : Tree) (tail : List Char) :
    endsWord (t.chars depth ++ tail) = true := by
  cases t with
  | text s => exact endsWord_written (Tree.written_text depth s) tail
  | number n => rfl
  | mapping members => rfl

mutual

/-- **A value behind a colon is read**, up to the next member, which stands no deeper. -/
theorem behind (t : Tree) (ht : t.IsWritable) (depth : Nat) {next : Nat} {rest : List Char}
    (hd : next ≤ depth) (hr : startsWord rest = true) (line : Nat) {column : Nat}
    (hc : depth < column) (indents : List Nat) (ts : List Token) : ∃ s,
      Steps ⟨⟨t.chars depth ++ (indentation next ++ rest), line, column⟩, ts, false,
        depth :: indents, none, [], false⟩ s ∧
      AtLine next rest (closeFrom (next + 1) (depth :: indents) (t.tokens.reverse ++ ts)) s :=
  match t, ht with
  | .text s, _ => by
    obtain ⟨s', h, hl⟩ := scalar (Tree.written_text depth s) hd hr line hc indents ts
    exact ⟨s', .single h, hl⟩
  | .number n, _ => by
    obtain ⟨s', h, hl⟩ := scalar (Tree.written_number depth n) hd hr line hc indents ts
    exact ⟨s', .single h, hl⟩
  | .mapping ((key, v) :: r), ht => by
    have hkey : startsWord (key.toList ++ ':' :: (v.chars (depth + 2) ++
        (membersChars (depth + 2) r ++ (indentation next ++ rest)))) = true :=
      ht.2.1.startsWord_append _
    -- its first key stands on the next line, and no block ends in front of that
    have hline := atLine_lineFeed hkey (depth + 2) line column false (depth :: indents) ts
    rw [closeFrom_cons_of_lt (by omega)] at hline
    have ho : openAt (depth + 2) (depth :: indents, ts) =
        ((depth + 2) :: depth :: indents, .blockMappingStart :: ts) := by
      simp [openAt]
    obtain ⟨s', h, hl⟩ := members key v r ht.2 (depth + 2) (Nat.le_add_right_of_le hd) hr hline ho
    rw [closeFrom, if_pos (by omega)] at hl
    refine ⟨s', ?_, ?_⟩
    · simpa [Tree.chars, membersChars] using h
    · simpa [Tree.tokens] using hl
  | .mapping [], ht => absurd rfl ht.1
termination_by sizeOf t

/-- **Members are read one after the other**, up to what follows their mapping. -/
theorem members (key : String) (t : Tree) (r : List (String × Tree))
    (hw : AreWritable ((key, t) :: r)) (depth : Nat) {next : Nat} {rest : List Char}
    (hd : next ≤ depth) (hr : startsWord rest = true) {blocks : List Nat × List Token} {s : Scan}
    (h : AtLine depth
      (key.toList ++ ':' :: (t.chars depth ++ (membersChars depth r ++ (indentation next ++ rest))))
      blocks s) {indents : List Nat} {ts : List Token}
    (ho : openAt depth blocks = (depth :: indents, ts)) : ∃ s', Steps s s' ∧
      AtLine next rest (closeFrom (next + 1) (depth :: indents)
        ((membersTokens ((key, t) :: r)).reverse ++ ts)) s' := by
  obtain ⟨line, column, hc, hkey⟩ := h.key hw.1 (endsWord_chars depth t _) ho
  match r, hw.2.2 with
  | [], _ =>
    obtain ⟨s', hv, hl⟩ := behind t hw.2.1 depth hd hr line hc indents
      (.value :: .scalar key.toList .plain :: .key :: ts)
    refine ⟨s', hkey.trans hv, ?_⟩
    simpa [membersTokens] using hl
  | (key', t') :: r', hw' =>
    have hnext := hw'.1.startsWord_append (':' :: (t'.chars depth ++
      (membersChars depth r' ++ (indentation next ++ rest))))
    obtain ⟨s1, hv, hl⟩ := behind t hw.2.1 depth (Nat.le_refl depth) hnext line hc indents
      (.value :: .scalar key.toList .plain :: .key :: ts)
    rw [closeFrom_cons_of_lt (by omega)] at hl
    obtain ⟨s2, hm, hl'⟩ := members key' t' r' hw' depth hd hr hl (openAt_self _ _)
    refine ⟨s2, (hkey.trans ?_).trans hm, ?_⟩
    · simpa [membersChars] using hv
    · simpa [membersTokens] using hl'
termination_by 1 + sizeOf t + sizeOf r

end

/-! ## Whole texts -/

/-- The end of a text ends all blocks. -/
theorem AtLine.fetch_end {blocks : List Nat × List Token} {s : Scan} (h : AtLine 0 [] blocks s) :
    ∃ line, s.fetch = some ⟨⟨[], line, 0⟩, .streamEnd :: (closeFrom 0 blocks.1 blocks.2).2, false,
      (closeFrom 0 blocks.1 blocks.2).1, none, [], true⟩ := by
  obtain ⟨cursor, ts, a, indents, start, outer, ended⟩ := s
  obtain ⟨rfl, rfl, rfl, ⟨line, hskip⟩, -, rfl⟩ := h
  refine ⟨line, ?_⟩
  dsimp only at hskip
  simp [fetch, skipBlank, inFlow, hskip, dropStale, refresh, closeBlocks, finish, dropStart, emit]

end Scan

namespace Tokens

/-- Fetches that each read something take no more fuel than there is text. -/
theorem ofScan_steps {s t : Scan} (h : Scan.Steps s t) (k fuel : Nat)
    (hf : s.cursor.rest.length + k ≤ fuel) : ∃ fuel', t.cursor.rest.length + k ≤ fuel' ∧
      ofScan fuel s = ofScan fuel' t := by
  induction h using Relation.ReflTransGen.head_induction_on generalizing fuel with
  | refl => exact ⟨fuel, hf, rfl⟩
  | head hstep _ ih =>
    obtain ⟨hended, hfetch, hlen⟩ := hstep
    obtain ⟨fuel, rfl⟩ : ∃ n, fuel = n + 1 := ⟨fuel - 1, by omega⟩
    obtain ⟨fuel', hf', he⟩ := ih fuel (by omega)
    refine ⟨fuel', hf', ?_⟩
    rw [ofScan, hended, hfetch, ← he]
    rfl

/-- **The tokens of a text that was written** are those of its tree. -/
theorem ofText_print {members : List (String × Tree)} (h : (Tree.mapping members).IsWritable) :
    Tokens.ofText (print members) = ⟨(Tree.mapping members).tokens ++ [.streamEnd], true⟩ := by
  have hp := allPrintable_membersChars 0 members h.2
  have hlines : lines (membersChars 0 members) = membersChars 0 members :=
    lines_eq_self _ fun c hc => ⟨ne_of_isPrintable (hp c hc) (by decide),
      ne_of_isPrintable (hp c hc) (by decide)⟩
  have hallowed : (membersChars 0 members).all isAllowed = true :=
    List.all_eq_true.mpr fun c hc => isAllowed_of_isPrintable (hp c hc)
  rw [Tokens.ofText, print, String.toList_ofList, if_pos hallowed, hlines]
  obtain ⟨⟨key, t⟩, r, rfl⟩ := List.exists_cons_of_ne_nil h.1
  have hfirst := Scan.atLine_word (h.2.1.startsWord_append (':' :: (t.chars 0 ++
    (membersChars 0 r ++ (indentation 0 ++ []))))) 0 0 [] []
  obtain ⟨s, hsteps, hlast⟩ := Scan.members key t r h.2 0 (Nat.le_refl 0) rfl hfirst rfl
  obtain ⟨line, hend⟩ := hlast.fetch_end
  obtain ⟨fuel, hf, he⟩ := ofScan_steps hsteps 2 ((membersChars 0 ((key, t) :: r)).length + 3)
    (by simp [membersChars, indentation])
  obtain ⟨fuel, rfl⟩ : ∃ n, fuel = n + 2 := ⟨fuel - 2, by omega⟩
  have htext : membersChars 0 ((key, t) :: r) = key.toList ++ ':' :: (t.chars 0 ++
      (membersChars 0 r ++ (indentation 0 ++ []))) := by
    simp [membersChars, indentation]
  rw [htext] at he ⊢
  refine he.trans ?_
  rw [ofScan, hlast.ended, hend]
  simp [ofScan, Scan.closeFrom, Tree.tokens]

end Tokens

end FunctionLoad.Yaml
