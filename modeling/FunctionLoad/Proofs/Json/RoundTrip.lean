import FunctionLoad.Json.Reader
import FunctionLoad.Json.Printer
import FunctionLoad.Proofs.Decimal
import FunctionLoad.Proofs.Text.Trim
import Mathlib.Tactic.SplitIfs

/-!
# JSON that is read back

A value is **exact** when it holds no doubles and is nested no deeper than the reader goes. What the
printer writes for such a value, the reader takes for that value again.

* `string?_escape`, **`string?_escaped`**: escaped characters and quoted texts.
* `absorb_digits`, **`unsigned?_digits`**: digits of numbers that fit in 64 bits.
* `EndsNumber`: what may follow a number without becoming a part of it.
* `items?_chars`, `members?_chars`: the contents of lists and objects, given their values.
* **`readsBack`**, **`read?_compact`**: values of every depth, and whole texts.
-/

namespace FunctionLoad.Json

open FunctionLoad.Text FunctionLoad.Decimal

/-! ## Texts -/

theorem hexValue?_hexDigit : ∀ d < 16, hexValue? (hexDigit d) = some d := by decide

/-- The code unit of a control character, written with four digits. -/
theorem codeUnit?_hexDigit {n : Nat} (hn : n < 0x20) :
    codeUnit? (hexDigit (n / 16 / 16 / 16 % 16)) (hexDigit (n / 16 / 16 % 16))
      (hexDigit (n / 16 % 16)) (hexDigit (n % 16)) = some n := by
  have h (m : Nat) : hexValue? (hexDigit (m % 16)) = some (m % 16) :=
    hexValue?_hexDigit _ (Nat.mod_lt _ (by decide))
  simp only [codeUnit?, h, Option.bind_eq_bind, Option.bind_some, Option.pure_def,
    Option.some.injEq]
  omega

/-- One more character in front of a text that was read. -/
def withHead (c : Char) (p : List Char × List Char) : List Char × List Char :=
  (c :: p.1, p.2)

theorem string?_letter {c d : Char} (h : escaped? c = some d) (r : List Char) :
    string? ('\\' :: c :: r) = (string? r).map (withHead d) := by
  have hu : c ≠ 'u' := by rintro rfl; cases (show none = some d from h)
  rw [string?.eq_def]
  split
  · next he => simp at he
  · next he => simp only [List.cons.injEq] at he; exact absurd he.2.1 hu
  · next he =>
    simp only [List.cons.injEq, true_and] at he
    obtain ⟨rfl, rfl⟩ := he
    rw [h, Option.map_eq_bind]
    rfl
  · next hn he =>
    simp only [List.cons.injEq] at he
    obtain ⟨rfl, rfl⟩ := he
    exact absurd rfl (hn _ _ rfl)

theorem string?_codeUnit {a b c d : Char} {n : Nat} (h : codeUnit? a b c d = some n)
    (hn : n < 0xD800) (r : List Char) :
    string? ('\\' :: 'u' :: a :: b :: c :: d :: r) =
      (string? r).map (withHead (Char.ofNat n)) := by
  have h1 : ¬ (0xD800 ≤ n ∧ n < 0xDC00) := by omega
  have h2 : ¬ (0xDC00 ≤ n ∧ n < 0xE000) := by omega
  rw [string?, h, Option.bind_eq_bind, Option.bind_some, if_neg h1, if_neg h2, Option.map_eq_bind]
  rfl

theorem string?_plain {c : Char} (hq : c ≠ '"') (hb : c ≠ '\\') (hc : ¬ c.toNat < 0x20)
    (r : List Char) : string? (c :: r) = (string? r).map (withHead c) := by
  rw [string?.eq_def]
  split
  · next he => simp at he
  · next he => exact absurd (List.cons.inj he).1 hb
  · next he => exact absurd (List.cons.inj he).1 hb
  · next he =>
    obtain ⟨rfl, rfl⟩ := List.cons.inj he
    rw [if_neg hq, if_neg (by simp [hb, hc]), Option.map_eq_bind]
    rfl

theorem string?_quote (r : List Char) : string? ('"' :: r) = some ([], r) := by
  simp [string?]

/-- **An escaped character is read back.** -/
theorem string?_escape (c : Char) (r : List Char) :
    string? (escape c ++ r) = (string? r).map (withHead c) := by
  unfold escape
  split_ifs with h1 h2 h3 h4 h5 h6 h7 h8
  · subst h1; exact string?_letter rfl r
  · subst h2; exact string?_letter rfl r
  · rw [← Char.ofNat_toNat c, h3]; exact string?_letter rfl r
  · rw [← Char.ofNat_toNat c, h4]; exact string?_letter rfl r
  · subst h5; exact string?_letter rfl r
  · subst h6; exact string?_letter rfl r
  · subst h7; exact string?_letter rfl r
  · have := string?_codeUnit (codeUnit?_hexDigit h8) (by omega) r
    rw [Char.ofNat_toNat] at this
    exact this
  · exact string?_plain h1 h2 h8 r

/-- **A text between quotes is read back.** -/
theorem string?_escaped (s r : List Char) :
    string? (s.flatMap escape ++ '"' :: r) = some (s, r) := by
  induction s with
  | nil => exact string?_quote r
  | cons c s ih => rw [List.flatMap_cons, List.append_assoc, string?_escape, ih]; rfl

/-! ## Numbers -/

theorem le_ofDigitsFrom (cs : List Char) : ∀ v, v ≤ ofDigitsFrom 10 v cs := by
  induction cs with
  | nil => intro v; exact Nat.le_refl v
  | cons c cs ih =>
    intro v
    have := ih (v * 10 + (digitValue? 10 c).getD 0)
    rw [ofDigitsFrom, List.foldl_cons, ← ofDigitsFrom]
    omega

/-- Digits are all absorbed if their number fits in 64 bits. -/
theorem absorb_eq (cs : List Char) : ∀ v, ofDigitsFrom 10 v cs < UInt64.size →
    absorb v cs = (ofDigitsFrom 10 v cs, []) := by
  induction cs with
  | nil => intro v _; rfl
  | cons c cs ih =>
    intro v h
    rw [ofDigitsFrom, List.foldl_cons, ← ofDigitsFrom] at h ⊢
    have hn : v * 10 + (digitValue? 10 c).getD 0 < UInt64.size :=
      Nat.lt_of_le_of_lt (le_ofDigitsFrom cs _) h
    simp only [absorb, if_pos hn]
    exact ih _ h

theorem absorb_digits {n : Nat} (h : n < UInt64.size) : absorb 0 (digits n) = (n, []) := by
  have hn : ofDigitsFrom 10 0 (digits n) = n := ofDigits_digits n
  rw [absorb_eq _ 0 (by rw [hn]; exact h), hn]

/-- Whether a number that stands in front of a text ends there. -/
def EndsNumber (r : List Char) : Prop :=
  ∀ c, r.head? = some c → isDigit c = false ∧ c ≠ '.' ∧ c ≠ 'e' ∧ c ≠ 'E'

theorem EndsNumber.head {r : List Char} (h : EndsNumber r) : ∀ c ∈ r.head?, isDigit c = false :=
  fun c hc => (h c hc).1

/-- **The digits of a number that fits in 64 bits are read back.** -/
theorem unsigned?_digits (minus : Bool) {n : Nat} (hn : n < UInt64.size) {r : List Char}
    (hr : EndsNumber r) : unsigned? minus (digits n ++ r) = some (wholeNumber minus n, r) := by
  have ht : (digits n ++ r).takeWhile isDigit = digits n :=
    takeWhile_append_of_head isDigit_of_mem_digits hr.head
  have hd : (digits n ++ r).dropWhile isDigit = r :=
    dropWhile_append_of_head isDigit_of_mem_digits hr.head
  have hz : ¬ (digits n = [] ∨ ((digits n).head? = some '0' ∧ 1 < (digits n).length)) :=
    not_or.mpr ⟨digits_ne_nil n, not_leadingZero n⟩
  simp only [unsigned?, ht, hd, if_neg hz, absorb_digits hn]
  cases r with
  | nil => simp
  | cons c r =>
    obtain ⟨-, hp, he, hE⟩ := hr c rfl
    split
    · next h => exact absurd (List.cons.inj h).1 hp
    · next h => obtain ⟨rfl, rfl⟩ := List.cons.inj h; simp [he, hE]
    · next h => cases h


theorem number?_whole (n : UInt64) {r : List Char} (hr : EndsNumber r) :
    number? (digits n.toNat ++ r) = some (.whole n, r) := by
  have h : unsigned? false (digits n.toNat ++ r) = some (.whole n, r) := by
    rw [unsigned?_digits false n.toNat_lt_size hr, wholeNumber, if_neg (by decide),
      UInt64.ofNat_toNat]
  rw [number?.eq_def]
  split
  · next he =>
    obtain ⟨c, t, hc, hm⟩ := exists_digits_eq_cons n.toNat
    rw [hc, List.cons_append] at he
    rw [(List.cons.inj he).1] at hm
    exact absurd hm (by decide)
  · exact h

theorem number?_negative {n : Int64} (hn : n.toInt < 0) {r : List Char} (hr : EndsNumber r) :
    number? ((decimalInt n.toInt).toList ++ r) = some (.negative n, r) := by
  obtain ⟨m, hm⟩ := Int.eq_negSucc_of_lt_zero hn
  have hlow := n.le_toInt
  have hsize : m + 1 < UInt64.size := by simp [UInt64.size]; omega
  have hw : wholeNumber true (m + 1) = .negative n := by
    have hb : ¬ (m + 1 = 0 ∨ 0x8000000000000000 < m + 1) := by omega
    rw [wholeNumber, if_pos rfl, if_neg hb, show (-((m + 1 : Nat) : Int)) = n.toInt by omega,
      Int64.ofInt_toInt]
  rw [hm, decimalInt, decimal]
  simp only [String.toList_append, String.toList_ofList]
  show number? ('-' :: (digits (m + 1) ++ r)) = _
  rw [number?, unsigned?_digits true hsize hr, hw]

/-! ## Values -/

/-- Whether a number is written so that it is read back: no double, and none above zero among
those below zero. -/
def Number.isExact : Number → Bool
  | .whole _ => true
  | .negative n => n.toInt < 0
  | .double _ => false

theorem number?_chars {n : Number} (h : n.isExact = true) {r : List Char} (hr : EndsNumber r) :
    number? (n.chars ++ r) = some (n, r) := by
  cases n with
  | whole n => exact number?_whole n hr
  | negative n => exact number?_negative (of_decide_eq_true h) hr
  | double x => cases h

mutual

/-- Whether a value holds exact numbers only and is nested at most `depth` deep. -/
def Value.isExact : Nat → Value → Bool
  | _, .null => true
  | _, .bool _ => true
  | _, .number n => n.isExact
  | _, .text _ => true
  | 0, .list _ => false
  | depth + 1, .list items => Value.areExact depth items
  | 0, .object _ => false
  | depth + 1, .object members => Value.membersExact depth members

/-- Whether all items are exact. -/
def Value.areExact : Nat → List Value → Bool
  | _, [] => true
  | depth, v :: r => v.isExact depth && Value.areExact depth r

/-- Whether the values of all members are exact. -/
def Value.membersExact : Nat → List (String × Value) → Bool
  | _, [] => true
  | depth, (_, v) :: r => v.isExact depth && Value.membersExact depth r

end


theorem isBlank_of_isDigit {c : Char} (h : isDigit c = true) : isBlank c = false := by
  rw [Bool.eq_false_iff]
  intro hb
  simp only [isBlank, Bool.or_eq_true, beq_iff_eq, or_assoc] at hb
  rcases hb with rfl | rfl | rfl | rfl <;> exact absurd h (by decide)

theorem skipBlank_cons {c : Char} (h : isBlank c = false) (r : List Char) :
    skipBlank (c :: r) = c :: r := by
  rw [skipBlank, List.dropWhile_cons, if_neg (by rw [h]; decide)]

/-- An exact number starts with a digit or a minus. -/
theorem Number.chars_eq_cons {n : Number} (h : n.isExact = true) :
    ∃ c r, n.chars = c :: r ∧ (isDigit c = true ∨ c = '-') := by
  cases n with
  | whole n =>
    obtain ⟨c, r, hc, hd⟩ := exists_digits_eq_cons n.toNat
    exact ⟨c, r, hc, Or.inl hd⟩
  | negative n =>
    obtain ⟨m, hm⟩ := Int.eq_negSucc_of_lt_zero (of_decide_eq_true h)
    refine ⟨'-', digits (m + 1), ?_, Or.inr rfl⟩
    rw [Number.chars, hm, decimalInt, decimal]
    simp only [String.toList_append, String.toList_ofList]
    rfl
  | double x => cases h

/-- **A value starts with a character that is no blank and closes no list.** -/
theorem Value.chars_eq_cons {depth : Nat} {v : Value} (h : v.isExact depth = true) :
    ∃ c r, v.chars = c :: r ∧ isBlank c = false ∧ c ≠ ']' := by
  cases v with
  | null => exact ⟨_, _, rfl, rfl, by decide⟩
  | bool b => cases b <;> exact ⟨_, _, rfl, rfl, by decide⟩
  | number n =>
    obtain ⟨c, r, hc, hd⟩ := Number.chars_eq_cons (n := n) (by cases depth <;> exact h)
    refine ⟨c, r, hc, ?_, ?_⟩
    · rcases hd with hd | rfl
      · exact isBlank_of_isDigit hd
      · rfl
    · rintro rfl
      exact absurd hd (by decide)
  | text s => exact ⟨_, _, rfl, rfl, by decide⟩
  | list items => exact ⟨_, _, rfl, rfl, by decide⟩
  | object members => exact ⟨_, _, rfl, rfl, by decide⟩

theorem endsNumber_comma (r : List Char) : EndsNumber (',' :: r) := by
  rintro c ⟨⟩; decide

theorem endsNumber_bracket (r : List Char) : EndsNumber (']' :: r) := by
  rintro c ⟨⟩; decide

theorem endsNumber_brace (r : List Char) : EndsNumber ('\x7d' :: r) := by
  rintro c ⟨⟩; decide

theorem endsNumber_nil : EndsNumber [] := by
  rintro c ⟨⟩

/-- A value that starts like a number is read as one. -/
theorem value?_of_number (depth : Nat) {c : Char} (h : isDigit c = true ∨ c = '-') (r : List Char) :
    value? depth (c :: r) = (number? (c :: r)).map fun p => (.number p.1, p.2) := by
  have hb : isBlank c = false := by
    rcases h with h | rfl
    · exact isBlank_of_isDigit h
    · rfl
  rw [value?.eq_def, skipBlank_cons hb]
  split <;> try rfl
  · next he => cases he
  all_goals next he => cases he; exact absurd h (by decide)

theorem items?_last {item : List Char → Option (Value × List Char)} {cs r : List Char} {v : Value}
    (h : item cs = some (v, ']' :: r)) (fuel : Nat) :
    items? item (fuel + 1) cs = some ([v], r) := by
  simp only [items?, h, Option.bind_eq_bind, Option.bind_some, skipBlank_cons (c := ']') rfl,
    Option.pure_def]

theorem items?_cons {item : List Char → Option (Value × List Char)} {cs r t : List Char}
    {v : Value} {vs : List Value} {fuel : Nat} (h : item cs = some (v, ',' :: r))
    (hr : items? item fuel r = some (vs, t)) :
    items? item (fuel + 1) cs = some (v :: vs, t) := by
  simp only [items?, h, Option.bind_eq_bind, Option.bind_some, skipBlank_cons (c := ',') rfl, hr,
    Option.pure_def]

/-- A quoted text in front of others, up to the quote behind it. -/
theorem quotedChars_append (s : String) (r : List Char) :
    quotedChars s ++ r = '"' :: (s.toList.flatMap escape ++ '"' :: r) := by
  simp [quotedChars]

theorem members?_last {item : List Char → Option (Value × List Char)} {r t : List Char}
    {v : Value} (k : String) (h : item r = some (v, '\x7d' :: t)) (fuel : Nat) :
    members? item (fuel + 1) (quotedChars k ++ ':' :: r) = some ([(k, v)], t) := by
  rw [quotedChars_append]
  simp only [members?, skipBlank_cons (c := '"') rfl, string?_escaped, Option.bind_eq_bind,
    Option.bind_some, skipBlank_cons (c := ':') rfl, h, skipBlank_cons (c := '\x7d') rfl,
    String.ofList_toList, Option.pure_def]

theorem members?_cons {item : List Char → Option (Value × List Char)} {r r' t : List Char}
    {v : Value} {ms : List (String × Value)} {fuel : Nat} (k : String)
    (h : item r = some (v, ',' :: r')) (hr : members? item fuel r' = some (ms, t)) :
    members? item (fuel + 1) (quotedChars k ++ ':' :: r) = some ((k, v) :: ms, t) := by
  rw [quotedChars_append]
  simp only [members?, skipBlank_cons (c := '"') rfl, string?_escaped, Option.bind_eq_bind,
    Option.bind_some, skipBlank_cons (c := ':') rfl, h, skipBlank_cons (c := ',') rfl, hr,
    String.ofList_toList, Option.pure_def]

theorem length_le_intercalate {α : Type} (sep : List α) :
    ∀ ls : List (List α), (∀ l ∈ ls, l ≠ []) → ls.length ≤ (sep.intercalate ls).length
  | [], _ => Nat.le_refl _
  | [l], h => by
    have := List.length_pos_iff.mpr (h l List.mem_cons_self)
    rw [List.intercalate_singleton, List.length_singleton]
    omega
  | l :: m :: ls, h => by
    have hl := List.length_pos_iff.mpr (h l List.mem_cons_self)
    have ih := length_le_intercalate sep (m :: ls) fun x hx => h x (List.mem_cons_of_mem _ hx)
    rw [List.intercalate_cons_cons, List.length_append, List.length_append, List.length_cons]
    omega

theorem Value.itemsChars_eq_map (vs : List Value) : Value.itemsChars vs = vs.map Value.chars := by
  induction vs with
  | nil => rfl
  | cons v vs ih => rw [Value.itemsChars, ih, List.map_cons]

theorem Value.membersChars_eq_map (ms : List (String × Value)) :
    Value.membersChars ms = ms.map fun m => quotedChars m.1 ++ ':' :: m.2.chars := by
  induction ms with
  | nil => rfl
  | cons m ms ih => rw [Value.membersChars, ih, List.map_cons]

theorem Value.areExact_eq_all (depth : Nat) (vs : List Value) :
    Value.areExact depth vs = vs.all (Value.isExact depth) := by
  induction vs with
  | nil => rfl
  | cons v vs ih => rw [Value.areExact, ih, List.all_cons]

/-- There is fuel for every item of a list. -/
theorem Value.length_le_itemsChars {depth : Nat} {vs : List Value}
    (h : Value.areExact depth vs = true) :
    vs.length ≤ (List.intercalate [','] (Value.itemsChars vs)).length := by
  rw [Value.areExact_eq_all, List.all_eq_true] at h
  have hne : ∀ l ∈ Value.itemsChars vs, l ≠ [] := by
    intro l hl
    rw [Value.itemsChars_eq_map] at hl
    obtain ⟨v, hv, rfl⟩ := List.mem_map.mp hl
    obtain ⟨c, r, hc, -⟩ := Value.chars_eq_cons (h v hv)
    rw [hc]
    exact List.cons_ne_nil _ _
  have := length_le_intercalate [','] _ hne
  rwa [Value.itemsChars_eq_map, List.length_map, ← Value.itemsChars_eq_map] at this

/-- There is fuel for every member of an object. -/
theorem Value.length_le_membersChars (ms : List (String × Value)) :
    ms.length ≤ (List.intercalate [','] (Value.membersChars ms)).length := by
  have hne : ∀ l ∈ Value.membersChars ms, l ≠ [] := by
    intro l hl
    rw [Value.membersChars_eq_map] at hl
    obtain ⟨m, -, rfl⟩ := List.mem_map.mp hl
    exact List.cons_ne_nil _ _
  have := length_le_intercalate [','] _ hne
  rwa [Value.membersChars_eq_map, List.length_map, ← Value.membersChars_eq_map] at this

theorem Value.itemsChars_eq_cons {depth : Nat} {v : Value} {vs : List Value}
    (h : Value.areExact depth (v :: vs) = true) (r : List Char) :
    ∃ c t, List.intercalate [','] (Value.itemsChars (v :: vs)) ++ r = c :: t ∧
      isBlank c = false ∧ c ≠ ']' := by
  rw [Value.areExact, Bool.and_eq_true] at h
  obtain ⟨c, t, hc, hb, hn⟩ := Value.chars_eq_cons h.1
  rw [Value.itemsChars, hc, List.intercalate_cons_cons_left]
  exact ⟨c, _, rfl, hb, hn⟩

theorem Value.membersChars_eq_cons (k : String) (v : Value) (ms : List (String × Value))
    (r : List Char) :
    ∃ t, List.intercalate [','] (Value.membersChars ((k, v) :: ms)) ++ r = '"' :: t := by
  rw [Value.membersChars, quotedChars_append, List.intercalate_cons_cons_left]
  exact ⟨_, rfl⟩

theorem value?_list {depth : Nat} {cs r : List Char} {vs : List Value}
    (hc : ∃ c t, cs = c :: t ∧ isBlank c = false ∧ c ≠ ']')
    (h : items? (value? depth) (cs.length + 1) cs = some (vs, r)) :
    value? (depth + 1) ('[' :: cs) = some (.list vs, r) := by
  obtain ⟨c, t, rfl, hb, hn⟩ := hc
  rw [value?.eq_def, skipBlank_cons rfl]
  simp only [skipBlank_cons hb]
  split
  · next he => exact absurd (List.cons.inj he).1 hn
  · rw [h]; rfl

theorem value?_object {depth : Nat} {cs r : List Char} {ms : List (String × Value)}
    (hc : ∃ t, cs = '"' :: t) (h : members? (value? depth) (cs.length + 1) cs = some (ms, r)) :
    value? (depth + 1) ('\x7b' :: cs) = some (.object ms, r) := by
  obtain ⟨t, rfl⟩ := hc
  rw [value?.eq_def, skipBlank_cons rfl]
  simp only [skipBlank_cons (c := '"') rfl]
  rw [h]
  rfl

/-- Whether a value is neither list nor object. -/
def Value.isFlat : Value → Bool
  | .list _ => false
  | .object _ => false
  | _ => true

/-- A value that is neither list nor object is read back at any depth. -/
theorem value?_flat {depth : Nat} {v : Value} {r : List Char} (hf : v.isFlat = true)
    (h : v.isExact depth = true) (hr : EndsNumber r) :
    value? depth (v.chars ++ r) = some (v, r) := by
  cases v with
  | null => rw [value?.eq_def, Value.chars]; rfl
  | bool b => cases b <;> rw [value?.eq_def, Value.chars] <;> rfl
  | number n =>
    have hn : n.isExact = true := by cases depth <;> exact h
    obtain ⟨c, t, hc, hd⟩ := Number.chars_eq_cons hn
    have := number?_chars hn hr
    rw [hc, List.cons_append] at this
    rw [Value.chars, hc, List.cons_append, value?_of_number depth hd, this]
    rfl
  | text s =>
    rw [Value.chars, quotedChars_append, value?.eq_def, skipBlank_cons rfl]
    simp only [string?_escaped, Option.map_some, String.ofList_toList]
  | list items => cases hf
  | object members => cases hf

/-- Whether every exact value of a depth is read back, whatever follows it, if a number would end
there. -/
def ReadsBack (depth : Nat) : Prop :=
  ∀ (v : Value) (r : List Char), v.isExact depth = true → EndsNumber r →
    value? depth (v.chars ++ r) = some (v, r)

theorem items?_chars {depth : Nat} (hd : ReadsBack depth) (r : List Char) :
    ∀ (v : Value) (vs : List Value) (fuel : Nat), Value.areExact depth (v :: vs) = true →
      vs.length < fuel → items? (value? depth) fuel
        (List.intercalate [','] (Value.itemsChars (v :: vs)) ++ ']' :: r) = some (v :: vs, r)
  | v, [], fuel + 1, h, _ => by
    rw [Value.areExact, Bool.and_eq_true] at h
    rw [Value.itemsChars, Value.itemsChars, List.intercalate_singleton]
    exact items?_last (hd v _ h.1 (endsNumber_bracket r)) fuel
  | v, w :: vs, fuel + 1, h, hf => by
    rw [Value.areExact, Bool.and_eq_true] at h
    have ih := items?_chars hd r w vs fuel h.2 (Nat.lt_of_succ_lt_succ hf)
    rw [Value.itemsChars, Value.itemsChars, List.intercalate_cons_cons, ← Value.itemsChars,
      List.append_assoc, List.append_assoc]
    exact items?_cons (hd v _ h.1 (endsNumber_comma _)) ih

theorem members?_chars {depth : Nat} (hd : ReadsBack depth) (r : List Char) :
    ∀ (k : String) (v : Value) (ms : List (String × Value)) (fuel : Nat),
      Value.membersExact depth ((k, v) :: ms) = true → ms.length < fuel →
      members? (value? depth) fuel
        (List.intercalate [','] (Value.membersChars ((k, v) :: ms)) ++ '\x7d' :: r) =
          some ((k, v) :: ms, r)
  | k, v, [], fuel + 1, h, _ => by
    rw [Value.membersExact, Bool.and_eq_true] at h
    rw [Value.membersChars, Value.membersChars, List.intercalate_singleton, List.append_assoc]
    exact members?_last k (hd v _ h.1 (endsNumber_brace r)) fuel
  | k, v, (l, w) :: ms, fuel + 1, h, hf => by
    rw [Value.membersExact, Bool.and_eq_true] at h
    have ih := members?_chars hd r l w ms fuel h.2 (Nat.lt_of_succ_lt_succ hf)
    rw [Value.membersChars, Value.membersChars, List.intercalate_cons_cons, ← Value.membersChars,
      List.append_assoc, List.append_assoc, List.append_assoc]
    exact members?_cons k (hd v _ h.1 (endsNumber_comma _)) ih

/-- A list one level deeper is read back. -/
theorem value?_listChars {depth : Nat} (hd : ReadsBack depth) {vs : List Value}
    (h : Value.areExact depth vs = true) (r : List Char) :
    value? (depth + 1) ((Value.list vs).chars ++ r) = some (.list vs, r) := by
  cases vs with
  | nil => rw [value?.eq_def, Value.chars]; rfl
  | cons v vs =>
    have hl := Value.length_le_itemsChars h
    have hs : (Value.list (v :: vs)).chars ++ r =
        '[' :: (List.intercalate [','] (Value.itemsChars (v :: vs)) ++ ']' :: r) := by
      simp [Value.chars]
    rw [hs]
    refine value?_list (Value.itemsChars_eq_cons h _) (items?_chars hd r v vs _ h ?_)
    rw [List.length_append]
    rw [List.length_cons] at hl
    omega

/-- An object one level deeper is read back. -/
theorem value?_objectChars {depth : Nat} (hd : ReadsBack depth) {ms : List (String × Value)}
    (h : Value.membersExact depth ms = true) (r : List Char) :
    value? (depth + 1) ((Value.object ms).chars ++ r) = some (.object ms, r) := by
  cases ms with
  | nil => rw [value?.eq_def, Value.chars]; rfl
  | cons m ms =>
    obtain ⟨k, v⟩ := m
    have hl := Value.length_le_membersChars ((k, v) :: ms)
    have hs : (Value.object ((k, v) :: ms)).chars ++ r =
        '\x7b' :: (List.intercalate [','] (Value.membersChars ((k, v) :: ms)) ++ '\x7d' :: r) := by
      simp [Value.chars]
    rw [hs]
    refine value?_object (Value.membersChars_eq_cons k v ms _) (members?_chars hd r k v ms _ h ?_)
    rw [List.length_append]
    rw [List.length_cons] at hl
    omega

/-- **Exact values of every depth are read back.** -/
theorem readsBack : ∀ depth : Nat, ReadsBack depth := by
  intro depth
  induction depth with
  | zero =>
    intro v r h hr
    cases v with
    | list items => cases h
    | object members => cases h
    | _ => exact value?_flat rfl h hr
  | succ depth ih =>
    intro v r h hr
    cases v with
    | list items => exact value?_listChars ih h r
    | object members => exact value?_objectChars ih h r
    | _ => exact value?_flat rfl h hr

/-- **What is written without spaces is read back.** -/
theorem read?_compact {v : Value} (h : v.isExact maxDepth = true) : read? v.compact = some v := by
  have hv := readsBack maxDepth v [] h endsNumber_nil
  rw [List.append_nil] at hv
  rw [read?, Value.compact, String.toList_ofList, hv]
  rfl

end FunctionLoad.Json
