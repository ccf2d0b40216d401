import FunctionLoad.Yaml.Decode
import FunctionLoad.Proofs.Yaml.Document

/-!
# Reading of what was written

* `text?_text`, `choice?_text`, `word?_number`: texts, names and natural numbers are read back.
* `IsInteger`, **`numeral?_of_isInteger`**: an integer in the place of a text needs a sign bit.
* `Drafts`: what the members of a tree make of a draft, up to the first one that is refused.
* **`Drafts.record`**, **`Drafts.decode`**: a mapping is read member by member.
-/

namespace FunctionLoad.Yaml

open FunctionLoad.Text FunctionLoad.Decimal

/-! ## Numbers -/

theorem withoutPlus_digits (n : Nat) : withoutPlus (digits n) = digits n := by
  obtain ⟨c, r, hcr, hc⟩ := exists_digits_eq_cons n
  have hp := ne_of_isDigit hc (by decide : isDigit '+' = false)
  rw [hcr]
  unfold withoutPlus
  split
  · next h => exact absurd (List.cons.inj h).1 hp
  · rfl

/-- Numbers are written without a zero in front. -/
theorem isZeroPadded_digits (n : Nat) : isZeroPadded (digits n) = false := by
  have hz := not_leadingZero n
  have hw := withoutPlus_digits n
  unfold isZeroPadded
  obtain ⟨c, r, hcr, hc⟩ := exists_digits_eq_cons n
  have hm := ne_of_isDigit hc (by decide : isDigit '-' = false)
  rw [hcr] at hz hw ⊢
  simp_all

/-- Decimal digits ask for no other base. -/
theorem based?_digits (n : Nat) : based? (digits n) = some n := by
  have hmem {c : Char} (hc : isDigit c = false) : c ∉ digits n := fun h => by
    rw [isDigit_of_mem_digits c h] at hc
    cases hc
  unfold based?
  split
  · next h => exact absurd (by simp [h]) (hmem (by decide : isDigit 'x' = false))
  · next h => exact absurd (by simp [h]) (hmem (by decide : isDigit 'o' = false))
  · next h => exact absurd (by simp [h]) (hmem (by decide : isDigit 'b' = false))
  · exact unsigned?_digits n

theorem whole?_decimal (n : Nat) : whole? (decimal n) = some n := by
  rw [whole?, toList_decimal, isZeroPadded_digits, withoutPlus_digits, based?_digits]
  rfl

/-- What is read as an integer is no word for something else. -/
theorem resolve_of_integer? {s : String} {z : Int} (h : Yaml.integer? s = some z) :
    resolve s = .integer z := by
  have hwords : ∀ w ∈ ["", "~", "null", "Null", "NULL", "true", "True", "TRUE", "false", "False",
      "FALSE"], Yaml.integer? w = none := by decide
  have hne : ∀ w ∈ _, s ≠ w := fun w hw he => by
    rw [he, hwords w hw] at h
    cases h
  simp only [List.forall_mem_cons] at hne
  simp [resolve, isNull, bool?, hne, h]

/-- **The decimal form of an integer is read as it** if it fits in 128 bits. -/
theorem integer?_decimalInt {z : Int} (hmin : -0x80000000000000000000000000000000 ≤ z)
    (hmax : z < 0x100000000000000000000000000000000) : Yaml.integer? (decimalInt z) = some z := by
  cases z with
  | ofNat n =>
    have hm : ∀ r, (decimal n).toList ≠ '-' :: r := fun r hr => by
      rw [toList_decimal] at hr
      have := isDigit_of_mem_digits '-' (hr ▸ List.mem_cons_self)
      exact absurd this (by decide)
    have hn : n < 0x100000000000000000000000000000000 := Int.ofNat_lt.mp hmax
    unfold Yaml.integer?
    rw [decimalInt]
    split
    · next r hr => exact absurd hr (hm r)
    · simp [whole?_decimal, hn]
  | negSucc n =>
    have htext : (decimalInt (.negSucc n)).toList = '-' :: digits (n + 1) := by
      rw [decimalInt, String.toList_append, toList_decimal]
      rfl
    have hn : n + 1 ≤ 0x80000000000000000000000000000000 := by omega
    simp only [Yaml.integer?, htext, isZeroPadded_digits, based?_digits, Option.bind_some, if_pos hn]
    rfl

/-- Whether a scalar is an integer: a plain one without a tag, or one with the tag of integers. -/
def IsInteger (tag : Option (List UInt8)) (text : String) (style : Style) (z : Int) : Prop :=
  (tag = none ∧ style = .plain ∨ tag = some Tag.int) ∧ Yaml.integer? text = some z

/-- An integer that stands in the place of a text needs a sign bit. -/
theorem numeralText?_of_isInteger {tag : Option (List UInt8)} {text : String} {style : Style} {z : Int}
    (h : IsInteger tag text style z) : numeralText? tag text style = signedNumeral? z := by
  obtain ⟨⟨rfl, rfl⟩ | rfl, hz⟩ := h
  · simp [numeralText?, Tag.local?, resolve_of_integer? hz]
  · have hlocal : Tag.local? (some Tag.int) = none := rfl
    simp [numeralText?, hlocal, hz]

/-! ## Scalars -/

section

variable (d : Document) (r : List (Event Nat))

theorem scalar?_text (s : String) :
    scalar? d ((Tree.text s).events ++ r) = some ((none, s, styleOf s), r) := by
  simp [Tree.events, scalar?]

theorem scalar?_number (n : Nat) :
    scalar? d ((Tree.number n).events ++ r) = some ((none, decimal n, .plain), r) := by
  simp [Tree.events, scalar?, decimal]

/-- A text is read back. -/
theorem text?_text (s : String) : text? d ((Tree.text s).events ++ r) = some (s, r) := by
  simp [text?, scalar?_text]

/-- A name is read back where it is known. -/
theorem choice?_text {names : List String} {s : String} (h : s ∈ names) :
    choice? names d ((Tree.text s).events ++ r) = some (s, r) := by
  simp [choice?, scalar?_text, Tag.local?, h]

/-- A natural number of 64 bits is read back. -/
theorem word?_number {n : Nat} (h : n < UInt64.size) :
    word? d ((Tree.number n).events ++ r) = some (UInt64.ofNat n, r) := by
  simp [word?, scalar?_number, whole?_decimal, h]

/-- **An integer in the place of a text is put into decimal** if it fits in 64 bits with a sign. -/
theorem numeral?_of_isInteger {es : List (Event Nat)} {tag : Option (List UInt8)} {text : String}
    {style : Style} {z : Int} (hs : scalar? d es = some ((tag, text, style), r))
    (hz : IsInteger tag text style z) : numeral? d es = (signedNumeral? z).map (·, r) := by
  rw [numeral?, hs, Option.bind_eq_bind, Option.bind_some]
  dsimp only
  rw [numeralText?_of_isInteger hz]
  cases signedNumeral? z <;> rfl

/-- A natural number in the place of a text is read back as long as it fits in 64 bits with a
sign. -/
theorem numeral?_number {n : Nat} (h : n < UInt64.size) :
    numeral? d ((Tree.number n).events ++ r) =
      if n < 2 ^ 63 then some (decimal n, r) else none := by
  have hz : IsInteger none (decimal n) .plain n :=
    ⟨.inl ⟨rfl, rfl⟩, integer?_decimalInt (z := n) (by omega) (by rw [UInt64.size] at h; omega)⟩
  rw [numeral?_of_isInteger d r (scalar?_number d r n) hz]
  unfold signedNumeral?
  split_ifs <;> first | rfl | omega

end

/-! ## Records -/

/-- **What the members of a tree make of a draft**, up to the first one that is refused, and whether
none is. -/
inductive Drafts {σ : Type} (known : List (Member σ)) (d : Document) :
    (seen : List String) → σ → List (String × Tree) → σ × Bool → Prop
  | done {seen : List String} {draft : σ} : Drafts known d seen draft [] (draft, true)
  | read {seen : List String} {draft draft' : σ} {key : String} {t : Tree}
      {rest : List (String × Tree)} {out : σ × Bool} (m : Member σ) :
      known.find? (·.name == key) = some m → key ∉ seen →
      (∀ r, m.read d draft (t.events ++ r) = (draft', some r)) →
      Drafts known d (key :: seen) draft' rest out →
      Drafts known d seen draft ((key, t) :: rest) out
  | refused {seen : List String} {draft draft' : σ} {key : String} {t : Tree}
      {rest : List (String × Tree)} (m : Member σ) :
      known.find? (·.name == key) = some m → key ∉ seen →
      (∀ r, m.read d draft (t.events ++ r) = (draft', none)) →
      Drafts known d seen draft ((key, t) :: rest) (draft', false)

namespace Drafts

variable {σ : Type} {known : List (Member σ)} {d : Document} {seen : List String} {draft : σ}
  {ms : List (String × Tree)} {out : σ × Bool}

theorem text?_key (key : String) (r : List (Event Nat)) :
    text? d (.scalar {} key.toList .plain :: r) = some (key, r) := by
  simp [text?, scalar?]

/-- A known key that comes for the first time is read with its member. -/
theorem members_key {key : String} {m : Member σ} (hm : known.find? (·.name == key) = some m)
    (hs : key ∉ seen) (fuel : Nat) (draft : σ) (es : List (Event Nat)) :
    Yaml.members known d (fuel + 1) seen draft (.scalar {} key.toList .plain :: es) =
      match m.read d draft es with
      | (draft', none) => (draft', none)
      | (draft', some r) => Yaml.members known d fuel (key :: seen) draft' r := by
  rcases hr : m.read d draft es with ⟨draft', _ | r⟩ <;>
    simp only [Yaml.members, text?_key, hm, hs, hr, if_false]

/-- Members are read one after the other, up to the end of their mapping. -/
theorem members (h : Drafts known d seen draft ms out) {fuel : Nat} (hf : ms.length < fuel)
    (r : List (Event Nat)) :
    Yaml.members known d fuel seen draft (membersEvents ms ++ .mappingEnd :: r) =
      (out.1, if out.2 then some r else none) := by
  obtain ⟨fuel, rfl⟩ : ∃ n, fuel = n + 1 := ⟨fuel - 1, by omega⟩
  induction h generalizing fuel with
  | done => rfl
  | read m hm hs hr _ ih =>
    rw [List.length_cons] at hf
    obtain ⟨fuel, rfl⟩ : ∃ n, fuel = n + 1 := ⟨fuel - 1, by omega⟩
    have := ih fuel (by omega)
    simp only [membersEvents, List.cons_append, List.append_assoc]
    rw [members_key hm hs, hr]
    exact this
  | refused m hm hs hr =>
    simp only [membersEvents, List.cons_append, List.append_assoc]
    rw [members_key hm hs, hr]
    rfl

theorem length_le_membersEvents (ms : List (String × Tree)) :
    ms.length ≤ (membersEvents ms : List (Event Nat)).length := by
  induction ms with
  | nil => exact Nat.le_refl 0
  | cons m r ih =>
    obtain ⟨key, t⟩ := m
    simp [membersEvents]
    omega

/-- **A mapping is read member by member.** -/
theorem record (h : Drafts known d [] draft ms out) (r : List (Event Nat)) :
    Yaml.record known d draft ((Tree.mapping ms).events ++ r) =
      (out.1, if out.2 then some r else none) := by
  have hlen : ms.length ≤ (membersEvents ms : List (Event Nat)).length := length_le_membersEvents ms
  have hm := h.members (show ms.length < (membersEvents ms ++ Event.mappingEnd :: r).length + 1 by
    rw [List.length_append]
    omega) r
  simpa [Tree.events, Yaml.record, mapping] using hm

/-- **What a text holds that was written** is what its members make of a draft. -/
theorem decode {draft : σ} (h : Drafts known ⟨(Tree.mapping ms).events, [], true⟩ [] draft ms out) :
    Document.decode known draft ⟨(Tree.mapping ms).events, [], true⟩ = out := by
  have hr := h.record []
  rw [List.append_nil] at hr
  rw [Document.decode, hr]
  obtain ⟨draft', ok⟩ := out
  cases ok <;> rfl

end Drafts

end FunctionLoad.Yaml
