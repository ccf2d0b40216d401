import FunctionLoad.Invocation.Request
import FunctionLoad.Payload.Input
import FunctionLoad.Proofs.Payload.Sentences

/-!
# How large bodies are

A payload has a bounded number of sentences or of rows, so the size of its body is counted as it is.

* `length_digits_le`, `length_quotedChars_le`: printed numbers and texts.
* `Value.length_chars_list_le`, `Value.length_chars_object_le`: printed lists and objects, given how
  long their parts are.
* `WordStats.length_text_le`, `Row.length_chars_le`, `Input.length_chars_le`: payloads.
* **`utf8ByteSize_envelope_lt`**: no body takes a mebibyte.
-/

namespace FunctionLoad

open FunctionLoad.Text FunctionLoad.Decimal

/-! ## Printed numbers and texts -/

theorem length_flatMap_le {α β : Type} {f : α → List β} {l : List α} {k : Nat}
    (h : ∀ a ∈ l, (f a).length ≤ k) : (l.flatMap f).length ≤ k * l.length := by
  induction l with
  | nil => exact Nat.zero_le _
  | cons a l ih =>
    rw [List.forall_mem_cons] at h
    rw [List.flatMap_cons, List.length_append, List.length_cons, Nat.mul_succ, Nat.add_comm]
    exact Nat.add_le_add (ih h.2) h.1

namespace Decimal

theorem length_digitsBefore_le {k : Nat} : ∀ {n : Nat} (rest : List Char), n < 10 ^ (k + 1) →
    (digitsBefore n rest).length ≤ k + 1 + rest.length := by
  induction k with
  | zero =>
    intro n rest h
    rw [digitsBefore, if_pos (by simpa using h), List.length_cons]
    omega
  | succ k ih =>
    intro n rest h
    rw [digitsBefore]
    split
    · rw [List.length_cons]
      omega
    · have hn : n / 10 < 10 ^ (k + 1) := by
        rw [Nat.pow_succ] at h
        omega
      refine (ih _ hn).trans ?_
      rw [List.length_cons]
      omega

/-- A number of 64 bits has at most twenty digits. -/
theorem length_digits_le (n : UInt64) : (digits n.toNat).length ≤ 20 :=
  length_digitsBefore_le [] (Nat.lt_trans n.toNat_lt_size (by decide))

end Decimal

namespace Json

theorem length_escape_le (c : Char) : (escape c).length ≤ 6 := by
  unfold escape
  split_ifs <;> simp [hexPadded]

theorem length_quotedChars_le (s : String) : (quotedChars s).length ≤ 6 * s.length + 2 := by
  have h := length_flatMap_le (l := s.toList) fun c _ => length_escape_le c
  rw [String.length_toList] at h
  rw [quotedChars, List.length_append, List.length_cons, List.length_singleton]
  omega

/-! ## Printed lists and objects -/

theorem length_intercalate_le {α : Type} (sep : List α) {ls : List (List α)} {k : Nat}
    (h : ∀ l ∈ ls, l.length ≤ k) :
    (List.intercalate sep ls).length ≤ ls.length * (k + sep.length) := by
  by_cases hl : ls = []
  · rw [hl]
    exact Nat.zero_le _
  · -- one more separator at the end makes all parts alike
    have hsum : (ls.flatMap (· ++ sep)).length ≤ (k + sep.length) * ls.length := by
      refine length_flatMap_le fun l hm => ?_
      rw [List.length_append]
      exact Nat.add_le_add_right (h l hm) _
    rw [← intercalate_append sep hl, List.length_append, Nat.mul_comm] at hsum
    omega

namespace Value

theorem length_chars_list_le {items : List Value} {k : Nat} (h : ∀ v ∈ items, v.chars.length ≤ k) :
    (list items).chars.length ≤ items.length * (k + 1) + 2 := by
  have hi := length_intercalate_le [','] (List.forall_mem_map.mpr h)
  rw [List.length_map, List.length_singleton] at hi
  rw [chars, itemsChars_eq_map, List.length_append, List.length_cons, List.length_singleton]
  omega

theorem length_chars_object_le {members : List (String × Value)} {j k : Nat}
    (h : ∀ m ∈ members, m.1.length ≤ j ∧ m.2.chars.length ≤ k) :
    (object members).chars.length ≤ members.length * (6 * j + k + 3 + 1) + 2 := by
  have hm : ∀ m ∈ members, (quotedChars m.1 ++ ':' :: m.2.chars).length ≤ 6 * j + k + 3 := by
    intro m hm
    have hq := length_quotedChars_le m.1
    obtain ⟨hj, hk⟩ := h m hm
    rw [List.length_append, List.length_cons]
    omega
  have hi := length_intercalate_le [','] (List.forall_mem_map.mpr hm)
  rw [List.length_map, List.length_singleton] at hi
  rw [chars, membersChars_eq_map, List.length_append, List.length_cons, List.length_singleton]
  omega

theorem length_chars_nat_le (n : UInt64) : (Value.nat n).chars.length ≤ 20 :=
  length_digits_le n

end Value

/-- A character takes at most four bytes. -/
theorem utf8Len_le (cs : List Char) : String.utf8Len cs ≤ 4 * cs.length := by
  induction cs with
  | nil => exact Nat.zero_le _
  | cons c cs ih =>
    have hc := c.utf8Size_le_four
    rw [String.utf8Len, List.length_cons]
    omega

end Json

open FunctionLoad.Json

namespace Payload

/-! ## Texts -/

namespace WordStats

theorem length_phrase_le : ∀ r < 7, (phrase r).length ≤ 40 := by decide +kernel

theorem length_sentence_le (seed i : ℕ) : (sentence seed i).length ≤ 40 := by
  rw [sentence_eq_phrase]
  exact length_phrase_le _ (slotOf_lt (by decide) seed i)

theorem length_text_le (seed : ℕ) : (ofSeed seed).text.length ≤ 1200 := by
  have hs : ∀ l ∈ (sentences seed).map String.toList, l.length ≤ 40 := by
    refine List.forall_mem_map.mpr fun s hs => ?_
    obtain ⟨i, -, rfl⟩ := mem_sentences_iff.mp hs
    rw [String.length_toList]
    exact length_sentence_le seed i
  have hi := length_intercalate_le ['.', ' '] hs
  have hn := length_sentences_le seed
  have ht : (ofSeed seed).text.length =
      (List.intercalate ['.', ' '] ((sentences seed).map String.toList)).length + 1 := by
    rw [ofSeed, ← String.length_toList, String.toList_append, String.toList_intercalate,
      List.length_append]
    rfl
  rw [List.length_map] at hi
  have hm := Nat.mul_le_mul_right (40 + ['.', ' '].length) hn
  rw [ht]
  exact Nat.succ_le_succ (hi.trans hm) |>.trans (by decide)

theorem length_chars_le (seed : ℕ) : (ofSeed seed).toValue.chars.length ≤ 20000 := by
  have ht : (Value.text (ofSeed seed).text).chars.length ≤ 6 * 1200 + 2 :=
    (length_quotedChars_le _).trans (by have := length_text_le seed; omega)
  have hn := Value.length_chars_nat_le (ofSeed seed).top.toUInt64
  refine (Value.length_chars_object_le (j := 4) (k := 6 * 1200 + 2) ?_).trans (by simp)
  simp only [List.forall_mem_cons]
  exact ⟨⟨by decide, ht⟩, ⟨by decide, hn.trans (by decide)⟩, List.forall_mem_nil _⟩

end WordStats

/-! ## Tables -/

theorem length_chars_nameValue_le {α : Type} [Named α] (a : α) (h : (Named.name a).length ≤ 10) :
    (nameValue a).chars.length ≤ 62 :=
  (length_quotedChars_le _).trans (by omega)

theorem Row.length_chars_le (r : Row) : r.toValue.chars.length ≤ 1000 := by
  have hdept := length_chars_nameValue_le r.dept (by cases r.dept <;> decide)
  have hregion := length_chars_nameValue_le r.region (by cases r.region <;> decide)
  have htier := length_chars_nameValue_le r.tier (by cases r.tier <;> decide)
  have hnat (n : UInt64) : (Value.nat n).chars.length ≤ 62 :=
    (Value.length_chars_nat_le n).trans (by decide)
  refine (Value.length_chars_object_le (j := 6) (k := 62) ?_).trans (by simp)
  simp only [List.forall_mem_cons]
  exact ⟨⟨by decide, hdept⟩, ⟨by decide, hregion⟩, ⟨by decide, htier⟩, ⟨by decide, hnat _⟩,
    ⟨by decide, hnat _⟩, ⟨by decide, hnat _⟩, List.forall_mem_nil _⟩

theorem JsonTransform.length_chars_le (x : JsonTransform) (h : x.rows.length ≤ 31) :
    x.toValue.chars.length ≤ 130000 := by
  have hdata : (Value.list (x.rows.map Row.toValue)).chars.length ≤ 32000 := by
    have hr : ∀ v ∈ x.rows.map Row.toValue, v.chars.length ≤ 1000 :=
      List.forall_mem_map.mpr fun r _ => Row.length_chars_le r
    have hl := Value.length_chars_list_le hr
    rw [List.length_map] at hl
    omega
  have hname {n : ℕ} (hn : n ≤ 62) : n ≤ 32000 := hn.trans (by decide)
  have hgroup := length_chars_nameValue_le x.groupBy (by cases x.groupBy <;> decide)
  have hoperation := length_chars_nameValue_le x.operation (by cases x.operation <;> decide)
  have hfield (f : ValueField) := length_chars_nameValue_le f (by cases f <;> decide)
  rw [toValue]
  refine (Value.length_chars_object_le (j := 10) (k := 32000) ?_).trans (by cases x.valueField <;> simp)
  cases x.valueField with
  | none =>
    simp only [List.append_nil, List.forall_mem_cons]
    exact ⟨⟨by decide, hdata⟩, ⟨by decide, hname hgroup⟩, ⟨by decide, hname hoperation⟩,
      List.forall_mem_nil _⟩
  | some f =>
    simp only [List.cons_append, List.nil_append, List.forall_mem_cons]
    exact ⟨⟨by decide, hdata⟩, ⟨by decide, hname hgroup⟩, ⟨by decide, hname hoperation⟩,
      ⟨by decide, hname (hfield f)⟩, List.forall_mem_nil _⟩

theorem JsonTransform.length_rows_le (seed : ℕ) : (ofSeed seed).rows.length ≤ 31 := by
  rw [ofSeed, List.length_map, List.length_range, rowCount]
  omega

/-! ## Bodies -/

theorem Input.length_chars_le (w : Workload) (seed : UInt64) :
    (ofSeed w seed).toValue.chars.length ≤ 130000 := by
  cases w with
  | wordStats => exact (WordStats.length_chars_le _).trans (by decide)
  | jsonTransform => exact JsonTransform.length_chars_le _ (JsonTransform.length_rows_le _)

/-- **No body takes a mebibyte.** -/
theorem utf8ByteSize_envelope_lt (w : Workload) (seed : UInt64) :
    (Invocation.envelope (Input.ofSeed w seed).toValue).compact.utf8ByteSize < 2 ^ 20 := by
  have hx := Input.length_chars_le w seed
  have he : (Invocation.envelope (Input.ofSeed w seed).toValue).chars.length ≤ 140000 := by
    refine (Value.length_chars_object_le (j := 5) (k := 130000) ?_).trans (by simp)
    rw [List.forall_mem_singleton]
    exact ⟨(by decide : "input".length ≤ 5), hx⟩
  have hb := utf8Len_le (Invocation.envelope (Input.ofSeed w seed).toValue).chars
  rw [Value.compact, String.utf8ByteSize_ofList]
  omega

/-- The size of a body is counted as it is. -/
theorem toNat_size_envelope (w : Workload) (seed : UInt64) :
    (Invocation.size (Invocation.envelope (Input.ofSeed w seed).toValue).compact).toNat =
      (Invocation.envelope (Input.ofSeed w seed).toValue).compact.utf8ByteSize := by
  have h := utf8ByteSize_envelope_lt w seed
  exact UInt64.toNat_ofNat_of_lt' (h.trans (by decide))

end Payload

end FunctionLoad
