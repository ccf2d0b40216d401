import FunctionLoad.Proofs.Url.Domain
import FunctionLoad.Url.Host

/-!
# Hosts that end in a blank

* `toNat_eq_of_getLast?`, `toList_fromUTF8?`: a last byte of ASCII is a last character.
* `Percent.decode?_concat`: a blank at the end of a text with escaped bytes stays there.
* **`Host.ofWeb_concat`**: no host of the web ends in a blank.
-/

namespace FunctionLoad.Url

open FunctionLoad.Text

variable {c : Char}

/-! ## Bytes -/

/-- All but the first byte of a character are beyond ASCII, so a last byte of ASCII is all of it. -/
theorem toNat_eq_of_getLast? {x : UInt8} (hx : x.toNat < 0x80)
    (h : (String.utf8EncodeChar c).getLast? = some x) : c.toNat = x.toNat := by
  have hn (n : Nat) : UInt8.ofNat (n % 64 + 0x80) ≠ x := by
    intro he
    have ht := congrArg UInt8.toNat he
    rw [UInt8.toNat_ofNat_of_lt' (by unfold UInt8.size; omega)] at ht
    omega
  unfold String.utf8EncodeChar at h
  dsimp only at h
  split_ifs at h with h1 h2 h3
  · cases h
    exact (UInt8.toNat_ofNat_of_lt' (Nat.lt_of_le_of_lt h1 (by decide))).symm
  · exact absurd (Option.some.inj h) (hn _)
  · exact absurd (Option.some.inj h) (hn _)
  · exact absurd (Option.some.inj h) (hn _)

/-- **A last byte of ASCII is a last character.** -/
theorem toList_fromUTF8? (hc : c.toNat < 0x80) {bs : List UInt8} {s : String}
    (h : String.fromUTF8? ⟨(bs ++ utf8 c).toArray⟩ = some s) : ∃ front, s.toList = front ++ [c] := by
  have hu : utf8 c = [c.toNat.toUInt8] := if_pos hc
  have hx : c.toNat.toUInt8.toNat = c.toNat :=
    UInt8.toNat_ofNat_of_lt' (by unfold UInt8.size; omega)
  have hs : s.toByteArray = ⟨(bs ++ utf8 c).toArray⟩ := by
    unfold String.fromUTF8? at h
    split_ifs at h
    exact congrArg String.toByteArray (Option.some.inj h).symm
  have hl : s.toList.flatMap String.utf8EncodeChar = bs ++ [c.toNat.toUInt8] := by
    have hd := congrArg ByteArray.data hs
    rw [← String.utf8Encode_toList, List.utf8Encode, List.data_toByteArray, hu] at hd
    exact congrArg Array.toList hd
  obtain hn | ⟨front, d, hd⟩ := List.eq_nil_or_concat s.toList
  · rw [hn] at hl
    exact absurd hl.symm (List.append_ne_nil_of_right_ne_nil bs (List.cons_ne_nil _ _))
  · rw [hd, List.concat_eq_append, List.flatMap_append, List.flatMap_singleton] at hl
    have hb : (String.utf8EncodeChar d).getLast? = some c.toNat.toUInt8 := by
      have hg := congrArg List.getLast? hl
      rw [List.getLast?_concat, List.getLast?_append] at hg
      cases ho : (String.utf8EncodeChar d).getLast? with
      | none => exact absurd (List.getLast?_eq_none_iff.mp ho) String.utf8EncodeChar_ne_nil
      | some x =>
        rw [ho] at hg
        exact hg
    have hdc : d.toNat = c.toNat := (toNat_eq_of_getLast? (by omega) hb).trans hx
    refine ⟨front, ?_⟩
    rw [hd, List.concat_eq_append, Char.toNat_inj.mp hdc]

/-- A blank is no digit. -/
theorem hexValue?_blank (h : c.toNat ≤ 0x20) : hexValue? c = none := by
  unfold hexValue?
  simp only [Bool.and_eq_true, decide_eq_true_eq]
  rw [if_neg (by omega), if_neg (by omega), if_neg (by omega)]

namespace Percent

/-- A character that is no digit is not part of an escaped byte. -/
theorem bytes_concat (h : hexValue? c = none) (cs : List Char) :
    bytes (cs ++ [c]) = bytes cs ++ utf8 c := by
  fun_induction bytes cs with
  | case1 a b r x y hy hx ih =>
    rw [List.cons_append, List.cons_append, List.cons_append, bytes, hx, hy, ih, List.cons_append]
  | case2 a b r hn ih =>
    rw [List.cons_append, List.cons_append, List.cons_append, bytes, List.append_assoc, ← ih]
    split
    · next x y hx hy => exact absurd (hn x y hx hy) id
    · rfl
  | case3 d r hn ih =>
    rw [List.append_assoc, ← ih, List.cons_append]
    match r, hn with
    | [], _ =>
      rw [List.nil_append, bytes.eq_2]
      rintro a b r - he
      cases he
    | [a], _ =>
      by_cases hd : d = '%'
      · subst hd
        rw [List.cons_append, List.nil_append, bytes, h]
        split
        · next hy => cases hy
        · rfl
      · exact bytes.eq_2 d _ fun _ _ _ he _ => hd he
    | a :: b :: r, hn => exact bytes.eq_2 d _ fun _ _ _ he _ => hn a b r he rfl
  | case4 =>
    rw [List.nil_append, List.nil_append, bytes.eq_2, bytes, List.append_nil]
    rintro a b r - he
    cases he

/-- A blank at the end of a text with escaped bytes stays there. -/
theorem decode?_concat (h : c.toNat ≤ 0x20) {cs decoded : List Char}
    (hd : decode? (cs ++ [c]) = some decoded) : ∃ front, decoded = front ++ [c] := by
  unfold decode? at hd
  split_ifs at hd
  · rw [bytes_concat (hexValue?_blank h)] at hd
    obtain ⟨s, hs, rfl⟩ := Option.map_eq_some_iff.mp hd
    exact toList_fromUTF8? (by omega) hs
  · exact ⟨cs, (Option.some.inj hd).symm⟩

end Percent

/-! ## Hosts -/

/-- A text that ends in a blank is no address in brackets. -/
theorem Host.bracketed?_concat (h : c.toNat ≤ 0x20) (cs : List Char) :
    bracketed? (cs ++ [c]) = none ∨ bracketed? (cs ++ [c]) = some (.error .invalidIpv6) := by
  unfold bracketed?
  split
  · next r hr =>
    refine Or.inr ?_
    split
    · next inner hi =>
      have hl := congrArg List.getLast? hr
      rw [List.getLast?_concat, ← List.reverse_reverse r, hi, List.reverse_cons, ← List.cons_append,
        List.getLast?_concat] at hl
      exact absurd (Option.some.inj hl) (Domain.ne_of_blank h (by decide))
    · rfl
  · exact Or.inl rfl

/-- **No host of the web ends in a blank.** -/
theorem Host.ofWeb_concat (h : c.toNat ≤ 0x20) (cs : List Char) :
    ∃ e, Host.ofWeb (cs ++ [c]) = .error e := by
  unfold Host.ofWeb
  rcases bracketed?_concat h cs with hb | hb
  · rw [hb]
    refine ⟨.invalidDomainName, ?_⟩
    cases hd : Percent.decode? (cs ++ [c]) with
    | none => rfl
    | some decoded =>
      obtain ⟨front, rfl⟩ := Percent.decode?_concat h hd
      rw [Option.bind_some, Domain.toAscii?_concat h]
  · exact ⟨.invalidIpv6, by rw [hb]⟩

end FunctionLoad.Url
