import FunctionLoad.Proofs.Text.Trim
import FunctionLoad.Text.LowerCase
import Mathlib.Tactic.SplitIfs

/-!
# Trimmed texts in lower case

Lower case may take several characters, and looks at what stands around a capital sigma. But no small
letter is a blank, an ASCII capital or the Kelvin sign, and of the other characters only that sign has
an ASCII small letter. So a text that is trimmed and in lower case stays so, as long as what comes out
is ASCII.

* `reserved`, `runs_avoid_reserved`, `toNat_of_run`: code points that are no small letters.
* `IsLowerOf`, `lowerAfter_cons`: what may stand for a character in lower case.
* `isBlank_of_isLowerOf`, `lowerChar_eq_self`: it is no new blank, and is in lower case itself.
* **`trim_lower_trim`**, **`lower_lower_of_ascii`**: the same of texts.
* `lower_eq_empty_iff`: texts of which nothing is left.
-/

namespace FunctionLoad.Text

open FunctionLoad.Text.LowerCase

/-! ## Small letters -/

theorem toNat_ofNat_of_isValidChar {n : ℕ} (h : n.isValidChar) : (Char.ofNat n).toNat = n := by
  rw [Char.ofNat, dif_pos h]
  rfl

theorem toNat_lowerAscii (c : Char) : (lowerAscii c).toNat =
    if 65 ≤ c.toNat ∧ c.toNat ≤ 90 then c.toNat + 32 else c.toNat := by
  have hA : ('A' ≤ c && c ≤ 'Z') = true ↔ 65 ≤ c.toNat ∧ c.toNat ≤ 90 := by
    simp only [Bool.and_eq_true, decide_eq_true_eq, Char.le_def, UInt32.le_iff_toNat_le]
    exact Iff.rfl
  unfold lowerAscii
  by_cases h : 65 ≤ c.toNat ∧ c.toNat ≤ 90
  · rw [if_pos (hA.mpr h), if_pos h, toNat_ofNat_of_isValidChar (.inl (by omega))]
  · rw [if_neg (fun hc => h (hA.mp hc)), if_neg h]

/-- Code points that are no small letters: those up to the ASCII capitals, the blanks, the Kelvin sign
and the surrogates. -/
def reserved : Ranges :=
  [(0, 0x60), (0x85, 0x85), (0xA0, 0xA0), (0x1680, 0x1680), (0x2000, 0x212A), (0x3000, 0x3000),
    (0xD800, 0xDFFF)]

theorem holds_reserved_eq_false_iff {d : Char} :
    reserved.holds d = false ↔ ∀ p ∈ reserved, d.toNat < p.1 ∨ p.2 < d.toNat := by
  simp only [Ranges.holds, Ranges.holdsCode, List.any_eq_false, Bool.and_eq_true, decide_eq_true_eq]
  refine forall₂_congr fun p _ => ?_
  omega

theorem holds_reserved_of_isBlank {d : Char} (h : isBlank d = true) : reserved.holds d = true := by
  simp only [isBlank, Bool.or_eq_true, Bool.and_eq_true, decide_eq_true_eq, beq_iff_eq] at h
  simp only [Ranges.holds, Ranges.holdsCode, reserved, List.any_cons, List.any_nil, Bool.or_eq_true,
    Bool.and_eq_true, decide_eq_true_eq]
  omega

theorem runs_avoid_reserved : ∀ r ∈ runs, 0 ≤ r.first + r.distance ∧
    r.last + r.distance < 0x110000 ∧
      ∀ p ∈ reserved, r.last + r.distance < p.1 ∨ (p.2 : Int) < r.first + r.distance := by
  decide +kernel

/-- Only the ASCII capitals and the Kelvin sign have ASCII small letters. -/
theorem runs_to_ascii : ∀ r ∈ runs, r.first + r.distance < 128 →
    r.last < 128 ∨ r.first = 0x212A ∧ r.last = 0x212A := by
  decide +kernel

theorem of_run?_eq_some {n : ℕ} {r : Run} (h : run? n = some r) :
    r ∈ runs ∧ r.first ≤ n ∧ n ≤ r.last := by
  have hn := List.find?_some h
  simp only [Bool.and_eq_true, decide_eq_true_eq] at hn
  exact ⟨List.mem_of_find?_eq_some h, hn.1.1, hn.1.2⟩

/-- The small letter that a run gives to a code point. -/
theorem toNat_of_run {n : ℕ} {r : Run} (h : run? n = some r) :
    ((Char.ofNat ((n : Int) + r.distance).toNat).toNat : Int) = n + r.distance ∧
      reserved.holds (Char.ofNat ((n : Int) + r.distance).toNat) = false := by
  obtain ⟨hr, hfirst, hlast⟩ := of_run?_eq_some h
  obtain ⟨hlow, hhigh, havoid⟩ := runs_avoid_reserved r hr
  have hsurrogate := havoid (0xD800, 0xDFFF) (by decide)
  have hvalid : ((n : Int) + r.distance).toNat.isValidChar := by
    unfold Nat.isValidChar
    omega
  rw [holds_reserved_eq_false_iff, toNat_ofNat_of_isValidChar hvalid]
  refine ⟨by omega, fun p hp => ?_⟩
  have := havoid p hp
  omega

/-- What may stand for a character in lower case. -/
def IsLowerOf (c d : Char) : Prop :=
  if c.toNat = 0x3A3 then d.toNat = 0x3C2 ∨ d.toNat = 0x3C3 else d ∈ lowerChar c

theorem isLowerOf_cases {c d : Char} (h : IsLowerOf c d) :
    c.toNat < 128 ∧ d = lowerAscii c ∨ d = c ∧ 128 ≤ c.toNat ∧ run? c.toNat = none ∨
      reserved.holds d = false := by
  unfold IsLowerOf at h
  split_ifs at h with hs
  · right; right
    rw [Ranges.holds]
    rcases h with h | h <;> rw [h] <;> decide
  · unfold lowerChar at h
    split_ifs at h with ha hi
    · exact .inl ⟨ha, List.mem_singleton.mp h⟩
    · right; right
      rcases List.mem_cons.mp h with rfl | h
      · decide
      · rw [List.mem_singleton.mp h]
        decide
    · cases hr : run? c.toNat with
      | none =>
        rw [hr] at h
        exact .inr (.inl ⟨List.mem_singleton.mp h, Nat.le_of_not_lt ha, rfl⟩)
      | some r =>
        rw [hr] at h
        rw [List.mem_singleton.mp h]
        exact .inr (.inr (toNat_of_run hr).2)

/-- **A small letter is a blank only if it stands for one.** -/
theorem isBlank_of_isLowerOf {c d : Char} (h : IsLowerOf c d) (hd : isBlank d = true) :
    isBlank c = true := by
  have hr := holds_reserved_of_isBlank hd
  rcases isLowerOf_cases h with ⟨-, rfl⟩ | ⟨rfl, -⟩ | hn
  · by_cases hc : 65 ≤ c.toNat ∧ c.toNat ≤ 90
    · -- the small letters of the ASCII capitals are not reserved
      have ht := toNat_lowerAscii c
      rw [if_pos hc] at ht
      have hn : reserved.holds (lowerAscii c) = false := by
        rw [holds_reserved_eq_false_iff, ht]
        simp only [reserved, List.forall_mem_cons]
        refine ⟨?_, ?_, ?_, ?_, ?_, ?_, ?_, List.forall_mem_nil _⟩ <;> omega
      simp [hn] at hr
    · have ht := toNat_lowerAscii c
      rw [if_neg hc, Char.toNat_inj] at ht
      rwa [ht] at hd
  · exact hd
  · simp [hn] at hr

/-- **A small letter is in lower case itself**, as long as that is ASCII. -/
theorem lowerChar_eq_self {c d : Char} (h : IsLowerOf c d)
    (ha : ∀ e ∈ lowerChar d, e.toNat < 128) : lowerChar d = [d] := by
  unfold lowerChar at ha ⊢
  split_ifs at ha ⊢ with hd hi
  · -- an ASCII letter, which is no capital
    have ht := toNat_lowerAscii d
    have hc : ¬ (65 ≤ d.toNat ∧ d.toNat ≤ 90) := by
      rcases isLowerOf_cases h with ⟨-, rfl⟩ | ⟨rfl, hc, -⟩ | hn
      · have := toNat_lowerAscii c
        split_ifs at this <;> omega
      · omega
      · have := holds_reserved_eq_false_iff.mp hn (0, 0x60) (by decide)
        omega
    rw [if_neg hc, Char.toNat_inj] at ht
    rw [ht]
  · exact absurd (ha (Char.ofNat 0x307) (by simp)) (by decide)
  · cases hr : run? d.toNat with
    | none => rfl
    | some r =>
      -- only the Kelvin sign is left, and it stands for nothing
      rw [hr] at ha
      have hsmall := ha _ List.mem_cons_self
      obtain ⟨hmem, hfirst, hlast⟩ := of_run?_eq_some hr
      have hk : d.toNat = 0x212A := by
        have := runs_to_ascii r hmem (by have := (toNat_of_run hr).1; omega)
        omega
      rcases isLowerOf_cases h with ⟨hc, rfl⟩ | ⟨rfl, -, hn⟩ | hn
      · have := toNat_lowerAscii c
        split_ifs at this <;> omega
      · simp [hr] at hn
      · have := holds_reserved_eq_false_iff.mp hn (0x2000, 0x212A) (by decide)
        omega

/-! ## Texts -/

/-- The lower case of a text is that of its first character, and of the rest behind it. -/
theorem lowerAfter_cons (before : List Char) (c : Char) (r : List Char) :
    ∃ small, small ≠ [] ∧ (∀ d ∈ small, IsLowerOf c d) ∧ (c.toNat ≠ 0x3A3 → small = lowerChar c) ∧
      lowerAfter before (c :: r) = small ++ lowerAfter (c :: before) r := by
  refine ⟨_, ?_, ?_, ?_, rfl⟩
  · split_ifs with hs hm
    · exact List.cons_ne_nil _ _
    · exact List.cons_ne_nil _ _
    · unfold lowerChar
      split_ifs
      · exact List.cons_ne_nil _ _
      · exact List.cons_ne_nil _ _
      · cases run? c.toNat <;> exact List.cons_ne_nil _ _
  · intro d hd
    unfold IsLowerOf
    split_ifs at hd ⊢ with hs hm
    · exact .inl (by rw [List.mem_singleton.mp hd]; decide)
    · exact .inr (by rw [List.mem_singleton.mp hd]; decide)
    · exact hd
  · intro hs
    exact if_neg hs

theorem exists_isLowerOf {before cs : List Char} {d : Char} (h : d ∈ lowerAfter before cs) :
    ∃ c, IsLowerOf c d := by
  induction cs generalizing before with
  | nil => exact absurd h List.not_mem_nil
  | cons c r ih =>
    obtain ⟨small, -, hsmall, -, he⟩ := lowerAfter_cons before c r
    rw [he, List.mem_append] at h
    rcases h with h | h
    · exact ⟨c, hsmall d h⟩
    · exact ih h

theorem lowerAfter_eq_self {before ds : List Char} (h : ∀ d ∈ ds, ∃ c, IsLowerOf c d)
    (ha : ∀ e ∈ lowerAfter before ds, e.toNat < 128) : lowerAfter before ds = ds := by
  induction ds generalizing before with
  | nil => rfl
  | cons d r ih =>
    obtain ⟨small, hne, hsmall, hchar, he⟩ := lowerAfter_cons before d r
    rw [List.forall_mem_cons] at h
    rw [he, List.forall_mem_append] at ha
    have hd : d.toNat ≠ 0x3A3 := by
      intro hs
      obtain ⟨e, he⟩ := List.exists_mem_of_ne_nil small hne
      have hlower := hsmall e he
      rw [IsLowerOf, if_pos hs] at hlower
      have := ha.1 e he
      omega
    obtain ⟨c, hc⟩ := h.1
    obtain rfl := hchar hd
    rw [he, lowerChar_eq_self hc ha.1, ih h.2 ha.2]
    rfl

theorem lowerAfter_eq_nil_iff {before cs : List Char} : lowerAfter before cs = [] ↔ cs = [] := by
  cases cs with
  | nil => exact Iff.rfl
  | cons c r =>
    obtain ⟨small, hne, -, -, he⟩ := lowerAfter_cons before c r
    simp [he, hne]

/-- The first letter of a text in lower case stands for the first character of the text. -/
theorem exists_head?_lowerAfter {before cs : List Char} {d : Char}
    (h : d ∈ (lowerAfter before cs).head?) : ∃ c ∈ cs.head?, IsLowerOf c d := by
  cases cs with
  | nil => cases h
  | cons c r =>
    obtain ⟨small, hne, hsmall, -, he⟩ := lowerAfter_cons before c r
    rw [he, List.head?_append_of_ne_nil _ hne] at h
    exact ⟨c, rfl, hsmall d (List.mem_of_mem_head? h)⟩

/-- The last letter stands for the last character. -/
theorem exists_getLast?_lowerAfter {before cs : List Char} {d : Char}
    (h : d ∈ (lowerAfter before cs).getLast?) : ∃ c ∈ cs.getLast?, IsLowerOf c d := by
  induction cs generalizing before with
  | nil => cases h
  | cons c r ih =>
    obtain ⟨small, -, hsmall, -, he⟩ := lowerAfter_cons before c r
    rw [he] at h
    cases r with
    | nil =>
      rw [lowerAfter, List.append_nil] at h
      exact ⟨c, rfl, hsmall d (List.mem_of_mem_getLast? h)⟩
    | cons c' r =>
      have hrest : lowerAfter (c :: before) (c' :: r) ≠ [] := by
        rw [Ne, lowerAfter_eq_nil_iff]
        exact List.cons_ne_nil c' r
      rw [List.getLast?_append_of_ne_nil _ hrest] at h
      rw [List.getLast?_cons_cons]
      exact ih h

theorem isTrimmed_lowerAfter {before cs : List Char} (h : IsTrimmed cs) :
    IsTrimmed (lowerAfter before cs) := by
  -- a letter that stands for the first or the last character is no blank, as that is none
  have hsmall {c d : Char} (hc : isBlank c = false) (hd : IsLowerOf c d) : isBlank d = false :=
    Bool.eq_false_iff.mpr fun hb => Bool.eq_false_iff.mp hc (isBlank_of_isLowerOf hd hb)
  constructor
  · intro d hd
    obtain ⟨c, hc, hlower⟩ := exists_head?_lowerAfter hd
    exact hsmall (h.head c hc) hlower
  · intro d hd
    obtain ⟨c, hc, hlower⟩ := exists_getLast?_lowerAfter hd
    exact hsmall (h.last c hc) hlower

theorem toList_lower (s : String) : (lower s).toList = lowerAfter [] s.toList := by
  rw [lower, String.toList_ofList]

theorem lower_eq_empty_iff (s : String) : lower s = "" ↔ s = "" := by
  rw [← String.toList_inj, ← String.toList_inj, toList_lower]
  exact lowerAfter_eq_nil_iff

/-- **A trimmed text is trimmed in lower case.** -/
theorem trim_lower_trim (s : String) : trim (lower (trim s)) = lower (trim s) := by
  refine trim_eq_self ?_
  rw [toList_lower]
  exact isTrimmed_lowerAfter (isTrimmed_trim s)

/-- **A text in lower case stays as it is**, as long as what comes out is ASCII. -/
theorem lower_lower_of_ascii {s : String} (h : ∀ c ∈ (lower (lower s)).toList, c.toNat < 128) :
    lower (lower s) = lower s := by
  rw [← String.toList_inj, toList_lower (lower s)]
  rw [toList_lower (lower s)] at h
  refine lowerAfter_eq_self (fun d hd => ?_) h
  rw [toList_lower] at hd
  exact exists_isLowerOf hd

end FunctionLoad.Text
