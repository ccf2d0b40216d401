import FunctionLoad.Settings.PositiveNumber
import FunctionLoad.Proofs.Decimal
import FunctionLoad.Proofs.Text.Trim

/-!
# Which positive numbers texts start with

* `Opening`, `exists_opening`: a text as blanks, at most one sign, digits and a rest.
* `Opening.unsignedPart_eq`, **`Opening.positiveOr_eq`**: the number is that of the digits, unless their
  sign is a minus, there are none of them, or the number is zero or too large.
* `Opening.cutSign?_eq`, `Opening.digitCount_eq`, **`Opening.readPositive?_eq`**,
  **`readPositive?_some`**: byte by byte there is the same number, and no character is ever cut.
* `openingOfDecimal`, **`positiveOr_append`**, **`leadingNumber?_decimalInt`**: decimal forms are read
  back.
-/

namespace FunctionLoad.Settings

open FunctionLoad.Text FunctionLoad.Decimal

/-! ## Openings -/

/-- **How a text opens like a number**: blanks, at most one sign, digits, and the rest. Each of them is
as long as it can be. -/
structure Opening (text : String) where
  blanks : List Char
  sign : List Char
  digits : List Char
  rest : List Char
  toList_eq : text.toList = blanks ++ (sign ++ (digits ++ rest))
  isBlank_blanks : ∀ c ∈ blanks, isBlank c = true
  head_trimmed : ∀ c ∈ (sign ++ (digits ++ rest)).head?, isBlank c = false
  sign_cases : sign = ['-'] ∨ sign = ['+'] ∨
    sign = [] ∧ ∀ c ∈ (digits ++ rest).head?, c ≠ '-' ∧ c ≠ '+'
  isDigit_digits : ∀ c ∈ digits, isDigit c = true
  head_rest : ∀ c ∈ rest.head?, isDigit c = false

/-- Every text opens in some way. -/
theorem exists_opening (text : String) : Nonempty (Opening text) := by
  obtain ⟨sign, tail, htrim, hsign⟩ : ∃ sign tail, text.toList.dropWhile isBlank = sign ++ tail ∧
      (sign = ['-'] ∨ sign = ['+'] ∨ sign = [] ∧ ∀ c ∈ tail.head?, c ≠ '-' ∧ c ≠ '+') := by
    cases text.toList.dropWhile isBlank with
    | nil => exact ⟨[], [], rfl, .inr (.inr ⟨rfl, nofun⟩)⟩
    | cons c r =>
      by_cases hm : c = '-'
      · exact ⟨['-'], r, by rw [hm]; rfl, .inl rfl⟩
      · by_cases hp : c = '+'
        · exact ⟨['+'], r, by rw [hp]; rfl, .inr (.inl rfl)⟩
        · refine ⟨[], c :: r, rfl, .inr (.inr ⟨rfl, fun d hd => ?_⟩)⟩
          obtain rfl := Option.some.inj hd
          exact ⟨hm, hp⟩
  have htail := List.takeWhile_append_dropWhile (p := isDigit) (l := tail)
  exact ⟨{
    blanks := text.toList.takeWhile isBlank
    sign := sign
    digits := tail.takeWhile isDigit
    rest := tail.dropWhile isDigit
    toList_eq := by rw [htail, ← htrim, List.takeWhile_append_dropWhile]
    isBlank_blanks := fun c hc => List.mem_takeWhile_imp hc
    head_trimmed := by
      rw [htail, ← htrim]
      exact head?_dropWhile
    sign_cases := by
      rw [htail]
      exact hsign
    isDigit_digits := fun c hc => List.mem_takeWhile_imp hc
    head_rest := head?_dropWhile }⟩

namespace Opening

variable {text : String} (o : Opening text)

theorem toList_trimStart_eq : (trimStart text).toList = o.sign ++ (o.digits ++ o.rest) := by
  rw [toList_trimStart, o.toList_eq, dropWhile_append_of_head o.isBlank_blanks o.head_trimmed]

theorem takeWhile_eq : (o.digits ++ o.rest).takeWhile isDigit = o.digits :=
  takeWhile_append_of_head o.isDigit_digits o.head_rest

theorem unsignedPart_eq : unsignedPart text =
    if o.sign = ['-'] then none else some (o.digits ++ o.rest) := by
  have htrim := o.toList_trimStart_eq
  unfold unsignedPart
  rcases o.sign_cases with h | h | ⟨h, hhead⟩
  · rw [htrim, h]
    rfl
  · rw [htrim, h]
    rfl
  · rw [htrim, h, List.nil_append, if_neg nofun]
    split
    · next he => exact absurd rfl (hhead '-' (by rw [he]; rfl)).1
    · next he => exact absurd rfl (hhead '+' (by rw [he]; rfl)).2
    · rfl

/-- Whether the digits are those of a positive number that fits in 64 bits. -/
def IsPositive : Prop :=
  o.sign ≠ ['-'] ∧ o.digits ≠ [] ∧ 1 ≤ ofDigits 10 o.digits ∧ ofDigits 10 o.digits < UInt64.size

instance : Decidable o.IsPositive :=
  inferInstanceAs (Decidable (_ ∧ _))

theorem isPositive_iff (h : o.sign ≠ ['-']) :
    o.IsPositive ↔ 1 ≤ ofDigits 10 o.digits ∧ ofDigits 10 o.digits < UInt64.size := by
  -- no digits denote zero, so a positive number has digits
  have hne (hpos : 1 ≤ ofDigits 10 o.digits) : o.digits ≠ [] := by
    intro hnil
    rw [hnil] at hpos
    exact absurd hpos (by decide)
  exact ⟨fun hp => hp.2.2, fun hp => ⟨h, hne hp.1, hp⟩⟩

theorem leadingNumber?_eq : (unsignedPart text).bind leadingNumber? =
    if o.IsPositive then some (UInt64.ofNat (ofDigits 10 o.digits)) else none := by
  rw [o.unsignedPart_eq]
  by_cases hm : o.sign = ['-']
  · rw [if_pos hm, if_neg fun hp => hp.1 hm]
    rfl
  · rw [if_neg hm, Option.bind_some, leadingNumber?, o.takeWhile_eq,
      if_congr (o.isPositive_iff hm) rfl rfl]

/-- **The number that a text starts with is that of its digits**, if it is positive and fits in 64
bits. -/
theorem positiveOr_eq (fallback : UInt64) : positiveOr fallback text =
    if o.IsPositive then UInt64.ofNat (ofDigits 10 o.digits) else fallback := by
  rw [positiveOr, o.leadingNumber?_eq]
  split_ifs <;> rfl

end Opening

/-! ## Bytes -/

/-- A text has the byte of an ASCII character in front only if it has the character there. -/
theorem head?_bytes_ne {d : Char} (hd : d.toNat < 128) {cs : List Char}
    (h : ∀ c ∈ cs.head?, c ≠ d) : (bytes (String.ofList cs)).head? ≠ some d.toUInt8 := by
  have hbyte : d.toUInt8.toNat = d.toNat := by
    rw [Char.toUInt8, UInt32.toNat_toUInt8]
    exact Nat.mod_eq_of_lt (Nat.lt_trans hd (by decide))
  rw [bytes_ofList]
  cases cs with
  | nil => nofun
  | cons c r =>
    obtain ⟨b, bs, hb, hcases⟩ := exists_firstByte c
    rw [List.flatMap_cons, hb]
    intro he
    have hn := congrArg UInt8.toNat (Option.some.inj he)
    rw [hbyte] at hn
    rcases hcases with ⟨hc, -⟩ | ⟨-, hc⟩
    · exact h c rfl (Char.toNat_inj.mp (hc.symm.trans hn))
    · omega

theorem isDigitByte_iff {b : UInt8} : isDigitByte b = true ↔ 48 ≤ b.toNat ∧ b.toNat ≤ 57 := by
  rw [isDigitByte, Bool.and_eq_true, decide_eq_true_eq, decide_eq_true_eq, UInt8.le_iff_toNat_le,
    UInt8.le_iff_toNat_le]
  exact Iff.rfl

/-- **The bytes that are digits are those of the digits.** -/
theorem takeWhile_bytes (cs : List Char) : (bytes (String.ofList cs)).takeWhile isDigitByte =
    bytes (String.ofList (cs.takeWhile isDigit)) := by
  rw [bytes_ofList, bytes_ofList]
  -- a byte that is a digit is a whole character, since no other character starts with it
  induction cs with
  | nil => rfl
  | cons c r ih =>
    obtain ⟨b, bs, hb, hcases⟩ := exists_firstByte c
    rw [List.flatMap_cons, hb, List.cons_append]
    by_cases hc : isDigit c = true
    · have hrange := isDigit_iff.mp hc
      rcases hcases with ⟨heq, rfl⟩ | ⟨hle, -⟩
      · have hdigit : isDigitByte b = true := isDigitByte_iff.mpr (by omega)
        rw [List.takeWhile_cons_of_pos hdigit, List.takeWhile_cons_of_pos hc, List.flatMap_cons, hb,
          List.nil_append, ih]
        rfl
      · omega
    · have hdigit : ¬ isDigitByte b = true := by
        rw [isDigit_iff] at hc
        rw [isDigitByte_iff]
        omega
      rw [List.takeWhile_cons_of_neg hdigit, List.takeWhile_cons_of_neg hc]
      rfl

theorem digitCount_ofList (cs : List Char) :
    digitCount (String.ofList cs) = (String.ofList (cs.takeWhile isDigit)).utf8ByteSize := by
  rw [digitCount, takeWhile_bytes, length_bytes]

namespace Opening

variable {text : String} (o : Opening text)

theorem trimStart_eq : trimStart text = String.ofList (o.sign ++ (o.digits ++ o.rest)) := by
  rw [← o.toList_trimStart_eq, String.ofList_toList]

theorem cutSign?_eq : cutSign? (trimStart text) =
    some (decide (o.sign = ['-']), String.ofList (o.digits ++ o.rest)) := by
  rw [o.trimStart_eq]
  -- a sign is a character of one byte, so behind that byte there is a text
  rcases o.sign_cases with h | h | ⟨h, hhead⟩
  · have hdrop := dropBytes?_append (String.ofList ['-']) (String.ofList (o.digits ++ o.rest))
    rw [← String.ofList_append] at hdrop
    rw [h, cutSign?, if_pos (by rw [bytes_ofList]; rfl)]
    exact congrArg (Option.map (true, ·)) hdrop
  · have hdrop := dropBytes?_append (String.ofList ['+']) (String.ofList (o.digits ++ o.rest))
    rw [← String.ofList_append] at hdrop
    have hminus : (bytes (String.ofList ('+' :: (o.digits ++ o.rest)))).head? ≠ some '-'.toUInt8 :=
      head?_bytes_ne (by decide) (by simp)
    rw [h, cutSign?, List.singleton_append, if_neg hminus, if_pos (by rw [bytes_ofList]; rfl)]
    exact congrArg (Option.map (false, ·)) hdrop
  · have hminus := head?_bytes_ne (d := '-') (by decide) fun c hc => (hhead c hc).1
    have hplus := head?_bytes_ne (d := '+') (by decide) fun c hc => (hhead c hc).2
    rw [h, List.nil_append, cutSign?, if_neg hminus, if_neg hplus]
    rfl

theorem digitCount_eq : digitCount (String.ofList (o.digits ++ o.rest)) =
    (String.ofList o.digits).utf8ByteSize := by
  rw [digitCount_ofList, o.takeWhile_eq]

theorem takeBytes?_eq : takeBytes? (String.ofList o.digits).utf8ByteSize
    (String.ofList (o.digits ++ o.rest)) = some (String.ofList o.digits) := by
  rw [String.ofList_append]
  exact takeBytes?_append _ _

theorem skip_iff : (String.ofList o.digits).utf8ByteSize = 0 ∨ decide (o.sign = ['-']) = true ↔
    o.digits = [] ∨ o.sign = ['-'] := by
  rw [String.utf8ByteSize_eq_zero_iff, ← String.toList_inj, String.toList_ofList,
    String.toList_empty, decide_eq_true_eq]

theorem word?_eq (h : o.digits ≠ []) : word? (String.ofList o.digits) =
    if ofDigits 10 o.digits < UInt64.size then some (UInt64.ofNat (ofDigits 10 o.digits)) else none := by
  have hn : natural? 10 o.digits = some (ofDigits 10 o.digits) :=
    natural?_eq_some_iff.mpr ⟨[], _, rfl, .inl rfl, h, o.isDigit_digits, rfl⟩
  rw [word?, String.toList_ofList, hn, Option.bind_some]

theorem filter_word?_eq (h : o.digits ≠ []) : (word? (String.ofList o.digits)).filter (1 ≤ ·) =
    if 1 ≤ ofDigits 10 o.digits ∧ ofDigits 10 o.digits < UInt64.size then
      some (UInt64.ofNat (ofDigits 10 o.digits)) else none := by
  rw [o.word?_eq h]
  by_cases hsize : ofDigits 10 o.digits < UInt64.size
  · have hone : 1 ≤ UInt64.ofNat (ofDigits 10 o.digits) ↔ 1 ≤ ofDigits 10 o.digits := by
      rw [UInt64.le_iff_toNat_le, UInt64.toNat_ofNat_of_lt' hsize]
      rfl
    rw [if_pos hsize, Option.filter_some]
    simp only [hone, hsize, and_true, decide_eq_true_eq]
  · rw [if_neg hsize, if_neg fun h => hsize h.2, Option.filter_none]

/-- **Byte by byte there is the same number.** -/
theorem readPositive?_eq (fallback : UInt64) : readPositive? fallback (some text) =
    some (if o.IsPositive then UInt64.ofNat (ofDigits 10 o.digits) else fallback) := by
  -- an empty text is sorted out before it is read, but it has no digits either
  by_cases hempty : text = ""
  · subst hempty
    have hpos : ¬ o.IsPositive := fun hp => hp.2.1 <| by
      have hnil := o.toList_eq.symm
      simp only [String.toList_empty, List.append_eq_nil_iff] at hnil
      exact hnil.2.2.1
    rw [if_neg hpos]
    rfl
  · have hraw : (some text).filter (· != "") = some text := by simp [hempty]
    unfold readPositive?
    rw [hraw]
    dsimp only
    rw [o.cutSign?_eq, Option.bind_eq_bind, Option.bind_some]
    dsimp only
    rw [o.digitCount_eq, o.takeBytes?_eq, if_congr o.skip_iff rfl rfl]
    by_cases hskip : o.digits = [] ∨ o.sign = ['-']
    · rw [if_pos hskip, if_neg fun hp => hskip.elim hp.2.1 hp.1]
      rfl
    · rw [not_or] at hskip
      rw [if_neg (not_or.mpr hskip), Option.bind_eq_bind, Option.bind_some, o.filter_word?_eq hskip.1,
        if_congr (o.isPositive_iff hskip.2) rfl rfl]
      split_ifs <;> rfl

end Opening

/-- **No character is ever cut**, and byte by byte there is the same number. -/
theorem readPositive?_some (fallback : UInt64) (text : String) :
    readPositive? fallback (some text) = some (positiveOr fallback text) := by
  obtain ⟨o⟩ := exists_opening text
  rw [o.readPositive?_eq, o.positiveOr_eq]

/-! ## Decimal forms -/

theorem isBlank_of_isDigit {c : Char} (h : isDigit c = true) : isBlank c = false := by
  have := isDigit_iff.mp h
  simp [isBlank]
  omega

/-- How a number opens a text that it stands in: behind blanks and perhaps a sign, in front of anything
that is no digit. -/
def openingOfDecimal (blanks sign suffix : String) (n : Nat)
    (hblanks : ∀ c ∈ blanks.toList, isBlank c = true) (hsign : sign = "-" ∨ sign = "+" ∨ sign = "")
    (hsuffix : ∀ c ∈ suffix.toList.head?, isDigit c = false) :
    Opening (blanks ++ sign ++ decimal n ++ suffix) where
  blanks := blanks.toList
  sign := sign.toList
  digits := digits n
  rest := suffix.toList
  toList_eq := by simp only [String.toList_append, toList_decimal, List.append_assoc]
  isBlank_blanks := hblanks
  head_trimmed := by
    obtain ⟨c, r, hcr, hc⟩ := exists_digits_eq_cons n
    rw [hcr]
    rintro d hd
    rcases hsign with rfl | rfl | rfl <;> obtain rfl := Option.some.inj hd
    · decide
    · decide
    · exact isBlank_of_isDigit hc
  sign_cases := by
    rcases hsign with rfl | rfl | rfl
    · exact .inl rfl
    · exact .inr (.inl rfl)
    · refine .inr (.inr ⟨rfl, ?_⟩)
      obtain ⟨c, r, hcr, hc⟩ := exists_digits_eq_cons n
      rw [hcr]
      rintro d hd
      obtain rfl := Option.some.inj hd
      exact ⟨ne_of_isDigit hc (by decide), ne_of_isDigit hc (by decide)⟩
  isDigit_digits := isDigit_of_mem_digits
  head_rest := hsuffix

/-- **A positive number is found** in front of anything that is no digit, behind blanks and perhaps a
plus. -/
theorem positiveOr_append (fallback : UInt64) {blanks plus suffix : String}
    (hblanks : ∀ c ∈ blanks.toList, isBlank c = true) (hplus : plus = "" ∨ plus = "+")
    (hsuffix : ∀ c ∈ suffix.toList.head?, isDigit c = false) {n : UInt64} (hn : 0 < n) :
    positiveOr fallback (blanks ++ plus ++ decimal n.toNat ++ suffix) = n := by
  have hsign : plus = "-" ∨ plus = "+" ∨ plus = "" := .inr hplus.symm
  have hminus : plus.toList ≠ ['-'] := by
    rcases hplus with rfl | rfl <;> decide
  let o := openingOfDecimal blanks plus suffix n.toNat hblanks hsign hsuffix
  have hvalue : ofDigits 10 o.digits = n.toNat := ofDigits_digits n.toNat
  have hpos : o.IsPositive := (o.isPositive_iff hminus).mpr <| by
    rw [hvalue]
    exact ⟨UInt64.lt_iff_toNat_lt.mp hn, n.toNat_lt_size⟩
  rw [o.positiveOr_eq, if_pos hpos, hvalue, UInt64.ofNat_toNat]

/-- A positive number is read back from its decimal form. -/
theorem positiveOr_decimal (fallback : UInt64) {n : UInt64} (h : 0 < n) :
    positiveOr fallback (decimal n.toNat) = n := by
  have hnone : ∀ c ∈ "".toList, isBlank c = true := nofun
  have hend : ∀ c ∈ "".toList.head?, isDigit c = false := nofun
  have happend := positiveOr_append fallback hnone (.inl rfl) hend h
  rwa [String.append_empty, String.append_empty, String.empty_append] at happend

/-- The decimal form of an integer is a sign and digits. -/
theorem exists_opening_decimalInt (z : Int) : ∃ o : Opening (decimalInt z),
    (o.sign = ['-'] ↔ z < 0) ∧ ofDigits 10 o.digits = z.natAbs := by
  cases z with
  | ofNat m =>
    have htext : "" ++ "" ++ decimal m ++ "" = decimalInt (.ofNat m) := by
      rw [String.append_empty, String.empty_append, String.empty_append, decimalInt]
    rw [← htext]
    refine ⟨openingOfDecimal "" "" "" m nofun (.inr (.inr rfl)) nofun, ?_, ofDigits_digits m⟩
    exact ⟨nofun, fun h => absurd h (by simp)⟩
  | negSucc m =>
    have htext : "" ++ "-" ++ decimal (m + 1) ++ "" = decimalInt (.negSucc m) := by
      rw [String.append_empty, String.empty_append, decimalInt]
    rw [← htext]
    refine ⟨openingOfDecimal "" "-" "" (m + 1) nofun (.inl rfl) nofun, ?_, ofDigits_digits (m + 1)⟩
    exact ⟨fun _ => Int.negSucc_lt_zero m, fun _ => rfl⟩

/-- **An integer is found in its decimal form** if it is positive and fits in 64 bits. -/
theorem leadingNumber?_decimalInt {z : Int} (h : z < 0x10000000000000000) :
    (unsignedPart (decimalInt z)).bind leadingNumber? =
      if 1 ≤ z then some (UInt64.ofNat z.natAbs) else none := by
  obtain ⟨o, hsign, hvalue⟩ := exists_opening_decimalInt z
  have hpos : o.IsPositive ↔ 1 ≤ z := by
    constructor
    · intro hp
      have hz := hsign.not.mp hp.1
      have hone := hp.2.2.1
      rw [hvalue] at hone
      omega
    · intro hz
      refine (o.isPositive_iff (hsign.not.mpr (by omega))).mpr ?_
      rw [hvalue, UInt64.size]
      omega
  rw [o.leadingNumber?_eq, if_congr hpos rfl rfl, hvalue]

end FunctionLoad.Settings
