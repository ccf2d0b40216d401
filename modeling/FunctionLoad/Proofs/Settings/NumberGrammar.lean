import FunctionLoad.Proofs.Settings.File
import FunctionLoad.Proofs.Settings.PositiveNumber

/-!
# Which numbers are read

* `isInteger_decimalInt`, `read_poolSize`: an integer of 64 bits in the place of the size of a pool.
* **`positiveNumber_grammar`**: which number is read of any text that may be missing, of decimal forms
  and of integers of a file.
-/

namespace FunctionLoad.Settings

open FunctionLoad.Text FunctionLoad.Decimal FunctionLoad.Yaml

/-! ## Sizes of pools -/

theorem isInteger_decimalInt (v : Int64) : IsInteger none (decimalInt v.toInt) .plain v.toInt := by
  have hmin := v.le_toInt
  have hmax := v.toInt_lt
  exact ⟨.inl ⟨rfl, rfl⟩, integer?_decimalInt (by omega) (by omega)⟩

theorem signedNumeral?_int64 (v : Int64) : signedNumeral? v.toInt = some (decimalInt v.toInt) :=
  if_pos ⟨v.le_toInt, v.toInt_lt⟩

variable {v : Int64}

/-- **An integer in the place of the size of a pool is put into decimal**, whatever notation it has. -/
theorem read_poolSize (d : Document) (draft : Draft) {es r : List (Event Nat)}
    {tag : Option (List UInt8)} {text : String} {style : Style}
    (hs : scalar? d es = some ((tag, text, style), r)) (hv : IsInteger tag text style v.toInt) :
    ∃ m, Draft.payloadMembers.find? (·.name == "pool_size") = some m ∧
      m.read d draft es = ({ draft with poolSize := some (decimalInt v.toInt) }, some r) := by
  have hn : numeral? d es = some (decimalInt v.toInt, r) := by
    rw [numeral?_of_isInteger d r hs hv, signedNumeral?_int64]
    rfl
  exact ⟨_, rfl, read_of hn draft⟩

/-- **A positive integer is the size that it asks for**; any other one asks for the default. -/
theorem toInt_size_resolve {draft : Draft} (h : draft.poolSize = some (decimalInt v.toInt)) :
    (draft.resolve.value.payload.size.toNat : Int) = if 1 ≤ v.toInt then v.toInt else 5000 := by
  have hmax := v.toInt_lt
  rw [Draft.value_resolve, h, Option.map_some, Option.getD_some, positiveOr,
    leadingNumber?_decimalInt (by omega)]
  split_ifs with hv
  · rw [Option.getD_some, UInt64.toNat_ofNat_of_lt' (show v.toInt.natAbs < 2 ^ 64 by omega)]
    omega
  · rfl

/-! ## The grammar -/

/-- **Which number is read of a text that may be missing**: the one that its digits denote, if they
stand behind blanks and no minus and the number is positive and fits in 64 bits, and the fallback in
every other case. So decimal forms are read back wherever a text starts with them, and a pool has the
size that an integer of a file asks for. -/
theorem positiveNumber_grammar (fallback : UInt64) :
    readPositive? fallback none = some fallback ∧
    readPositive? fallback (some "") = some fallback ∧
    (∀ raw, readPositive? fallback (some raw) = some (positiveOr fallback raw)) ∧
    (∀ raw, Nonempty (Opening raw) ∧ ∀ o : Opening raw, readPositive? fallback (some raw) =
      some (if o.IsPositive then UInt64.ofNat (ofDigits 10 o.digits) else fallback)) ∧
    (∀ (blanks plus suffix : String) (n : UInt64), (∀ c ∈ blanks.toList, isBlank c = true) →
      plus = "" ∨ plus = "+" → (∀ c ∈ suffix.toList.head?, isDigit c = false) → 1 ≤ n →
      readPositive? fallback (some (blanks ++ plus ++ decimal n.toNat ++ suffix)) = some n) ∧
    ∀ v : Int64, IsInteger none (decimalInt v.toInt) .plain v.toInt ∧
      (∀ (d : Document) (draft : Draft) (es r : List (Event Nat)) (tag : Option (List UInt8))
        (text : String) (style : Style),
        scalar? d es = some ((tag, text, style), r) → IsInteger tag text style v.toInt →
        ∃ m, Draft.payloadMembers.find? (·.name == "pool_size") = some m ∧
          m.read d draft es = ({ draft with poolSize := some (decimalInt v.toInt) }, some r)) ∧
      ∀ draft : Draft, draft.poolSize = some (decimalInt v.toInt) →
        (draft.resolve.value.payload.size.toNat : Int) =
          if 1 ≤ v.toInt then v.toInt else 5000 := by
  refine ⟨rfl, rfl, readPositive?_some fallback,
    fun raw => ⟨exists_opening raw, fun o => o.readPositive?_eq fallback⟩, ?_,
    fun v => ⟨isInteger_decimalInt v, ?_, fun draft h => toInt_size_resolve h⟩⟩
  · intro blanks plus suffix n hblanks hplus hsuffix hn
    have hpos : 0 < n := UInt64.lt_iff_toNat_lt.mpr (UInt64.le_iff_toNat_le.mp hn)
    rw [readPositive?_some, positiveOr_append fallback hblanks hplus hsuffix hpos]
  · intro d draft es r tag text style hs hv
    exact read_poolSize d draft hs hv

/-- A number behind a wide blank and a plus is read up to a letter that is two bytes, and an integer
in another base asks for no size if it is negative. -/
theorem positiveNumber_grammar_wide :
    readPositive? 5000 (some ("\u3000" ++ "+" ++ decimal (12 : UInt64).toNat ++ "é1")) = some 12 ∧
      (∃ m, Draft.payloadMembers.find? (·.name == "pool_size") = some m ∧
        m.read ⟨[], [], true⟩ {} [.scalar {} "-0x3".toList .plain] =
          ({ poolSize := some (decimalInt (-3 : Int64).toInt) }, some [])) ∧
      (({ poolSize := some (decimalInt (-3 : Int64).toInt) } : Draft).resolve.value.payload.size.toNat
        : Int) = if 1 ≤ (-3 : Int64).toInt then (-3 : Int64).toInt else 5000 := by
  obtain ⟨-, -, -, -, hdecimal, hinteger⟩ := positiveNumber_grammar 5000
  obtain ⟨-, hread, hsize⟩ := hinteger (-3)
  have hblank : ∀ c ∈ "\u3000".toList, isBlank c = true := List.forall_mem_singleton.mpr rfl
  have hletter : ∀ c ∈ "é1".toList.head?, isDigit c = false := fun c hc => Option.some.inj hc ▸ rfl
  refine ⟨hdecimal "\u3000" "+" "é1" 12 hblank (.inr rfl) hletter (by decide), ?_, hsize _ rfl⟩
  exact hread ⟨[], [], true⟩ {} _ [] none "-0x3" .plain rfl ⟨.inl ⟨rfl, rfl⟩, by decide⟩

end FunctionLoad.Settings
