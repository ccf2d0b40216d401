/-!
# Texts as bytes

* `bytes`: a text in UTF-8.
* `takeBytes?`, `dropBytes?`: the first bytes of a text, and what is behind them, as texts; none where
  a character would be cut.
* **`takeBytes?_append`**, **`dropBytes?_append`**: texts are cut between their parts.
* `bytes_ofList`, **`exists_firstByte`**: what characters start with.
-/

namespace FunctionLoad.Text

/-- The bytes of a text in UTF-8. -/
def bytes (s : String) : List UInt8 :=
  s.toByteArray.data.toList

/-- The first `n` bytes of a text, none where that is no boundary between characters. -/
def takeBytes? (n : Nat) (s : String) : Option String :=
  if h : (String.Pos.Raw.mk n).IsValid s then some (s.sliceTo (s.pos ⟨n⟩ h)).copy else none

/-- A text behind its first `n` bytes, none where that is no boundary between characters. -/
def dropBytes? (n : Nat) (s : String) : Option String :=
  if h : (String.Pos.Raw.mk n).IsValid s then some (s.sliceFrom (s.pos ⟨n⟩ h)).copy else none

section

variable (s t : String)

theorem isValid_append : (String.Pos.Raw.mk s.utf8ByteSize).IsValid (s ++ t) :=
  String.Pos.Raw.isValid_rawEndPos.append_right t

/-- **A text is taken from what it is the first part of.** -/
theorem takeBytes?_append : takeBytes? s.utf8ByteSize (s ++ t) = some s := by
  rw [takeBytes?, dif_pos (isValid_append s t)]
  exact congrArg some String.Pos.splits_append_rawEndPos.copy_sliceTo_eq

/-- **A text is left behind its first part.** -/
theorem dropBytes?_append : dropBytes? s.utf8ByteSize (s ++ t) = some t := by
  rw [dropBytes?, dif_pos (isValid_append s t)]
  exact congrArg some String.Pos.splits_append_rawEndPos.copy_sliceFrom_eq

end

theorem length_bytes (s : String) : (bytes s).length = s.utf8ByteSize := rfl

/-- The bytes of a text are those of its characters. -/
theorem bytes_ofList (cs : List Char) :
    bytes (String.ofList cs) = cs.flatMap String.utf8EncodeChar := by
  rw [bytes, String.toByteArray_ofList, List.utf8Encode, List.data_toByteArray]

/-- **An ASCII character is one byte.** Any other one starts with a byte that no ASCII character is. -/
theorem exists_firstByte (c : Char) : ∃ b bs, String.utf8EncodeChar c = b :: bs ∧
    (b.toNat = c.toNat ∧ bs = [] ∨ 128 ≤ c.toNat ∧ 192 ≤ b.toNat) := by
  have hval : c.val.toNat = c.toNat := rfl
  fun_cases String.utf8EncodeChar c
  case case1 =>
    refine ⟨_, _, rfl, .inl ⟨?_, rfl⟩⟩
    rw [UInt8.toNat_ofNat']
    omega
  all_goals
    refine ⟨_, _, rfl, .inr ⟨by omega, ?_⟩⟩
    simp only [UInt8.toNat_ofNat']
    omega

end FunctionLoad.Text
