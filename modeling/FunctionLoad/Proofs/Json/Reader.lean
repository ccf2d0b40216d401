import FunctionLoad.Json.Reader
import Mathlib.Tactic.SplitIfs

/-!
# What the reader of JSON makes

* `IsLast`, **`get?_eq_some_iff`**: the member that counts where a key is repeated.
* `Value.Has`: the numbers in a value, at any depth.
* `Number.IsProper`, `isProper_number?`: a number of the kind below zero that is read is below zero.
* `items?_of_mem`, `members?_of_mem`, `value?_cases`: where the parts of a value were read.
* **`isProper_of_read?`**: all numbers in a value that is read are proper.
-/

namespace FunctionLoad.Json

open FunctionLoad.Decimal

/-! ## Members -/

/-- A value is the last one under a key. -/
def IsLast (key : String) (v : Value) (members : List (String × Value)) : Prop :=
  ∃ front back, members = front ++ (key, v) :: back ∧ ∀ p ∈ back, p.1 ≠ key

theorem IsLast.mem {key : String} {v : Value} {members : List (String × Value)}
    (h : IsLast key v members) : (key, v) ∈ members := by
  obtain ⟨front, back, rfl, -⟩ := h
  exact List.mem_append_right front List.mem_cons_self

namespace Value

theorem lastUnder_eq_none_iff {key : String} {members : List (String × Value)} :
    lastUnder key members = none ↔ ∀ p ∈ members, p.1 ≠ key := by
  induction members with
  | nil => simp [lastUnder]
  | cons p r ih =>
    obtain ⟨k, v⟩ := p
    rw [lastUnder, Option.or_eq_none_iff, ih, List.forall_mem_cons]
    by_cases h : k = key <;> simp [h]

theorem lastUnder_eq_some_iff {key : String} {v : Value} {members : List (String × Value)} :
    lastUnder key members = some v ↔ IsLast key v members := by
  induction members with
  | nil => simp [lastUnder, IsLast]
  | cons p r ih =>
    obtain ⟨k, w⟩ := p
    rw [lastUnder, Option.or_eq_some_iff, ih, lastUnder_eq_none_iff]
    constructor
    · rintro (⟨front, back, rfl, hback⟩ | ⟨hback, hw⟩)
      · exact ⟨(k, w) :: front, back, rfl, hback⟩
      · obtain ⟨hk, rfl⟩ : k = key ∧ w = v := by simpa using hw
        exact ⟨[], r, by rw [hk]; rfl, hback⟩
    · rintro ⟨_ | ⟨q, front⟩, back, he, hback⟩
      · obtain ⟨hp, rfl⟩ := List.cons.inj he
        obtain ⟨rfl, rfl⟩ := Prod.mk.inj hp
        exact .inr ⟨hback, by simp⟩
      · exact .inl ⟨front, back, (List.cons.inj he).2, hback⟩

/-- **Of a repeated key the last member counts**, and only objects have members. -/
theorem get?_eq_some_iff {v w : Value} {key : String} :
    v.get? key = some w ↔ ∃ members, v = .object members ∧ IsLast key w members := by
  cases v with
  | object members => simp [get?, lastUnder_eq_some_iff]
  | _ => simp [get?]

/-- A number is in a value, at any depth. -/
inductive Has (n : Number) : Value → Prop
  | number : Has n (.number n)
  | item {v : Value} {vs : List Value} : v ∈ vs → Has n v → Has n (.list vs)
  | member {k : String} {v : Value} {ms : List (String × Value)} :
    (k, v) ∈ ms → Has n v → Has n (.object ms)

end Value

/-! ## Numbers -/

/-- A number that is of the kind below zero only if it is below zero. -/
def Number.IsProper : Number → Prop
  | .whole _ => True
  | .negative n => n < 0
  | .double _ => True

theorem isProper_wholeNumber (minus : Bool) (n : Nat) : (wholeNumber minus n).IsProper := by
  unfold wholeNumber
  split_ifs with hm hn
  · trivial
  · -- zero and what does not fit are doubles, so the sign stays
    have hi : (Int64.ofInt (-(n : Int))).toInt = -(n : Int) :=
      Int64.toInt_ofInt_of_le (by omega) (by omega)
    rw [Number.IsProper, Int64.lt_iff_toInt_lt, hi, Int64.toInt_zero]
    omega
  · trivial

theorem isProper_scaled? {minus : Bool} {significand : Nat} {exponent : Int} {cs r : List Char}
    {n : Number} (h : scaled? minus significand exponent cs = some (n, r)) : n.IsProper := by
  unfold scaled? at h
  split at h
  · split_ifs at h
    · obtain ⟨⟨e, t⟩, -, h⟩ := Option.bind_eq_some_iff.mp h
      obtain ⟨x, -, h⟩ := Option.bind_eq_some_iff.mp h
      cases h
      trivial
    · obtain ⟨x, -, h⟩ := Option.bind_eq_some_iff.mp h
      cases h
      trivial
  · obtain ⟨x, -, h⟩ := Option.bind_eq_some_iff.mp h
    cases h
    trivial

theorem isProper_unsigned? {minus : Bool} {cs r : List Char} {n : Number}
    (h : unsigned? minus cs = some (n, r)) : n.IsProper := by
  unfold unsigned? at h
  dsimp only at h
  split at h
  · cases h
  · split at h
    · split_ifs at h
      exact isProper_scaled? h
    · split_ifs at h
      · exact isProper_scaled? h
      · cases h
        exact isProper_wholeNumber minus _
    · split_ifs at h
      · exact isProper_scaled? h
      · cases h
        exact isProper_wholeNumber minus _

theorem isProper_number? {cs r : List Char} {n : Number} (h : number? cs = some (n, r)) :
    n.IsProper := by
  unfold number? at h
  split at h
  · exact isProper_unsigned? h
  · exact isProper_unsigned? h

/-! ## Values -/

section

variable {item : List Char → Option (Value × List Char)}

theorem items?_of_mem {fuel : Nat} {cs r : List Char} {vs : List Value}
    (h : items? item fuel cs = some (vs, r)) {v : Value} (hv : v ∈ vs) :
    ∃ cs r, item cs = some (v, r) := by
  induction fuel generalizing cs r vs with
  | zero => cases h
  | succ fuel ih =>
    rw [items?] at h
    obtain ⟨⟨w, t⟩, hw, h⟩ := Option.bind_eq_some_iff.mp h
    dsimp only at h
    split at h
    · obtain ⟨⟨ws, u⟩, hws, h⟩ := Option.bind_eq_some_iff.mp h
      cases h
      obtain rfl | hv := List.mem_cons.mp hv
      · exact ⟨_, _, hw⟩
      · exact ih hws hv
    · cases h
      obtain rfl := List.mem_singleton.mp hv
      exact ⟨_, _, hw⟩
    · cases h

theorem members?_of_mem {fuel : Nat} {cs r : List Char} {ms : List (String × Value)}
    (h : members? item fuel cs = some (ms, r)) {k : String} {v : Value} (hv : (k, v) ∈ ms) :
    ∃ cs r, item cs = some (v, r) := by
  induction fuel generalizing cs r ms with
  | zero => cases h
  | succ fuel ih =>
    rw [members?] at h
    split at h
    · obtain ⟨⟨key, t⟩, -, h⟩ := Option.bind_eq_some_iff.mp h
      dsimp only at h
      split at h
      · obtain ⟨⟨w, u⟩, hw, h⟩ := Option.bind_eq_some_iff.mp h
        dsimp only at h
        split at h
        · obtain ⟨⟨ws, x⟩, hws, h⟩ := Option.bind_eq_some_iff.mp h
          cases h
          obtain he | hv := List.mem_cons.mp hv
          · cases he
            exact ⟨_, _, hw⟩
          · exact ih hws hv
        · cases h
          cases List.mem_singleton.mp hv
          exact ⟨_, _, hw⟩
        · cases h
      · cases h
    · cases h

end

/-- **Where the numbers of a value come from**: the value is one, or they are in parts that were
read for a smaller depth. -/
theorem value?_cases {depth : Nat} {cs r : List Char} {v : Value} {n : Number}
    (h : value? depth cs = some (v, r)) (hn : v.Has n) :
    (∃ cs, number? cs = some (n, r)) ∨
      ∃ d w cs r, depth = d + 1 ∧ value? d cs = some (w, r) ∧ w.Has n := by
  rw [value?.eq_def] at h
  split at h
  · cases h
  -- texts and words hold no numbers
  · obtain ⟨p, -, ⟨⟩⟩ := Option.map_eq_some_iff.mp h
    cases hn
  · obtain ⟨p, -, ⟨⟩⟩ := Option.map_eq_some_iff.mp h
    cases hn
  · obtain ⟨p, -, ⟨⟩⟩ := Option.map_eq_some_iff.mp h
    cases hn
  · obtain ⟨p, -, ⟨⟩⟩ := Option.map_eq_some_iff.mp h
    cases hn
  · split at h
    · cases h
    · next d =>
      split at h
      · cases h
        cases hn with
        | item hv => cases hv
      · obtain ⟨p, hp, ⟨⟩⟩ := Option.map_eq_some_iff.mp h
        cases hn with
        | item hv hvn =>
          obtain ⟨cs, r, hw⟩ := items?_of_mem hp hv
          exact .inr ⟨d, _, cs, r, rfl, hw, hvn⟩
  · split at h
    · cases h
    · next d =>
      split at h
      · cases h
        cases hn with
        | member hv => cases hv
      · obtain ⟨p, hp, ⟨⟩⟩ := Option.map_eq_some_iff.mp h
        cases hn with
        | member hv hvn =>
          obtain ⟨cs, r, hw⟩ := members?_of_mem hp hv
          exact .inr ⟨d, _, cs, r, rfl, hw, hvn⟩
  · obtain ⟨p, hp, ⟨⟩⟩ := Option.map_eq_some_iff.mp h
    cases hn
    exact .inl ⟨_, hp⟩

theorem isProper_of_value? {n : Number} : ∀ {depth : Nat} {cs r : List Char} {v : Value},
    value? depth cs = some (v, r) → v.Has n → n.IsProper := by
  intro depth
  induction depth with
  | zero =>
    intro cs r v h hn
    obtain ⟨cs, hcs⟩ | ⟨d, w, cs, r, hd, -⟩ := value?_cases h hn
    · exact isProper_number? hcs
    · exact absurd hd (Nat.succ_ne_zero d).symm
  | succ depth ih =>
    intro cs r v h hn
    obtain ⟨cs, hcs⟩ | ⟨d, w, cs, r, hd, hw, hwn⟩ := value?_cases h hn
    · exact isProper_number? hcs
    · obtain rfl := Nat.succ.inj hd
      exact ih hw hwn

/-- **All numbers in a value that is read are proper.** -/
theorem isProper_of_read? {s : String} {v : Value} (h : read? s = some v) {n : Number}
    (hn : v.Has n) : n.IsProper := by
  unfold read? at h
  split at h
  · next w r hw =>
    split_ifs at h
    obtain rfl := Option.some.inj h
    exact isProper_of_value? hw hn
  · cases h

end FunctionLoad.Json
