import FunctionLoad.Proofs.Payload.JsonTransform
import Mathlib.Algebra.Order.Floor.Div
import Mathlib.Data.Int.CardIntervalMod

/-!
# Groups of rows

The rows of a table take the values of a field in turn, from one that the seed chooses. A table has
more rows than any field has values, so every group has a row, whatever rows are grouped by.

* `IsShare`, `IsShare.pos`, `IsShare.le_add_one`: a number shared out evenly, rounded down or up.
* `count_slots`, **`isShare_count_picks`**: consecutive salts share the items of a list evenly.
* `Row.ofSeed_inj`, **`Row.bounds_ofSeed`**: rows are told apart by their salaries, and their numbers
  are in their ranges.
* `GroupField.Group`, `GroupField.groupOf`: the groups that rows fall into.
* `JsonTransform.groupSize`, **`JsonTransform.isShare_groupSize`**: how large the groups of a table are.
* **`JsonTransform.nodup_rows`**, **`JsonTransform.ofSeed_regular`**: what all tables have in common.
-/

namespace FunctionLoad.Payload

variable {m n : ℕ}

/-! ## Shares -/

/-- **A share of `m` among `n`**, rounded down or up. -/
def IsShare (m n k : ℕ) : Prop :=
  k = m / n ∨ k = m ⌈/⌉ n

namespace IsShare

theorem ceilDiv_eq (hn : 0 < n) : m ⌈/⌉ n = m / n + if 0 < m % n then 1 else 0 := by
  have hpred : n - 1 < n := Nat.sub_one_lt (Nat.ne_of_gt hn)
  rw [Nat.ceilDiv_eq_add_pred_div, Nat.add_sub_assoc hn, Nat.add_div hn, Nat.div_eq_of_lt hpred,
    Nat.mod_eq_of_lt hpred, Nat.add_zero]
  split_ifs <;> omega

/-- What full turns come to is a share, with one more for those that a last turn gets to. -/
theorem of_turns (hn : 0 < n) (k : ℕ) : IsShare m n (m / n + if k < m % n then 1 else 0) := by
  by_cases h : k < m % n
  · rw [if_pos h]
    right
    rw [ceilDiv_eq hn, if_pos (Nat.zero_lt_of_lt h)]
  · rw [if_neg h]
    exact .inl rfl

theorem bounds (hn : 0 < n) {k : ℕ} (h : IsShare m n k) : m / n ≤ k ∧ k ≤ m / n + 1 := by
  rcases h with rfl | rfl
  · exact ⟨Nat.le_refl _, Nat.le_succ _⟩
  · rw [ceilDiv_eq hn]
    split_ifs <;> omega

/-- Where there is one for each, nobody goes without. -/
theorem pos (hn : 0 < n) (hm : n ≤ m) {k : ℕ} (h : IsShare m n k) : 1 ≤ k :=
  Nat.le_trans (Nat.div_pos hm hn) (h.bounds hn).1

theorem le_add_one (hn : 0 < n) {k l : ℕ} (hk : IsShare m n k) (hl : IsShare m n l) :
    k ≤ l + 1 :=
  (hk.bounds hn).2.trans (Nat.add_le_add_right (hl.bounds hn).1 1)

end IsShare

/-! ## Turns -/

theorem countP_range (p : ℕ → Prop) [DecidablePred p] (m : ℕ) :
    (List.range m).countP (fun i => decide (p i)) = Nat.count p m := by
  induction m with
  | zero => rfl
  | succ m ih =>
    rw [List.range_succ, List.countP_append, ih, Nat.count_succ, List.countP_singleton]
    simp

/-- Consecutive salts point to a slot once in every turn, and once more if it is among those that
are left. -/
theorem count_slots (hn : 0 < n) (h : Nat.Coprime n 17) (seed salt m : ℕ) {r : ℕ} (hr : r < n) :
    IsShare m n ((List.range m).countP fun i => decide (slotOf n seed (i + salt) = r)) := by
  obtain ⟨k, hk, rfl⟩ : ∃ k < n, slotOf n seed (k + salt) = r := by
    have hmem := (perm_slots hn h seed salt).mem_iff.mpr (List.mem_range.mpr hr)
    obtain ⟨t, ht, rfl⟩ := List.mem_map.mp hmem
    rw [List.mem_range'_1] at ht
    exact ⟨t - salt, by omega, by rw [Nat.sub_add_cancel ht.1]⟩
  -- the salts of one slot are those of one residue, and residues are counted
  have hiff (i : ℕ) : slotOf n seed (i + salt) = slotOf n seed (k + salt) ↔ i ≡ k [MOD n] := by
    rw [slotOf_salt_eq_iff h]
    exact ⟨Nat.ModEq.add_right_cancel' salt, fun he => he.add_right salt⟩
  simp only [hiff]
  rw [countP_range, Nat.count_modEq_card m hn, Nat.mod_eq_of_lt hk]
  exact .of_turns hn k

/-- **Consecutive salts share the items of a list evenly.** -/
theorem isShare_count_picks {α : Type} [DecidableEq α] {items : List α} (hn : 0 < items.length)
    (hitems : items.Nodup) (h : Nat.Coprime items.length 17) (seed salt m : ℕ) {a : α}
    (ha : a ∈ items) :
    IsShare m items.length
      (((List.range m).map fun i => pick items seed (i + salt) hn).count a) := by
  obtain ⟨r, hr, rfl⟩ := List.getElem_of_mem ha
  have hiff (i : ℕ) : pick items seed (i + salt) hn = items[r] ↔
      slotOf items.length seed (i + salt) = r := hitems.getElem_inj_iff
  have hcount := count_slots hn h seed salt m hr
  rw [List.count, List.countP_map]
  simpa only [Function.comp_def, beq_eq_decide, hiff] using hcount

/-! ## Rows -/

namespace Row

/-- Rows of one seed are told apart by their salaries, as long as there are no more than 90000. -/
theorem ofSeed_inj (seed : ℕ) {i j : ℕ} (hi : i < 90000) (hj : j < 90000)
    (h : ofSeed seed i = ofSeed seed j) : i = j := by
  have hs := add_spread_inj (by decide) (by decide) (congrArg salary h)
  exact Nat.ModEq.eq_of_lt_of_lt ((spread_number_eq_iff (by decide) seed 37 i j).mp hs) hi hj

/-- **The numbers of a row are in their ranges.** -/
theorem bounds_ofSeed (seed i : ℕ) :
    (40000 ≤ (ofSeed seed i).salary ∧ (ofSeed seed i).salary ≤ 129999) ∧
      (22 ≤ (ofSeed seed i).age ∧ (ofSeed seed i).age ≤ 56) ∧
      (50 ≤ (ofSeed seed i).score ∧ (ofSeed seed i).score ≤ 100) := by
  have hbounds {base modulus : ℕ} (hm : 0 < modulus) (hb : base + modulus < UInt64.size)
      (f g : ℕ) : UInt64.ofNat base ≤ UInt64.ofNat (base + spread seed f i g modulus) ∧
        UInt64.ofNat (base + spread seed f i g modulus) ≤ UInt64.ofNat (base + modulus - 1) := by
    have hs : spread seed f i g modulus < modulus := Nat.mod_lt _ hm
    rw [UInt64.le_iff_toNat_le, UInt64.le_iff_toNat_le, toNat_add_spread hm hb,
      UInt64.toNat_ofNat_of_lt' (by omega), UInt64.toNat_ofNat_of_lt' (by omega)]
    omega
  exact ⟨hbounds (by decide) (by decide) 37 173, hbounds (by decide) (by decide) 11 5,
    hbounds (by decide) (by decide) 13 7⟩

end Row

/-! ## Groups -/

namespace GroupField

/-- The groups that rows fall into by a field. -/
abbrev Group : GroupField → Type
  | .dept => Department
  | .region => Region
  | .tier => Tier

instance (g : GroupField) : DecidableEq g.Group :=
  match g with
  | .dept => inferInstanceAs (DecidableEq Department)
  | .region => inferInstanceAs (DecidableEq Region)
  | .tier => inferInstanceAs (DecidableEq Tier)

/-- The group of a row. -/
def groupOf : (g : GroupField) → Row → g.Group
  | .dept, r => r.dept
  | .region, r => r.region
  | .tier, r => r.tier

/-- How many groups there are. -/
def groups : GroupField → ℕ
  | .dept => 6
  | .region => 4
  | .tier => 3

theorem groups_pos (g : GroupField) : 0 < g.groups := by cases g <;> decide

end GroupField

namespace JsonTransform

open GroupField

/-- How many rows of a table are in a group. -/
def groupSize (x : JsonTransform) (g : GroupField) (v : g.Group) : ℕ :=
  (x.rows.map g.groupOf).count v

theorem length_rows (seed : ℕ) : (ofSeed seed).rows.length = rowCount seed := by
  rw [ofSeed, List.length_map, List.length_range]

theorem rowCount_mem (seed : ℕ) : 8 ≤ rowCount seed ∧ rowCount seed ≤ 31 := by
  unfold rowCount
  omega

/-- **The rows of a table are shared evenly among the groups**, whatever they are grouped by. -/
theorem isShare_groupSize (seed : ℕ) (g : GroupField) (v : g.Group) :
    IsShare (ofSeed seed).rows.length g.groups ((ofSeed seed).groupSize g v) := by
  have hmap {α : Type} (f : Row → α) : (ofSeed seed).rows.map f =
      (List.range (rowCount seed)).map fun i => f (Row.ofSeed seed i) := by
    rw [ofSeed, List.map_map]
    rfl
  rw [length_rows, groupSize, hmap]
  cases g with
  | dept =>
    have hn : 0 < (Named.all : List Department).length := by decide
    exact isShare_count_picks hn (by decide) (by decide) seed 1 _ (by cases v <;> decide)
  | region =>
    have hn : 0 < (Named.all : List Region).length := by decide
    exact isShare_count_picks hn (by decide) (by decide) seed 5 _ (by cases v <;> decide)
  | tier =>
    have hn : 0 < (Named.all : List Tier).length := by decide
    exact isShare_count_picks hn (by decide) (by decide) seed 9 _ (by cases v <;> decide)

/-! ## Tables -/

/-- **The rows of a table are pairwise different.** -/
theorem nodup_rows (seed : ℕ) : (ofSeed seed).rows.Nodup := by
  refine List.Nodup.map_on (fun i hi j hj h => ?_) List.nodup_range
  have hi := List.mem_range.mp hi
  have hj := List.mem_range.mp hj
  have hcount := (rowCount_mem seed).2
  exact Row.ofSeed_inj seed (by omega) (by omega) h

theorem isSome_valueField_iff (seed : ℕ) :
    (ofSeed seed).valueField.isSome = true ↔ (ofSeed seed).operation ≠ .count := by
  rw [ofSeed]
  dsimp only
  split_ifs with h <;> simp [h]

/-- **What all tables have in common.** They have eight to thirty-one rows, all of them different and
with numbers in their ranges, and they ask for a number just if they do not count. Whatever field
rows are grouped by, all of its groups have rows, as many as any other group or one more or less. -/
theorem ofSeed_regular (seed : UInt64) :
    (8 ≤ (ofSeed seed.toNat).rows.length ∧ (ofSeed seed.toNat).rows.length ≤ 31) ∧
    (∀ r ∈ (ofSeed seed.toNat).rows, (40000 ≤ r.salary ∧ r.salary ≤ 129999) ∧
      (22 ≤ r.age ∧ r.age ≤ 56) ∧ (50 ≤ r.score ∧ r.score ≤ 100)) ∧
    ((ofSeed seed.toNat).valueField.isSome = true ↔ (ofSeed seed.toNat).operation ≠ .count) ∧
    (ofSeed seed.toNat).rows.Nodup ∧
    ∀ (g : GroupField) (v : g.Group),
      ((ofSeed seed.toNat).groupSize g v = (ofSeed seed.toNat).rows.length / g.groups ∨
        (ofSeed seed.toNat).groupSize g v = (ofSeed seed.toNat).rows.length ⌈/⌉ g.groups) ∧
      1 ≤ (ofSeed seed.toNat).groupSize g v ∧
      ∀ w : g.Group, (ofSeed seed.toNat).groupSize g v ≤ (ofSeed seed.toNat).groupSize g w + 1 := by
  have hlength : 8 ≤ (ofSeed seed.toNat).rows.length ∧ (ofSeed seed.toNat).rows.length ≤ 31 := by
    rw [length_rows]
    exact rowCount_mem seed.toNat
  have hrows : ∀ r ∈ (ofSeed seed.toNat).rows, (40000 ≤ r.salary ∧ r.salary ≤ 129999) ∧
      (22 ≤ r.age ∧ r.age ≤ 56) ∧ (50 ≤ r.score ∧ r.score ≤ 100) :=
    List.forall_mem_map.mpr fun i _ => Row.bounds_ofSeed seed.toNat i
  refine ⟨hlength, hrows, isSome_valueField_iff seed.toNat, nodup_rows seed.toNat, fun g v => ?_⟩
  have hshare := isShare_groupSize seed.toNat g v
  have hgroups : g.groups ≤ 6 := by cases g <;> decide
  exact ⟨hshare, hshare.pos g.groups_pos (by omega),
    fun w => hshare.le_add_one g.groups_pos (isShare_groupSize seed.toNat g w)⟩

/-- The first row of a table that asks for an average. -/
theorem ofSeed_regular_average :
    ⟨.finance, .emea, .senior, 42849, 29, 82⟩ ∈ (ofSeed (77 : UInt64).toNat).rows ∧
      (((40000 : UInt64) ≤ 42849 ∧ (42849 : UInt64) ≤ 129999) ∧
        ((22 : UInt64) ≤ 29 ∧ (29 : UInt64) ≤ 56) ∧ ((50 : UInt64) ≤ 82 ∧ (82 : UInt64) ≤ 100)) ∧
      (ofSeed (77 : UInt64).toNat).groupSize .dept .finance = 3 ∧
      1 ≤ (ofSeed (77 : UInt64).toNat).groupSize .dept .finance := by
  have hmem : ⟨.finance, .emea, .senior, 42849, 29, 82⟩ ∈ (ofSeed (77 : UInt64).toNat).rows := by
    decide
  obtain ⟨-, hrows, -, -, hgroups⟩ := ofSeed_regular 77
  exact ⟨hmem, hrows _ hmem, by decide, (hgroups .dept .finance).2.1⟩

end JsonTransform

end FunctionLoad.Payload
