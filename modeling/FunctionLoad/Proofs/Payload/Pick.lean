import FunctionLoad.Payload.Seed
import Mathlib.Data.List.Nodup
import Mathlib.Data.List.Perm.Subperm
import Mathlib.Data.Nat.ModEq
import Mathlib.Data.Nat.Prime.Basic

/-!
# Where seeds and salts point

* `spread_congr`, **`spread_eq_iff`**, **`spread_number_eq_iff`**: seeds are mixed with one number
  into the same residue just if they leave the same residue, and so are numbers with one seed. The
  factor of what differs has to be coprime to the modulus.
* `slotOf_congr`: only the residue of a seed matters.
* **`slotOf_eq_iff`**, **`slotOf_salt_eq_iff`**: seeds with one salt, and salts with one seed, point
  to the same item of a list just if they leave the same residue. The factors 31 and 17 have to be
  coprime to the length.
* **`perm_turn`**: what is the same at congruent numbers only takes each of its values once in a turn.
* **`perm_slots`**, `perm_seed_slots`: as many consecutive salts as there are items point to each of
  them once, and so do as many consecutive seeds.
* `pick_congr`, `pick_eq_iff`, `pick_modEq`: seeds and salts that point to the same place pick the
  same item, and so do seeds that are congruent modulo a multiple of the length.
* **`pick?_fair`**: which item words pick, and that consecutive words pick all of them.
-/

namespace FunctionLoad.Payload

variable {n : ℕ}

/-! ## Residues -/

theorem spread_congr {a b : ℕ} (h : a ≡ b [MOD n]) (f i g : ℕ) : spread a f i g n = spread b f i g n :=
  (h.mul_right f).add_right (i * g)

/-- **Seeds are mixed into the same residue just if they leave the same residue.** -/
theorem spread_eq_iff {f : ℕ} (h : Nat.Coprime n f) (a b i g : ℕ) :
    spread a f i g n = spread b f i g n ↔ a ≡ b [MOD n] := by
  refine ⟨fun he => ?_, fun he => spread_congr he f i g⟩
  have hm : a * f ≡ b * f [MOD n] := Nat.ModEq.add_right_cancel' (i * g) he
  exact Nat.ModEq.cancel_right_of_coprime h hm

/-- **Numbers are mixed into the same residue just if they leave the same residue.** -/
theorem spread_number_eq_iff {g : ℕ} (h : Nat.Coprime n g) (seed f i j : ℕ) :
    spread seed f i g n = spread seed f j g n ↔ i ≡ j [MOD n] := by
  refine ⟨fun he => ?_, fun he => (he.mul_right g).add_left (seed * f)⟩
  have hm : i * g ≡ j * g [MOD n] := Nat.ModEq.add_left_cancel' (seed * f) he
  exact Nat.ModEq.cancel_right_of_coprime h hm

/-! ## Turns -/

/-- **A turn takes each value once**, if values are the same at congruent numbers only. -/
theorem perm_turn {α : Type} {l : List α} {f : ℕ → α} (hmem : ∀ i, f i ∈ l)
    (hf : ∀ i j, f i = f j → i ≡ j [MOD n]) (hl : l.length = n) (first : ℕ) :
    ((List.range' first n).map f).Perm l := by
  have hnodup : ((List.range' first n).map f).Nodup := by
    rw [List.range'_eq_map_range, List.map_map]
    refine List.Nodup.map_on (fun i hi j hj he => ?_) List.nodup_range
    have hm : i ≡ j [MOD n] := Nat.ModEq.add_left_cancel' first (hf _ _ he)
    exact Nat.ModEq.eq_of_lt_of_lt hm (List.mem_range.mp hi) (List.mem_range.mp hj)
  have hsub : (List.range' first n).map f ⊆ l := List.forall_mem_map.mpr fun i _ => hmem i
  -- as many different values as there are are all of them
  refine (List.subperm_of_subset hnodup hsub).perm_of_length_le ?_
  rw [List.length_map, List.length_range', hl]

/-! ## Slots -/

/-- A slot mixes its seed and its salt. -/
theorem slotOf_eq_spread (seed salt : ℕ) : slotOf n seed salt = spread seed 31 salt 17 n := rfl

theorem slotOf_congr {a b : ℕ} (h : a ≡ b [MOD n]) (salt : ℕ) : slotOf n a salt = slotOf n b salt :=
  spread_congr h 31 salt 17

/-- **Seeds with one salt point to the same item just if they leave the same residue.** -/
theorem slotOf_eq_iff (h : Nat.Coprime n 31) (a b salt : ℕ) :
    slotOf n a salt = slotOf n b salt ↔ a ≡ b [MOD n] := by
  rw [slotOf_eq_spread, slotOf_eq_spread, spread_eq_iff h]

/-- **Salts with one seed point to the same item just if they leave the same residue.** -/
theorem slotOf_salt_eq_iff (h : Nat.Coprime n 17) (seed s t : ℕ) :
    slotOf n seed s = slotOf n seed t ↔ s ≡ t [MOD n] := by
  rw [slotOf_eq_spread, slotOf_eq_spread, spread_number_eq_iff h]

section

variable (hn : 0 < n)

include hn

/-- **As many consecutive salts as there are items point to each item once.** -/
theorem perm_slots (h : Nat.Coprime n 17) (seed first : ℕ) :
    ((List.range' first n).map fun salt => slotOf n seed salt).Perm (List.range n) :=
  perm_turn (fun salt => List.mem_range.mpr (slotOf_lt hn seed salt))
    (fun s t => (slotOf_salt_eq_iff h seed s t).mp) List.length_range first

/-- As many consecutive seeds as there are items point to each item once. -/
theorem perm_seed_slots (h : Nat.Coprime n 31) (salt first : ℕ) :
    ((List.range' first n).map fun seed => slotOf n seed salt).Perm (List.range n) :=
  perm_turn (fun seed => List.mem_range.mpr (slotOf_lt hn seed salt))
    (fun a b => (slotOf_eq_iff h a b salt).mp) List.length_range first

end

/-- A salt moves on from the place of another one, whatever the seed is. -/
theorem slotOf_add (seed salt k : ℕ) :
    slotOf n seed (salt + k) = (slotOf n seed salt + k * 17) % n := by
  rw [slotOf, slotOf, Nat.mod_add_mod, Nat.add_mul, Nat.add_assoc]

theorem pick_congr {α : Type} {items : List α} (h : 0 < items.length) {a b s t : ℕ}
    (he : slotOf items.length a s = slotOf items.length b t) :
    pick items a s h = pick items b t h := by
  unfold pick
  exact congrArg items.get (Fin.ext he)

/-- Seeds and salts pick the same of different items just if they point to the same place. -/
theorem pick_eq_iff {α : Type} {items : List α} (h : 0 < items.length) (hitems : items.Nodup)
    {a b s t : ℕ} : pick items a s h = pick items b t h ↔
      slotOf items.length a s = slotOf items.length b t :=
  ⟨fun he => hitems.getElem_inj_iff.mp he, pick_congr h⟩

theorem pick_mem {α : Type} (items : List α) (seed salt : ℕ) (h : 0 < items.length := by decide) :
    pick items seed salt h ∈ items :=
  List.get_mem items _

/-- Seeds that are congruent modulo a multiple of the length pick the same item. -/
theorem pick_modEq {α : Type} {items : List α} (h : 0 < items.length) {m a b : ℕ}
    (hm : a ≡ b [MOD m]) (hd : items.length ∣ m) (salt : ℕ) :
    pick items a salt h = pick items b salt h :=
  pick_congr h (slotOf_congr (hm.of_dvd hd) salt)

/-! ## Words -/

theorem map_getElem?_range {α : Type} (items : List α) :
    (List.range items.length).map (fun i => items[i]?) = items.map some :=
  List.ext_getElem (by simp) fun i _ _ => by simp

/-- Words whose numbers point to each item once pick all items. -/
theorem perm_picks {α : Type} {items : List α} {f : UInt64 → Option α} {slot : ℕ → ℕ}
    (hf : ∀ x, f x = items[slot x.toNat]?) {first : ℕ} (hfirst : first + items.length ≤ 2 ^ 64)
    (hslot : ((List.range' first items.length).map slot).Perm (List.range items.length)) :
    ((List.range' first items.length).map fun x => f (UInt64.ofNat x)).Perm (items.map some) := by
  have hmap : (List.range' first items.length).map (fun x => f (UInt64.ofNat x)) =
      ((List.range' first items.length).map slot).map fun i => items[i]? := by
    rw [List.map_map]
    refine List.map_congr_left fun x hx => ?_
    have hx : x < 2 ^ 64 := (List.mem_range'_1.mp hx).2.trans_le hfirst
    rw [hf, UInt64.toNat_ofNat', Nat.mod_eq_of_lt hx, Function.comp_apply]
  rw [hmap, ← map_getElem?_range]
  exact hslot.map _

/-- **Picking is exact and fair.** Words pick the item that their numbers point to, since nothing is
lost in 128 bits. As many consecutive seeds as there are items pick each of them once with any salt,
unless the factor of seeds divides how many there are, and so do salts with any seed. -/
theorem pick?_fair {α : Type} (items : List α) (h : 0 < items.length) :
    (∀ seed salt : UInt64, (mix seed salt).toNat = seed.toNat * 31 + salt.toNat * 17 ∧
      pick? items seed salt = some (items.get
        ⟨(seed.toNat * 31 + salt.toNat * 17) % items.length, Nat.mod_lt _ h⟩)) ∧
    (¬ 31 ∣ items.length → ∀ (salt : UInt64) (first : ℕ), first + items.length ≤ 2 ^ 64 →
      ((List.range' first items.length).map fun seed => pick? items (UInt64.ofNat seed) salt).Perm
        (items.map some)) ∧
    (¬ 17 ∣ items.length → ∀ (seed : UInt64) (first : ℕ), first + items.length ≤ 2 ^ 64 →
      ((List.range' first items.length).map fun salt => pick? items seed (UInt64.ofNat salt)).Perm
        (items.map some)) := by
  refine ⟨fun seed salt => ⟨toNat_mix seed salt, pick?_eq_pick items seed salt h⟩,
    fun hd salt first hfirst => ?_, fun hd seed first hfirst => ?_⟩
  · have hprime : Nat.Prime 31 := by decide
    have hcoprime : Nat.Coprime items.length 31 := (hprime.coprime_iff_not_dvd.mpr hd).symm
    exact perm_picks (fun seed => pick?_eq_slotOf items seed salt) hfirst
      (perm_seed_slots h hcoprime salt.toNat first)
  · have hprime : Nat.Prime 17 := by decide
    have hcoprime : Nat.Coprime items.length 17 := (hprime.coprime_iff_not_dvd.mpr hd).symm
    exact perm_picks (fun salt => pick?_eq_slotOf items seed salt) hfirst
      (perm_slots h hcoprime seed.toNat first)

/-- The last three words there are, and a list with an item that is there twice. -/
theorem pick?_fair_last :
    0 < ['a', 'b', 'b'].length ∧ ¬ 31 ∣ ['a', 'b', 'b'].length ∧ ¬ 17 ∣ ['a', 'b', 'b'].length ∧
      18446744073709551613 + ['a', 'b', 'b'].length ≤ 2 ^ 64 ∧
      pick? ['a', 'b', 'b'] 18446744073709551615 18446744073709551614 = some 'b' ∧
      ((List.range' 18446744073709551613 ['a', 'b', 'b'].length).map fun seed =>
        pick? ['a', 'b', 'b'] (UInt64.ofNat seed) 18446744073709551615).Perm
          (['a', 'b', 'b'].map some) ∧
      ((List.range' 18446744073709551613 ['a', 'b', 'b'].length).map fun salt =>
        pick? ['a', 'b', 'b'] 18446744073709551615 (UInt64.ofNat salt)).Perm
          (['a', 'b', 'b'].map some) := by
  obtain ⟨hpick, hseeds, hsalts⟩ := pick?_fair ['a', 'b', 'b'] (by decide)
  exact ⟨by decide, by decide, by decide, by decide, (hpick _ _).2.trans (by decide),
    hseeds (by decide) 18446744073709551615 _ (by decide),
    hsalts (by decide) 18446744073709551615 _ (by decide)⟩

end FunctionLoad.Payload
