import FunctionLoad.Payload.JsonTransform
import FunctionLoad.Proofs.Payload.Pick
import Mathlib.Data.Set.Function

/-!
# Which tables are the same

* `Row.ofSeed_congr`, `Row.modEq_of_ofSeed_eq`: the first row tells the seed modulo 90000, 35 and
  51, the moduli of its three numbers.
* `JsonTransform.ofSeed_congr`: all that a table is made of has a modulus that divides 10,710,000.
* **`JsonTransform.ofSeed_eq_iff`**: seeds have the same table just if they are congruent modulo
  10,710,000.
* **`JsonTransform.ofSeed_eq_iff_modEq`**: so tables of fresh seeds, and those of the slots of a
  pool that is not larger than this, are pairwise different.
-/

namespace FunctionLoad.Payload

/-! ## Rows -/

namespace Row

theorem ofSeed_congr {a b : ℕ} (h : a ≡ b [MOD 10710000]) (i : ℕ) : ofSeed a i = ofSeed b i := by
  have hd : pick (Named.all : List Department) a (i + 1) = pick Named.all b (i + 1) :=
    pick_modEq _ h (by decide) _
  have hr : pick (Named.all : List Region) a (i + 5) = pick Named.all b (i + 5) :=
    pick_modEq _ h (by decide) _
  have ht : pick (Named.all : List Tier) a (i + 9) = pick Named.all b (i + 9) :=
    pick_modEq _ h (by decide) _
  have h1 := spread_congr (h.of_dvd (by decide : 90000 ∣ 10710000)) 37 i 173
  have h2 := spread_congr (h.of_dvd (by decide : 35 ∣ 10710000)) 11 i 5
  have h3 := spread_congr (h.of_dvd (by decide : 51 ∣ 10710000)) 13 i 7
  unfold ofSeed
  rw [hd, hr, ht, h1, h2, h3]

section

variable {base modulus : ℕ} (hm : 0 < modulus) (hb : base + modulus < UInt64.size)

include hm hb

/-- Numbers of rows fit in 64 bits. -/
theorem toNat_add_spread (seed f i g : ℕ) : (UInt64.ofNat (base + spread seed f i g modulus)).toNat =
    base + spread seed f i g modulus := by
  have hs : spread seed f i g modulus < modulus := Nat.mod_lt _ hm
  exact UInt64.toNat_ofNat_of_lt' (by omega)

/-- A number of a row tells the residue that it was made of. -/
theorem add_spread_inj {a b f i j g : ℕ} (h : UInt64.ofNat (base + spread a f i g modulus) =
      UInt64.ofNat (base + spread b f j g modulus)) :
    spread a f i g modulus = spread b f j g modulus := by
  have ht := congrArg UInt64.toNat h
  rw [toNat_add_spread hm hb, toNat_add_spread hm hb] at ht
  exact Nat.add_left_cancel ht

end

/-- The three numbers of a row tell the seed modulo 90000, 35 and 51. -/
theorem modEq_of_ofSeed_eq {a b i : ℕ} (h : ofSeed a i = ofSeed b i) :
    a ≡ b [MOD 90000] ∧ a ≡ b [MOD 35] ∧ a ≡ b [MOD 51] := by
  have h1 := add_spread_inj (by decide) (by decide) (congrArg salary h)
  have h2 := add_spread_inj (by decide) (by decide) (congrArg age h)
  have h3 := add_spread_inj (by decide) (by decide) (congrArg score h)
  exact ⟨(spread_eq_iff (by decide) a b i 173).mp h1, (spread_eq_iff (by decide) a b i 5).mp h2,
    (spread_eq_iff (by decide) a b i 7).mp h3⟩

end Row

/-! ## Tables -/

namespace JsonTransform

/-- Every table has a first row. -/
theorem head?_rows (seed : ℕ) : (ofSeed seed).rows.head? = some (Row.ofSeed seed 0) := by
  have hc : rowCount seed = (7 + seed % 24) + 1 := by
    unfold rowCount
    omega
  simp [ofSeed, hc, List.range_succ_eq_map]

theorem ofSeed_congr {a b : ℕ} (h : a ≡ b [MOD 10710000]) : ofSeed a = ofSeed b := by
  have ho : pick (Named.all : List Operation) a 0 = pick Named.all b 0 :=
    pick_modEq _ h (by decide) _
  have hg : pick (Named.all : List GroupField) a 3 = pick Named.all b 3 :=
    pick_modEq _ h (by decide) _
  have hv : pick (Named.all : List ValueField) a 11 = pick Named.all b 11 :=
    pick_modEq _ h (by decide) _
  have hc : rowCount a = rowCount b := congrArg (8 + ·) (h.of_dvd (by decide : 24 ∣ 10710000))
  have hr : Row.ofSeed a = Row.ofSeed b := funext (Row.ofSeed_congr h)
  unfold ofSeed
  rw [ho, hg, hv, hc, hr]

/-- **Seeds have the same table just if they are congruent modulo 10,710,000**, the least common
multiple of 90000, 35 and 51. -/
theorem ofSeed_eq_iff (a b : ℕ) : ofSeed a = ofSeed b ↔ a ≡ b [MOD 10710000] := by
  refine ⟨fun h => ?_, ofSeed_congr⟩
  have hh := congrArg (fun x => x.rows.head?) h
  simp only [head?_rows, Option.some.injEq] at hh
  obtain ⟨h1, h2, h3⟩ := Row.modEq_of_ofSeed_eq hh
  have hl : Nat.lcm (Nat.lcm 90000 35) 51 = 10710000 := by decide
  rw [← hl]
  exact Nat.mod_lcm (Nat.mod_lcm h1 h2) h3

/-- Words below a bound have pairwise different tables, unless the bound is too large for that. -/
theorem injOn_ofSeed {bound : UInt64} (hb : bound.toNat ≤ 10710000) :
    Set.InjOn (fun seed : UInt64 => ofSeed seed.toNat) {seed | seed < bound} := by
  intro a ha b hb' h
  have ha := UInt64.lt_iff_toNat_lt.mp ha
  have hb' := UInt64.lt_iff_toNat_lt.mp hb'
  have he := (ofSeed_eq_iff _ _).mp h
  exact UInt64.toNat_inj.mp (Nat.ModEq.eq_of_lt_of_lt he (by omega) (by omega))

/-- **Seeds have the same table just if they are congruent modulo 10,710,000.** All fresh seeds have
different tables, and so have all slots of a pool that is not larger than that. -/
theorem ofSeed_eq_iff_modEq :
    (∀ a b : UInt64, ofSeed a.toNat = ofSeed b.toNat ↔ a.toNat ≡ b.toNat [MOD 10710000]) ∧
      Set.InjOn (fun seed : UInt64 => ofSeed seed.toNat) {seed | seed < freshSeeds} ∧
      ∀ size : UInt64, size.toNat ≤ 10710000 →
        Set.InjOn (fun slot : UInt64 => ofSeed slot.toNat) {slot | slot < size} := by
  refine ⟨fun a b => ofSeed_eq_iff a.toNat b.toNat, injOn_ofSeed (by decide), fun size h => ?_⟩
  exact injOn_ofSeed h

end JsonTransform

end FunctionLoad.Payload
