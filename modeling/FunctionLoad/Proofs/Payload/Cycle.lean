import FunctionLoad.Proofs.Payload.Pick
import FunctionLoad.Proofs.Payload.Run

/-!
# Pools whose slots come in turn

An iteration has the slot that its number leaves when it is divided by the size of the pool. So as many
iterations as there are slots have each slot once, wherever they start, and not only at a multiple of
the size.

* `slots`, `window`: the slots of a pool, and as many consecutive iterations.
* `perm_range'_mod`, **`perm_window`**: consecutive numbers leave every remainder once.
* `select_inTurn`, **`index_run_inTurn`**: the slot of an iteration, and those of a run.
* **`inTurn_even`**: how the iterations of such a pool share its slots.
-/

namespace FunctionLoad.Payload

/-! ## Remainders -/

theorem perm_range'_mod (s p : ℕ) : ((List.range' s p).map (· % p)).Perm (List.range p) := by
  rcases Nat.eq_zero_or_pos p with rfl | hp
  · rfl
  · exact perm_turn (fun i => List.mem_range.mpr (Nat.mod_lt i hp)) (fun _ _ => id) List.length_range s

/-- The slots of a pool. -/
def slots (size : UInt64) : List Index :=
  (List.range size.toNat).map fun k => .pooled (UInt64.ofNat k)

/-- As many consecutive iterations as a pool has slots. -/
def window (first size : UInt64) : List UInt64 :=
  (List.range size.toNat).map fun k => first + UInt64.ofNat k

/-- **Consecutive numbers leave every remainder once**, as long as they are numbers of iterations. -/
theorem perm_window {first size : UInt64} (h : first.toNat + size.toNat ≤ 2 ^ 64) :
    ((window first size).map fun i => Index.pooled (i % size)).Perm (slots size) := by
  have hmap : (window first size).map (fun i => Index.pooled (i % size)) =
      ((List.range' first.toNat size.toNat).map (· % size.toNat)).map
        fun k => Index.pooled (UInt64.ofNat k) := by
    rw [window, List.range'_eq_map_range, List.map_map, List.map_map, List.map_map]
    refine List.map_congr_left fun k hk => ?_
    have hk : k < size.toNat := List.mem_range.mp hk
    have hadd : (first + UInt64.ofNat k).toNat = first.toNat + k := by
      rw [UInt64.toNat_add, UInt64.toNat_ofNat']
      omega
    simp only [Function.comp_apply, Index.pooled.injEq]
    rw [← UInt64.toNat_inj, UInt64.toNat_mod, hadd, UInt64.toNat_ofNat_of_lt']
    have := Nat.mod_lt (first.toNat + k) (Nat.zero_lt_of_lt hk)
    have := size.toNat_lt_size
    omega
  rw [hmap]
  exact (perm_range'_mod first.toNat size.toNat).map _

/-! ## Slots in turn -/

namespace Model

/-- A model that uses the slots of a pool in turn. -/
def inTurn (size : UInt64) : Model :=
  ⟨.poolSequential, size⟩

variable {size : UInt64} (h : size ≠ 0)

include h in
theorem select_inTurn (iteration : UInt64) {σ : Type} [Source σ] (source : σ) :
    (inTurn size).select iteration source = (.pooled (iteration % size), source) := by
  unfold select Payload.select inTurn
  rw [if_neg h]

include h in
theorem payloadOf_inTurn (w : Workload) (iteration : UInt64) (x : Float) :
    (inTurn size).payloadOf w iteration x =
      ⟨.pooled (iteration % size), .ofSeed w (iteration % size)⟩ := by
  unfold payloadOf inTurn
  rw [if_neg h]

include h in
/-- **The iterations of a run have their slots**, whatever the workloads and the draws are. -/
theorem index_run_inTurn (steps : List (Workload × UInt64)) {σ : Type} [Source σ] (source : σ) :
    ((inTurn size).run steps source).value.1.map (·.index) =
      (steps.map Prod.snd).map fun i => Index.pooled (i % size) := by
  induction steps generalizing source with
  | nil => rfl
  | cons step steps ih =>
    obtain ⟨w, iteration⟩ := step
    rw [value_run_cons, List.map_cons, List.map_cons, List.map_cons, ih, payloadOf_inTurn h]

/-- **Iterations share the slots of a pool evenly** where these come in turn. As many consecutive
iterations as there are slots have each slot once, whether they are selected one by one, each from a
source of its own, or in a run. Two iterations have the same slot just if their numbers leave the same
remainder, and then they have the same payload. -/
theorem inTurn_even (size : UInt64) (h : 1 ≤ size) :
    (∀ first : UInt64, first.toNat + size.toNat ≤ 2 ^ 64 → ∀ {σ : Type} [Source σ],
      (∀ source : UInt64 → σ, ((window first size).map fun i =>
        ((inTurn size).select i (source i)).1).Perm (slots size)) ∧
      ∀ (source : σ) (steps : List (Workload × UInt64)), steps.map Prod.snd = window first size →
        (((inTurn size).run steps source).value.1.map (·.index)).Perm (slots size)) ∧
    ∀ (i j : UInt64) {σ τ : Type} [Source σ] [Source τ] (source : σ) (other : τ),
      (((inTurn size).select i source).1 = ((inTurn size).select j other).1 ↔
        i.toNat ≡ j.toNat [MOD size.toNat]) ∧
      (i.toNat ≡ j.toNat [MOD size.toNat] → ∀ w,
        ((inTurn size).next w i source).value.1 = ((inTurn size).next w j other).value.1) := by
  have hne : size ≠ 0 := by
    rintro rfl
    exact absurd h (by decide)
  refine ⟨fun first hw σ _ => ⟨fun source => ?_, fun source steps hs => ?_⟩,
    fun i j σ τ _ _ source other => ?_⟩
  · simp only [select_inTurn hne]
    exact perm_window hw
  · rw [index_run_inTurn hne, hs]
    exact perm_window hw
  · have hslot : i % size = j % size ↔ i.toNat ≡ j.toNat [MOD size.toNat] := by
      rw [← UInt64.toNat_inj, UInt64.toNat_mod, UInt64.toNat_mod, Nat.ModEq]
    refine ⟨?_, fun hm w => ?_⟩
    · rw [select_inTurn hne, select_inTurn hne, Index.pooled.injEq, hslot]
    · rw [value_next, value_next, payloadOf_inTurn hne, payloadOf_inTurn hne, hslot.mpr hm]

/-- A window that wraps around at the end of a pool of five slots, the last one that there is. -/
theorem inTurn_even_five :
    (1 : UInt64) ≤ 5 ∧ (18446744073709551611 : UInt64).toNat + (5 : UInt64).toNat ≤ 2 ^ 64 ∧
      ((window 18446744073709551611 5).map fun i =>
        ((inTurn 5).select i (⟨[], 0⟩ : Tape)).1).Perm (slots 5) ∧
      (18446744073709551611 : UInt64).toNat ≡ (1 : UInt64).toNat [MOD (5 : UInt64).toNat] ∧
      ((inTurn 5).next .jsonTransform 18446744073709551611 (⟨[], 0⟩ : Tape)).value.1 =
        ((inTurn 5).next .jsonTransform 1 (⟨[0.5], 0⟩ : Tape)).value.1 := by
  obtain ⟨hw, hm⟩ := inTurn_even 5 (by decide)
  have hc : (18446744073709551611 : UInt64).toNat ≡ (1 : UInt64).toNat [MOD (5 : UInt64).toNat] := by
    decide
  exact ⟨by decide, by decide, (hw 18446744073709551611 (by decide)).1 fun _ => (⟨[], 0⟩ : Tape), hc,
    (hm 18446744073709551611 1 (⟨[], 0⟩ : Tape) (⟨[0.5], 0⟩ : Tape)).2 hc .jsonTransform⟩

end Model

end FunctionLoad.Payload
