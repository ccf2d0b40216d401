import FunctionLoad.Payload.Index
import FunctionLoad.Random

/-!
# Seeds of payloads

* `slotOf`: where a seed and a salt point in a list of some length.
* `mix`: a seed and a salt that are words, in 128 bits. **`toNat_mix`**: these are enough.
* `pick`, `pick?`: the item of a list that they point to, for numbers and for words.
* `spread`: two numbers mixed into a residue.
* **`seedOf`**: the seed of an index. A slot is a seed of its own; without a slot one is drawn.
* **`slotOf_lt`**: a seed and a salt point into every list that is not empty.
-/

namespace FunctionLoad.Payload

/-- Where a seed and a salt point in a list of length `n`. -/
def slotOf (n seed salt : Nat) : Nat :=
  (seed * 31 + salt * 17) % n

/-- **A seed and a salt point into every list that is not empty.** -/
theorem slotOf_lt {n : Nat} (h : 0 < n) (seed salt : Nat) : slotOf n seed salt < n :=
  Nat.mod_lt _ h

/-- A seed and a salt, each with its factor, in 128 bits. -/
def mix (seed salt : UInt64) : BitVec 128 :=
  seed.toBitVec.setWidth 128 * 31 + salt.toBitVec.setWidth 128 * 17

/-- **Nothing is lost in 128 bits**, whatever the words are. -/
theorem toNat_mix (seed salt : UInt64) :
    (mix seed salt).toNat = seed.toNat * 31 + salt.toNat * 17 := by
  have hseed : seed.toNat < 2 ^ 64 := seed.toNat_lt
  have hsalt : salt.toNat < 2 ^ 64 := salt.toNat_lt
  have hmod : (mix seed salt).toNat = (seed.toNat * 31 + salt.toNat * 17) % 2 ^ 128 := by
    simp [mix]
  rw [hmod]
  omega

/-- The item of a list that a seed and a salt point to, found in 128 bits. An empty list has none. -/
def pick? {α : Type} (items : List α) (seed salt : UInt64) : Option α :=
  items[(mix seed salt).toNat % items.length]?

/-- The fault of picking from an empty list. -/
def pickFault : String :=
  "attempt to calculate the remainder with a divisor of zero"

/-- The item that a seed and a salt point to, of a list that is not empty. -/
def pick {α : Type} (items : List α) (seed salt : Nat)
    (nonempty : 0 < items.length := by decide) : α :=
  items.get ⟨slotOf items.length seed salt, slotOf_lt nonempty seed salt⟩

/-- A seed and a number, each with its factor, mixed into a residue. -/
def spread (seed seedFactor i factor modulus : Nat) : Nat :=
  (seed * seedFactor + i * factor) % modulus

/-- How many different seeds are drawn. -/
def freshSeeds : UInt64 := 1000000

/-- The slot of `n` that a draw falls into. Draws below zero fall into the first one, draws from one
on into the last. -/
def slotOfDraw (n : UInt64) (draw : Float) : UInt64 :=
  min (draw * n.toFloat).floor.toUInt64 (n - 1)

/-- **The seed of an index.** A slot is a seed of its own; without a slot one is drawn. -/
def seedOf {σ : Type} [Source σ] (i : Index) (source : σ) : UInt64 × σ :=
  match i with
  | .pooled slot => (slot, source)
  | .unpooled =>
    let p := draw source
    (slotOfDraw freshSeeds p.1, p.2)

theorem pick?_eq_slotOf {α : Type} (items : List α) (seed salt : UInt64) :
    pick? items seed salt = items[slotOf items.length seed.toNat salt.toNat]? := by
  rw [pick?, toNat_mix, slotOf]

/-- **Words pick what their numbers pick.** -/
theorem pick?_eq_pick {α : Type} (items : List α) (seed salt : UInt64) (h : 0 < items.length) :
    pick? items seed salt = some (pick items seed.toNat salt.toNat h) := by
  rw [pick?_eq_slotOf, List.getElem?_eq_getElem (slotOf_lt h _ _)]
  rfl

end FunctionLoad.Payload
