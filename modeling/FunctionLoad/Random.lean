/-!
# Sources of uniform draws

* `Source`: a state from which doubles are drawn; a draw returns the next state.
* `Tape`: a list of draws fixed in advance, then zeros; it counts what was taken.
* `Generator`: the seeded generator; its draws lie in `[0, 1)`.
* **`Generator.distance_step`**: a generator comes one step closer to its zero state at every
  step, so drawing again always ends.
-/

namespace FunctionLoad

/-- A state from which doubles are drawn. -/
class Source (σ : Type) where
  /-- The next draw and the state after it. -/
  draw : σ → Float × σ

export Source (draw)

/-! ## Draws fixed in advance -/

/-- Draws fixed in advance, and how many were taken. -/
structure Tape where
  pending : List Float
  used : Nat := 0

namespace Tape

/-- The next draw of a tape; zero after its end. -/
def next (t : Tape) : Float × Tape :=
  match t.pending with
  | [] => (0.0, ⟨[], t.used + 1⟩)
  | x :: r => (x, ⟨r, t.used + 1⟩)

instance : Source Tape := ⟨next⟩

end Tape

/-! ## The seeded generator -/

/-- A generator of draws, with 64 bits of state. -/
structure Generator where
  state : UInt64
  deriving Repr, DecidableEq

namespace Generator

/-- What every step adds to the state. It is odd, so every state is reached. -/
def increment : UInt64 := 0x2d358dccaa6c78a5

/-- The inverse of `increment` modulo `2 ^ 64`. -/
def inverse : UInt64 := 0x32e25c49d2beaf2d

/-- The word that a state yields: both halves of its product with a masked copy of itself. -/
def word (s : UInt64) : UInt64 :=
  let t := s.toNat * (s ^^^ 0x8bb84b93962eacc9).toNat
  UInt64.ofNat t ^^^ UInt64.ofNat (t / UInt64.size)

/-- The first 63-bit number whose double, divided by `2 ^ 63`, rounds up to one. -/
def limit : UInt64 := 0x7ffffffffffffe00

/-- How many steps a state is away from the one before zero. -/
def distance (s : UInt64) : UInt64 :=
  (0 - s) * inverse - 1

theorem increment_mul_inverse : increment * inverse = 1 := by decide

/-- **A step brings the state one closer to the one before zero.** -/
theorem distance_step (s : UInt64) : distance (s + increment) = distance s - 1 := by
  have h := increment_mul_inverse
  unfold distance
  grind

theorem eq_zero_of_distance {s : UInt64} (h : distance s = 0) : s + increment = 0 := by
  have hi := increment_mul_inverse
  have h1 : (0 - s) * inverse = 1 := by unfold distance at h; grind
  have h2 : (0 - s) * inverse * increment = increment := by rw [h1]; grind
  have h3 : (0 - s) * (increment * inverse) = increment := by grind
  rw [hi] at h3
  grind

theorem distance_step_lt {s : UInt64} (h : ¬ word (s + increment) >>> 1 < limit) :
    (distance (s + increment)).toNat < (distance s).toNat := by
  have hne : distance s ≠ 0 := fun h0 => h (by rw [eq_zero_of_distance h0]; decide)
  have hpos : (distance s).toNat ≠ 0 := fun h0 => hne (UInt64.toNat_inj.1 (by simpa using h0))
  rw [distance_step]
  have h1 : (1 : UInt64).toNat = 1 := rfl
  have hle : (1 : UInt64) ≤ distance s := by
    rw [UInt64.le_iff_toNat_le, h1]; omega
  rw [UInt64.toNat_sub_of_le _ _ hle, h1]
  omega

/-- The next 63-bit number below `limit` and the state that yields it. -/
def nextBits (s : UInt64) : UInt64 × UInt64 :=
  let s' := s + increment
  if word s' >>> 1 < limit then (word s' >>> 1, s') else nextBits s'
termination_by (distance s).toNat
decreasing_by exact distance_step_lt ‹_›

/-- The next draw: 63 bits divided by `2 ^ 63`, drawn again while that rounds to one. -/
def next (g : Generator) : Float × Generator :=
  let p := nextBits g.state
  (p.1.toFloat * Float.ofBits 0x3c00000000000000, ⟨p.2⟩)

instance : Source Generator := ⟨next⟩

/-- The first `n` draws. -/
def take : Nat → Generator → List Float
  | 0, _ => []
  | n + 1, g => g.next.1 :: take n g.next.2

end Generator

/-- The generator of a seed. -/
def seeded (seed : UInt64) : Generator := ⟨seed⟩

end FunctionLoad
