import FunctionLoad.Payload.Model
import Mathlib.Tactic.SplitIfs

/-!
# Runs and their draws

* `Source.skip`, `Source.drawAt`: the source after a number of draws, and a draw by its number.
* `Draws`: draws fixed for ever, of which those that were taken are counted.
* **`slotOfDraw_lt`**: every double falls into a slot.
* `Model.payloadOf`, **`Model.value_next`**: one step, which takes its draws and no more.
* `Model.run`, **`Model.source_run`**, **`Model.payloads_run`**: the steps of a run.
* **`Model.run_reproducible`**: what a run yields, what it takes, and what it depends on.
-/

namespace FunctionLoad

/-! ## Draws -/

namespace Source

variable {σ : Type} [Source σ]

/-- The source after a number of draws. -/
def skip : Nat → σ → σ
  | 0, source => source
  | n + 1, source => skip n (draw source).2

/-- A draw by its number; the first one has number zero. -/
def drawAt (i : Nat) (source : σ) : Float :=
  (draw (skip i source)).1

theorem skip_add (n k : Nat) (source : σ) : skip k (skip n source) = skip (n + k) source := by
  induction n generalizing source with
  | zero => rw [Nat.zero_add]; rfl
  | succ n ih => rw [Nat.add_right_comm]; exact ih _

theorem drawAt_skip (n i : Nat) (source : σ) : drawAt i (skip n source) = drawAt (n + i) source := by
  rw [drawAt, skip_add, drawAt]

end Source

/-- Draws fixed in advance for ever, and how many were taken. -/
structure Draws where
  value : Nat → Float
  used : Nat := 0

instance : Source Draws := ⟨fun d => (d.value d.used, { d with used := d.used + 1 })⟩

theorem Draws.used_skip (n : Nat) : ∀ d : Draws, (Source.skip n d).used = d.used + n := by
  induction n with
  | zero => intro d; rfl
  | succ n ih =>
    intro d
    rw [Source.skip, ih]
    show d.used + 1 + n = d.used + (n + 1)
    omega

namespace Payload

/-- **A draw falls into a slot of every pool that is not empty**, whatever double it is. -/
theorem slotOfDraw_lt {n : UInt64} (h : n ≠ 0) (x : Float) : slotOfDraw n x < n := by
  have hn : 0 < n.toNat := Nat.pos_of_ne_zero fun h0 => h (UInt64.toNat_inj.mp h0)
  have h1 : (1 : UInt64) ≤ n := UInt64.le_iff_toNat_le.mpr hn
  have hs : (n - 1).toNat = n.toNat - 1 := UInt64.toNat_sub_of_le n 1 h1
  have hm : slotOfDraw n x ≤ n - 1 := by
    rw [slotOfDraw]
    exact Std.min_le_right
  rw [UInt64.le_iff_toNat_le, hs] at hm
  rw [UInt64.lt_iff_toNat_lt]
  omega

/-! ## Steps -/

namespace Model

/-- How many draws a step takes. Only the slots of a pool in turn need none. -/
def drawsPerStep (m : Model) : Nat :=
  if m.mode = .poolSequential ∧ m.size ≠ 0 then 0 else 1

/-- The payload of a step for a draw. -/
def payloadOf (m : Model) (w : Workload) (iteration : UInt64) (x : Float) : Selected :=
  if m.size = 0 then ⟨.unpooled, .ofSeed w (slotOfDraw freshSeeds x)⟩
  else
    match m.mode with
    | .poolSequential => ⟨.pooled (iteration % m.size), .ofSeed w (iteration % m.size)⟩
    | .poolRandom => ⟨.pooled (slotOfDraw m.size x), .ofSeed w (slotOfDraw m.size x)⟩
    | .legacyRandom => ⟨.unpooled, .ofSeed w (slotOfDraw freshSeeds x)⟩

/-- What a payload has to satisfy, given the draw of its step. -/
structure Follows (m : Model) (w : Workload) (x : Float) (s : Selected) : Prop where
  unpooled_iff : s.index = .unpooled ↔ m.mode = .legacyRandom ∨ m.size = 0
  pooled : ∀ k, s.index = .pooled k → k < m.size ∧ s.input = .ofSeed w k
  fresh : s.index = .unpooled →
    slotOfDraw freshSeeds x < 1000000 ∧ s.input = .ofSeed w (slotOfDraw freshSeeds x)

variable (m : Model) (w : Workload) (iteration : UInt64)

/-- A slot of the pool, with its input, is what a mode that uses the pool has to give. -/
theorem follows_pooled (hm : m.mode ≠ .legacyRandom) {slot : UInt64} (hs : slot < m.size) (x : Float) :
    m.Follows w x ⟨.pooled slot, .ofSeed w slot⟩ where
  unpooled_iff := by
    have hsize : m.size ≠ 0 := fun h0 => UInt64.not_lt_zero (h0 ▸ hs)
    exact ⟨fun hi => Index.noConfusion hi, fun ho => absurd ho (not_or.mpr ⟨hm, hsize⟩)⟩
  pooled := by
    rintro k ⟨⟩
    exact ⟨hs, rfl⟩
  fresh := fun hi => Index.noConfusion hi

theorem follows_payloadOf (x : Float) : m.Follows w x (m.payloadOf w iteration x) := by
  have hx : slotOfDraw freshSeeds x < 1000000 := slotOfDraw_lt (by decide) x
  unfold payloadOf
  by_cases h : m.size = 0
  · rw [if_pos h]
    exact ⟨⟨fun _ => Or.inr h, fun _ => rfl⟩, fun k hk => Index.noConfusion hk, fun _ => ⟨hx, rfl⟩⟩
  · rw [if_neg h]
    cases hm : m.mode with
    | legacyRandom =>
      exact ⟨⟨fun _ => Or.inl hm, fun _ => rfl⟩, fun k hk => Index.noConfusion hk,
        fun _ => ⟨hx, rfl⟩⟩
    | poolSequential =>
      exact follows_pooled m w (by simp [hm]) (UInt64.mod_lt _ (UInt64.pos_iff_ne_zero.mpr h)) x
    | poolRandom => exact follows_pooled m w (by simp [hm]) (slotOfDraw_lt h x) x

/-- The slots of a pool in turn do not depend on draws. -/
theorem payloadOf_eq_of_drawsPerStep (h : m.drawsPerStep = 0) (x y : Float) :
    m.payloadOf w iteration x = m.payloadOf w iteration y := by
  unfold drawsPerStep at h
  by_cases hc : m.mode = .poolSequential ∧ m.size ≠ 0
  · simp only [payloadOf, if_neg hc.2, hc.1]
  · rw [if_neg hc] at h
    exact absurd h (by decide)

variable {σ : Type} [Source σ]

/-- **A step takes its draws and no more**, wherever its single draw is used. -/
theorem value_next (source : σ) : (m.next w iteration source).value =
    (m.payloadOf w iteration (Source.drawAt 0 source), Source.skip m.drawsPerStep source) := by
  show (let p := Payload.select m.mode m.size iteration source
    let q := Input.build w p.1 p.2
    ((⟨p.1, q.1⟩, q.2) : Selected × σ)) = _
  unfold Payload.select payloadOf drawsPerStep
  by_cases h : m.size = 0
  · simp only [h, if_true]
    rw [if_neg (by simp)]
    rfl
  · simp only [h, if_false]
    cases hm : m.mode with
    | legacyRandom => rw [if_neg (by simp)]; rfl
    | poolSequential => rw [if_pos ⟨rfl, h⟩]; rfl
    | poolRandom => rw [if_neg (by simp)]; rfl

/-! ## Runs -/

/-- The payloads of consecutive steps, each a workload and an iteration, and the source after
them. -/
def run (m : Model) : List (Workload × UInt64) → σ → Logged (List Selected × σ)
  | [], source => pure ([], source)
  | (w, iteration) :: steps, source => do
    let (s, source) ← m.next w iteration source
    let (rest, source) ← run m steps source
    return (s :: rest, source)

/-- How many draws a number of steps takes. -/
def drawsOf (m : Model) (n : Nat) : Nat :=
  if m.mode = .poolSequential ∧ m.size ≠ 0 then 0 else n

theorem drawsOf_eq (n : Nat) : m.drawsOf n = n * m.drawsPerStep := by
  unfold drawsOf drawsPerStep
  split_ifs
  · rw [Nat.mul_zero]
  · rw [Nat.mul_one]

theorem value_run_cons (steps : List (Workload × UInt64)) (source : σ) :
    (m.run ((w, iteration) :: steps) source).value =
      (m.payloadOf w iteration (Source.drawAt 0 source) ::
        (m.run steps (Source.skip m.drawsPerStep source)).value.1,
        (m.run steps (Source.skip m.drawsPerStep source)).value.2) := by
  show ((m.next w iteration source).value.1 ::
    (m.run steps (m.next w iteration source).value.2).value.1,
    (m.run steps (m.next w iteration source).value.2).value.2) = _
  rw [value_next]

/-- **A run takes the draws of its steps and no more.** -/
theorem source_run (steps : List (Workload × UInt64)) (source : σ) :
    (m.run steps source).value.2 = Source.skip (m.drawsOf steps.length) source := by
  induction steps generalizing source with
  | nil => rw [drawsOf_eq, List.length_nil, Nat.zero_mul]; rfl
  | cons s steps ih =>
    obtain ⟨w, iteration⟩ := s
    rw [value_run_cons]
    dsimp only
    rw [ih, Source.skip_add, drawsOf_eq, drawsOf_eq, List.length_cons, Nat.succ_mul, Nat.add_comm]

/-- **A payload of a run is that of its step, for the draw of its step.** -/
theorem payloads_run (steps : List (Workload × UInt64)) (source : σ) :
    (m.run steps source).value.1 = steps.mapIdx fun i s =>
      m.payloadOf s.1 s.2 (Source.drawAt (i * m.drawsPerStep) source) := by
  induction steps generalizing source with
  | nil => rfl
  | cons s steps ih =>
    obtain ⟨w, iteration⟩ := s
    rw [value_run_cons, List.mapIdx_cons, Nat.zero_mul]
    dsimp only
    rw [ih]
    simp only [Source.drawAt_skip, Nat.succ_mul, Nat.add_comm]

/-- A step that takes a draw takes the one with its own number. -/
theorem payloadOf_drawAt (i : Nat) (source : σ) :
    m.payloadOf w iteration (Source.drawAt (i * m.drawsPerStep) source) =
      m.payloadOf w iteration (Source.drawAt i source) := by
  by_cases hd : m.drawsPerStep = 0
  · exact m.payloadOf_eq_of_drawsPerStep w iteration hd _ _
  · have h1 : m.drawsPerStep = 1 := by
      unfold drawsPerStep at hd ⊢
      split_ifs at hd ⊢
      · exact absurd rfl hd
      · rfl
    rw [h1, Nat.mul_one]

variable {τ : Type} [Source τ]

/-- Runs over sources that agree on the draws that are taken have equal payloads. -/
theorem payloads_run_congr (steps : List (Workload × UInt64)) (source : σ) (other : τ)
    (h : ∀ i < m.drawsOf steps.length, Source.drawAt i source = Source.drawAt i other) :
    (m.run steps source).value.1 = (m.run steps other).value.1 := by
  rw [payloads_run, payloads_run]
  refine List.ext_getElem (by rw [List.length_mapIdx, List.length_mapIdx]) fun i h1 _ => ?_
  rw [List.length_mapIdx] at h1
  rw [List.getElem_mapIdx, List.getElem_mapIdx]
  by_cases hd : m.drawsPerStep = 0
  · exact m.payloadOf_eq_of_drawsPerStep _ _ hd _ _
  · rw [h]
    rw [drawsOf_eq]
    exact Nat.mul_lt_mul_of_pos_right h1 (Nat.pos_of_ne_zero hd)

/-- **A run is reproducible.** Each payload has a slot of the pool, or none where there is no pool,
and the input that this slot or the draw of its own step stands for. The run takes one draw a step,
or none where the slots of a pool come in turn, and depends on nothing else of its source. -/
theorem run_reproducible (steps : List (Workload × UInt64)) (source : σ) (other : τ) :
    (m.run steps source).value.1.length = steps.length ∧
      (∀ i w iteration, steps[i]? = some (w, iteration) →
        ∃ s, (m.run steps source).value.1[i]? = some s ∧
          m.Follows w (Source.drawAt i source) s) ∧
      (m.run steps source).value.2 = Source.skip (m.drawsOf steps.length) source ∧
      (∀ draws : Draws, (m.run steps draws).value.2.used = draws.used + m.drawsOf steps.length) ∧
      (m.mode = .poolSequential → m.size ≠ 0 →
        (m.run steps source).value.1 = (m.run steps other).value.1) ∧
      ((∀ i < m.drawsOf steps.length, Source.drawAt i source = Source.drawAt i other) →
        (m.run steps source).value.1 = (m.run steps other).value.1) := by
  refine ⟨?_, fun i w iteration hi => ?_, m.source_run steps source, fun draws => ?_,
    fun hm hs => ?_, m.payloads_run_congr steps source other⟩
  · rw [payloads_run, List.length_mapIdx]
  · rw [payloads_run, List.getElem?_mapIdx, hi]
    refine ⟨_, rfl, ?_⟩
    dsimp only
    rw [payloadOf_drawAt]
    exact m.follows_payloadOf w iteration _
  · rw [source_run, Draws.used_skip]
  · refine m.payloads_run_congr steps source other fun i hi => ?_
    rw [drawsOf, if_pos ⟨hm, hs⟩] at hi
    exact absurd hi (Nat.not_lt_zero i)

end Model

end Payload

end FunctionLoad
