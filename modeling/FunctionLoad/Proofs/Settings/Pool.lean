import FunctionLoad.Proofs.Payload.Run
import FunctionLoad.Proofs.Settings.File

/-!
# Pools of settings that were loaded

A model without slots falls back to payloads of no pool. Settings that were loaded do not get there:
whichever way the size of a pool takes, as a number or a text of a file, as the value of a key or as
a default, it comes out above zero.

* `Model.events_ofPool`, **`Model.exists_pooled_of_select`**: what a model does that has slots.
* `GivesSlots`, **`givesSlots_ofFile`**, `givesSlots_ofKeys`: what loading comes to, and that its
  pools have slots.
* **`pooled_of_load`**: a run of loaded settings has a slot for every iteration.
-/

namespace FunctionLoad

open FunctionLoad.Payload

/-! ## Models with slots -/

namespace Payload.Model

/-- A pool with slots is nothing to note. -/
theorem events_ofPool {p : Pool} (h : 0 < p.size) : (ofPool p).events = [] := by
  have hs : (p.size == 0) = false := beq_eq_false_iff_ne.mpr (UInt64.pos_iff_ne_zero.mp h)
  simp [ofPool, make, Logged.noteIf, hs, Logged.silent]

variable (m : Model) (iteration : UInt64) {σ : Type} [Source σ] (source : σ)

/-- An iteration selects the index of its payload, whatever the workload is. -/
theorem select_eq_payloadOf (w : Workload) :
    (m.select iteration source).1 = (m.payloadOf w iteration (Source.drawAt 0 source)).index :=
  congrArg (fun p : Selected × σ => p.1.index) (m.value_next w iteration source)

/-- **A model with slots that uses them has one for every iteration and every draw.** -/
theorem exists_pooled_of_select (hs : 0 < m.size) (hm : m.mode ≠ .legacyRandom) :
    ∃ slot, (m.select iteration source).1 = .pooled slot ∧ slot < m.size := by
  have hf := m.follows_payloadOf .wordStats iteration (Source.drawAt 0 source)
  rw [select_eq_payloadOf m iteration source .wordStats]
  cases hi : (m.payloadOf .wordStats iteration (Source.drawAt 0 source)).index with
  | pooled slot => exact ⟨slot, rfl, (hf.pooled slot hi).1⟩
  | unpooled =>
    rcases hf.unpooled_iff.mp hi with h | h
    · exact absurd h hm
    · exact absurd h (UInt64.pos_iff_ne_zero.mp hs)

end Payload.Model

/-! ## Ways to load -/

namespace Settings

/-- **What loading comes to where every pool has slots**: settings with slots, or an error that is
no refusal, or a refusal of the target. -/
structure GivesSlots (x : Except LoadError Settings) : Prop where
  domain : ∀ r, x = .error (.refused r) → r.domain = .target
  size_pos : ∀ s, x = .ok s → 0 < s.payload.size

/-- Settings with slots are refused for their target only. -/
theorem givesSlots_checked {s : Settings} (h : 0 < s.payload.size) :
    GivesSlots (refusing s.checked) where
  domain r hr := by
    obtain ⟨r', hr', hc⟩ := refusing_checked_eq_error_iff.mp hr
    obtain rfl := LoadError.refused.inj hr'
    obtain ⟨v, rfl, -⟩ := (check_eq_error_iff h).mp hc
    rfl
  size_pos t ht := by
    obtain ⟨rfl, -⟩ := refusing_checked_eq_ok_iff.mp ht
    exact h

/-- A file that says nothing is not refused. -/
theorem givesSlots_error {e : LoadError} (h : ∀ r, e ≠ .refused r) : GivesSlots (.error e) where
  domain r hr := absurd (Except.error.inj hr) (h r)
  size_pos _ hs := nomatch hs

variable (family : String) (lookup : Lookup) (path : String) (file : File)

/-- The size of a pool is above zero whether it is a number of a file, a text of it, the value of a
key or a default. -/
theorem givesSlots_ofFile : GivesSlots (ofFile family lookup path file).value := by
  cases hf : file.text with
  | error fault =>
    have hv : (ofFile family lookup path file).value = .error (.unreadable fault) := by
      simp [ofFile, hf]
    rw [hv]
    exact givesSlots_error fun r hr => by cases hr
  | ok text =>
    cases hd : Draft.ofText text with
    | mk d sound =>
      cases sound with
      | true =>
        rw [value_ofFile_draft family lookup path hf hd]
        exact givesSlots_checked (size_pos_override family lookup d)
      | false =>
        have hv : (ofFile family lookup path file).value = .error .malformed := by
          simp [ofFile, ofFileText, hf, value_read, hd]
        rw [hv]
        exact givesSlots_error fun r hr => by cases hr

theorem givesSlots_ofKeys : GivesSlots (refusing (ofKeys family lookup).value) :=
  givesSlots_checked (sound_override family lookup sound_default).size_pos

/-- **A run of loaded settings never falls back to payloads of no pool.** Settings of a file or of
keys alone are refused for their target, and never for their pool or their logging, whatever file,
values and family there are. Where they are not refused their model notes nothing; and if it is to
use the slots of a pool, in turn or at random, it has one below the size of the pool for every
iteration and every draw. -/
theorem pooled_of_load :
    (∀ r, (ofFile family lookup path file).value = .error (.refused r) → r.domain = .target) ∧
    (∀ r, (ofKeys family lookup).value = .error r → r.domain = .target) ∧
    ∀ s, (ofFile family lookup path file).value = .ok s ∨ (ofKeys family lookup).value = .ok s →
      (Model.ofPool s.payload).events = [] ∧
      (s.payload.mode = .poolSequential ∨ s.payload.mode = .poolRandom →
        ∀ (iteration : UInt64) {σ : Type} [Source σ] (source : σ),
          ∃ slot, ((Model.ofPool s.payload).value.select iteration source).1 = .pooled slot ∧
            slot < s.payload.size) := by
  have hfile := givesSlots_ofFile family lookup path file
  have hkeys := givesSlots_ofKeys family lookup
  refine ⟨hfile.domain, fun r hr => hkeys.domain r (by rw [hr]; rfl), fun s hs => ?_⟩
  have hpos : 0 < s.payload.size := by
    rcases hs with hs | hs
    · exact hfile.size_pos s hs
    · exact hkeys.size_pos s (by rw [hs]; rfl)
  refine ⟨Model.events_ofPool hpos, fun hm iteration σ _ source => ?_⟩
  refine Model.exists_pooled_of_select _ iteration source hpos fun hl => ?_
  rcases hm with hm | hm <;> exact absurd (hm.symm.trans hl) (by decide)

/-- A file that asks for a pool without slots gets one of the default size. A URL that is none is
refused as one of the target. -/
theorem pooled_of_load_default_size :
    (∃ s, (ofFile defaultFamily (fun _ => none) "config.yaml"
        (.bytes "payload:\n  selection_mode: pool-random\n  pool_size: 0\n".toUTF8)).value = .ok s ∧
      s.payload = ⟨.poolRandom, 5000⟩ ∧ (Model.ofPool s.payload).events = [] ∧
      ∃ slot, ((Model.ofPool s.payload).value.select 7 (⟨[], 0⟩ : Tape)).1 = .pooled slot ∧
        slot < s.payload.size) ∧
    ∃ r, (ofKeys defaultFamily fun _ => some "nowhere").value = .error r ∧ r.domain = .target := by
  have hd : Draft.ofText "payload:\n  selection_mode: pool-random\n  pool_size: 0\n" =
      ({ selectionMode := some "pool-random", poolSize := some "0" }, true) := by
    decide +kernel
  have hs : (ofFile defaultFamily (fun _ => none) "config.yaml"
      (.bytes "payload:\n  selection_mode: pool-random\n  pool_size: 0\n".toUTF8)).value =
        .ok { payload := ⟨.poolRandom, 5000⟩ } := by
    rw [value_ofFile_draft defaultFamily (fun _ => none) "config.yaml" (text_toUTF8 _) hd]
    rfl
  have hr : (ofKeys defaultFamily fun _ => some "nowhere").value =
      .error ⟨.target, .invalidUrl "base_url" .relative⟩ := rfl
  obtain ⟨-, -, hload⟩ := pooled_of_load defaultFamily (fun _ => none) "config.yaml"
    (.bytes "payload:\n  selection_mode: pool-random\n  pool_size: 0\n".toUTF8)
  obtain ⟨he, hp⟩ := hload _ (.inl hs)
  exact ⟨⟨_, hs, rfl, he, hp (.inr rfl) 7 _⟩, _, hr,
    (pooled_of_load defaultFamily (fun _ => some "nowhere") "config.yaml" .missing).2.1 _ hr⟩

end Settings

end FunctionLoad
