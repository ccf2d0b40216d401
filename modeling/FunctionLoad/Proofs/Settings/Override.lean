import FunctionLoad.Settings.Override
import Mathlib.Tactic.SplitIfs

/-!
# Which settings keys can make

Every key has its own way with values that say nothing, but none of them lets a pool without slots
or a timeout without seconds through. So nothing but the base URL is left to be refused.

* `Settings.Sound`: settings that satisfy all requirements but the one on the base URL.
* `positiveOr_pos`, `seconds?_pos`: numbers that are read are above zero.
* **`Settings.sound_override`**: keys make sound settings of sound ones, whatever their values are.
* **`Settings.check_of_sound`**: the check of sound settings is that of their base URL.
* `Settings.UrlRefused`, **`Settings.ofKeys_eq_error_iff`**: keys are refused just if the one of the
  base URL is, and make sound settings otherwise.
-/

namespace FunctionLoad

open FunctionLoad.Settings

/-! ## Numbers that are read -/

namespace Settings

theorem leadingNumber?_pos {cs : List Char} {n : UInt64} (h : leadingNumber? cs = some n) :
    0 < n := by
  unfold leadingNumber? at h
  dsimp only at h
  split_ifs at h with hc
  obtain rfl := Option.some.inj h
  rw [UInt64.lt_iff_toNat_lt, UInt64.toNat_ofNat_of_lt' hc.2]
  exact hc.1

theorem positiveOr_pos {fallback : UInt64} (h : 0 < fallback) (s : String) :
    0 < positiveOr fallback s := by
  unfold positiveOr
  cases hn : (unsignedPart s).bind leadingNumber? with
  | none => exact h
  | some n =>
    obtain ⟨cs, -, hcs⟩ := Option.bind_eq_some_iff.mp hn
    exact leadingNumber?_pos hcs

theorem seconds?_pos {s : String} {n : UInt64} (h : seconds? s = some n) : 0 < n := by
  unfold seconds? at h
  simpa using (Option.filter_eq_some_iff.mp h).2

/-! ## Sound settings -/

/-- **All requirements but the one on the base URL**: a pool with slots and a timeout of a second or
more. -/
structure Sound (s : Settings) : Prop where
  size_pos : 0 < s.payload.size
  seconds_pos : 0 < s.target.timeout.seconds

theorem sound_default : ({} : Settings).Sound := by
  refine ⟨?_, ?_⟩
  · show 0 < defaultPoolSize
    decide
  · show 0 < (Duration.ofSeconds 30).seconds
    decide

theorem overridePoolSize_pos (value : Option String) {current : UInt64} (h : 0 < current) :
    0 < overridePoolSize value current := by
  cases value with
  | none => exact h
  | some s =>
    have hd : 0 < defaultPoolSize := by decide
    exact positiveOr_pos hd s

/-- A timeout is that of its key if the value is a number of seconds above zero. -/
theorem value_overrideTimeout (key : String) (value : Option String) (current : Duration) :
    (overrideTimeout key value current).value =
      ((value.bind seconds?).map fun n => Duration.ofSeconds n.toNat).getD current := by
  unfold overrideTimeout
  cases value with
  | none => rfl
  | some s =>
    rw [Option.bind_some]
    cases hn : seconds? s <;> simp [hn]

theorem overrideTimeout_pos (key : String) (value : Option String) {current : Duration}
    (h : 0 < current.seconds) : 0 < (overrideTimeout key value current).value.seconds := by
  rw [value_overrideTimeout]
  cases hn : value.bind seconds? with
  | none => exact h
  | some n =>
    obtain ⟨s, -, hs⟩ := Option.bind_eq_some_iff.mp hn
    have hp := UInt64.lt_iff_toNat_lt.mp (seconds?_pos hs)
    simpa using hp

variable (family : String) (lookup : Lookup)

/-- **Keys make sound settings of sound ones**, whatever their values are. -/
theorem sound_override {s : Settings} (h : s.Sound) : (s.override family lookup).value.Sound :=
  ⟨overridePoolSize_pos _ h.size_pos, overrideTimeout_pos _ _ h.seconds_pos⟩

theorem baseUrl_override (s : Settings) : (s.override family lookup).value.target.baseUrl =
    overrideBaseUrl (lookup (Key.baseUrl.name family)) s.target.baseUrl := rfl

/-! ## Checks -/

theorem positive_eq_ok_iff {field : String} {n : Nat} : positive field n = .ok () ↔ 0 < n := by
  unfold positive require
  split_ifs with h
  · exact iff_of_true rfl (of_decide_eq_true h)
  · exact iff_of_false (fun he => by cases he) (fun hn => h (decide_eq_true hn))

/-- **The check of sound settings is that of their base URL.** -/
theorem check_of_sound {s : Settings} (h : s.Sound) :
    s.check = within .target (httpUrl "base_url" s.target.baseUrl) := by
  have hp : s.payload.check = .ok () := by
    rw [Pool.check, positive_eq_ok_iff.mpr (UInt64.lt_iff_toNat_lt.mp h.size_pos)]
    rfl
  have hl : s.logging.check = .ok () := rfl
  rw [check, Target.check, positive_eq_ok_iff.mpr h.seconds_pos, hp, hl]
  cases httpUrl "base_url" s.target.baseUrl <;> rfl

theorem checked_of_sound {s : Settings} (h : s.Sound) :
    s.checked = (within .target (httpUrl "base_url" s.target.baseUrl)).map fun _ => s := by
  rw [checked, check_of_sound h]

/-! ## Settings of keys -/

/-- The value of the key of the base URL is there, and is refused with a violation. -/
def UrlRefused (family : String) (lookup : Lookup) (v : Violation) : Prop :=
  ∃ url, lookup (Key.baseUrl.name family) = some url ∧ url ≠ "" ∧
    httpUrl "base_url" url = .error v

theorem overrideBaseUrl_none (current : String) : overrideBaseUrl none current = current := rfl

theorem overrideBaseUrl_empty (current : String) :
    overrideBaseUrl (some "") current = current := rfl

theorem overrideBaseUrl_some {url : String} (h : url ≠ "") (current : String) :
    overrideBaseUrl (some url) current = url := by
  simp [overrideBaseUrl, nonEmptyValue, Option.filter, h]

/-- The default of the base URL is fine, so only the value of its key can be refused. -/
theorem httpUrl_overrideBaseUrl (v : Violation) :
    httpUrl "base_url" (overrideBaseUrl (lookup (Key.baseUrl.name family))
      ({} : Settings).target.baseUrl) = .error v ↔ UrlRefused family lookup v := by
  have hd : httpUrl "base_url" ({} : Settings).target.baseUrl ≠ .error v := fun h => by cases h
  unfold UrlRefused
  cases hv : lookup (Key.baseUrl.name family) with
  | none => simp [overrideBaseUrl_none, hd]
  | some url =>
    by_cases hu : url = ""
    · simp [hu, overrideBaseUrl_empty, hd]
    · simp [hu, overrideBaseUrl_some hu]

theorem value_ofKeys : (ofKeys family lookup).value =
    (within .target (httpUrl "base_url" (overrideBaseUrl (lookup (Key.baseUrl.name family))
      ({} : Settings).target.baseUrl))).map fun _ => (Settings.override family lookup {}).value :=
  checked_of_sound (sound_override family lookup sound_default)

/-- **Keys are refused just if the one of the base URL is**, whatever the other keys hold; the
refusal is one of the target. Otherwise they make settings with a pool that has slots and a timeout
of a second or more. -/
theorem ofKeys_eq_error_iff :
    (∀ r, (ofKeys family lookup).value = .error r ↔
      ∃ v, UrlRefused family lookup v ∧ r = ⟨.target, v⟩ ∧
        r.message = "Domain configuration error in target: " ++ v.message) ∧
    ((¬ ∃ v, UrlRefused family lookup v) →
      ∃ s, (ofKeys family lookup).value = .ok s ∧ 1 ≤ s.payload.size ∧
        1 ≤ s.target.timeout.seconds) := by
  have hf := httpUrl_overrideBaseUrl family lookup
  rw [value_ofKeys]
  cases hu : httpUrl "base_url" (overrideBaseUrl (lookup (Key.baseUrl.name family))
    ({} : Settings).target.baseUrl) with
  | error v =>
    rw [hu] at hf
    have hv : UrlRefused family lookup v := (hf v).mp rfl
    refine ⟨fun r => ⟨?_, ?_⟩, fun h => absurd ⟨v, hv⟩ h⟩
    · intro h
      cases h
      exact ⟨v, hv, rfl, rfl⟩
    · rintro ⟨w, hw, rfl, -⟩
      cases (hf w).mpr hw
      rfl
  | ok u =>
    rw [hu] at hf
    have hn : ∀ v, ¬ UrlRefused family lookup v := fun v hv => by cases (hf v).mpr hv
    have hs := sound_override family lookup sound_default
    refine ⟨fun r => ⟨?_, ?_⟩, fun _ => ⟨_, rfl, ?_, hs.seconds_pos⟩⟩
    · intro h
      cases h
    · rintro ⟨v, hv, -⟩
      exact absurd hv (hn v)
    · exact UInt64.le_iff_toNat_le.mpr (UInt64.lt_iff_toNat_lt.mp hs.size_pos)

end Settings

end FunctionLoad
