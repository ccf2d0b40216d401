import FunctionLoad.Settings.Source
import FunctionLoad.Proofs.Decimal
import FunctionLoad.Proofs.Settings.Override

/-!
# Settings in layers

Keys lie on top of other settings. Each of the seven settings has a key of its own: a text that its
key accepts takes the place of the setting, whatever that was, and nothing else touches it.

* `Key.Value`, `Key.get`: the setting that a key is for.
* `Key.value?`: what the text of a key stands for; `Key.Accepts`: the texts that stand for
  anything.
* `IsPositiveWord`, `isSome_seconds?_iff`: the numbers of seconds that are accepted.
* **`Key.name_injective`**: keys have names of their own, whatever the family is called.
* **`Key.get_override`**: a setting under the value of its key; `eq_of_get_eq`: there are no others.
* **`override_layered`**: the laws of layers.
-/

namespace FunctionLoad.Settings

open FunctionLoad.Text FunctionLoad.Decimal

/-! ## Numbers of seconds -/

/-- A number above zero that fits in 64 bits, in decimal digits with an optional plus in front. -/
def IsPositiveWord (cs : List Char) : Prop :=
  ∃ sign ds : List Char, cs = sign ++ ds ∧ (sign = [] ∨ sign = ['+']) ∧
    ds ≠ [] ∧ (∀ c ∈ ds, isDigit c = true) ∧ 0 < ofDigits 10 ds ∧ ofDigits 10 ds < UInt64.size

theorem isSome_seconds?_iff (s : String) :
    (seconds? s).isSome = true ↔ IsPositiveWord (trim s).toList := by
  rw [Option.isSome_iff_exists]
  constructor
  · rintro ⟨n, hn⟩
    obtain ⟨hw, hpos⟩ := Option.filter_eq_some_iff.mp hn
    obtain ⟨m, hm, hlt⟩ := Option.bind_eq_some_iff.mp hw
    obtain ⟨sign, ds, hcs, hsign, hne, hdig, rfl⟩ := natural?_eq_some_iff.mp hm
    split_ifs at hlt with hsize
    cases hlt
    rw [decide_eq_true_eq, UInt64.lt_iff_toNat_lt, UInt64.toNat_ofNat_of_lt' hsize] at hpos
    exact ⟨sign, ds, hcs, hsign, hne, hdig, hpos, hsize⟩
  · rintro ⟨sign, ds, hcs, hsign, hne, hdig, hpos, hsize⟩
    have hm : natural? 10 (trim s).toList = some (ofDigits 10 ds) :=
      natural?_eq_some_iff.mpr ⟨sign, ds, hcs, hsign, hne, hdig, rfl⟩
    have hw : word? (trim s) = some (UInt64.ofNat (ofDigits 10 ds)) := by
      rw [word?, hm, Option.bind_some, if_pos hsize]
    refine ⟨_, Option.filter_eq_some_iff.mpr ⟨hw, ?_⟩⟩
    rw [decide_eq_true_eq, UInt64.lt_iff_toNat_lt, UInt64.toNat_ofNat_of_lt' hsize]
    exact hpos

/-! ## Single settings -/

theorem value_overrideSelectionMode (value : Option String) (current : Selection.Mode) :
    (overrideSelectionMode value current).value =
      ((nonEmptyValue value).map fun text => (Selection.Mode.resolve text).value).getD current := by
  unfold overrideSelectionMode
  cases nonEmptyValue value <;> rfl

theorem value_overrideLevel (key : String) (value : Option String) (current : Log.Level) :
    (overrideLevel key value current).value =
      (value.bind fun text => (Log.Level.parse text).toOption).getD current := by
  unfold overrideLevel
  cases value with
  | none => rfl
  | some text =>
    rw [Option.bind_some]
    dsimp only
    cases Log.Level.parse text <;> rfl

theorem value_overrideFormat (key : String) (value : Option String) (current : Log.Format) :
    (overrideFormat key value current).value =
      (value.bind fun text => (Log.Format.parse text).toOption).getD current := by
  unfold overrideFormat
  cases value with
  | none => rfl
  | some text =>
    rw [Option.bind_some]
    dsimp only
    cases Log.Format.parse text <;> rfl

/-! ## Keys and their settings -/

namespace Key

/-- The values that the setting of a key can have. -/
abbrev Value : Key → Type
  | .baseUrl => String
  | .invocationMode => Invocation.Mode
  | .timeout => Duration
  | .selectionMode => Selection.Mode
  | .poolSize => UInt64
  | .level => Log.Level
  | .format => Log.Format

/-- The setting that a key is for. -/
def get (s : Settings) : (k : Key) → k.Value
  | .baseUrl => s.target.baseUrl
  | .invocationMode => s.target.mode
  | .timeout => s.target.timeout
  | .selectionMode => s.payload.mode
  | .poolSize => s.payload.size
  | .level => s.logging.level
  | .format => s.logging.format

/-- The value that a text of a key stands for, if it stands for any. -/
def value? : (k : Key) → String → Option k.Value
  | .baseUrl, text => nonEmptyValue (some text)
  | .invocationMode, text => some (Invocation.Mode.resolve text)
  | .timeout, text => (seconds? text).map fun n => Duration.ofSeconds n.toNat
  | .selectionMode, text =>
    (nonEmptyValue (some text)).map fun text => (Selection.Mode.resolve text).value
  | .poolSize, text => some (positiveOr defaultPoolSize text)
  | .level, text => (Log.Level.parse text).toOption
  | .format, text => (Log.Format.parse text).toOption

/-- **Which texts a key accepts.** Modes and sizes of pools have a meaning for whatever they do not
know, so their keys accept it. -/
def Accepts : Key → String → Prop
  | .baseUrl, text => text ≠ ""
  | .invocationMode, _ => True
  | .timeout, text => IsPositiveWord (trim text).toList
  | .selectionMode, text => text ≠ ""
  | .poolSize, _ => True
  | .level, text => ∃ level, Log.Level.parse text = .ok level
  | .format, text => ∃ format, Log.Format.parse text = .ok format

theorem isSome_nonEmptyValue {text : String} :
    (nonEmptyValue (some text)).isSome = true ↔ text ≠ "" := by
  by_cases h : text = "" <;> simp [nonEmptyValue, Option.filter, h]

theorem isSome_toOption {ε α : Type} {x : Except ε α} :
    x.toOption.isSome = true ↔ ∃ a, x = .ok a := by
  cases x <;> simp [Except.toOption]

/-- A text stands for a value just if its key accepts it. -/
theorem isSome_value?_iff (k : Key) (text : String) :
    (k.value? text).isSome = true ↔ k.Accepts text := by
  cases k with
  | baseUrl => exact isSome_nonEmptyValue
  | invocationMode => exact ⟨fun _ => trivial, fun _ => rfl⟩
  | timeout =>
    rw [value?, Option.isSome_map]
    exact isSome_seconds?_iff text
  | selectionMode =>
    rw [value?, Option.isSome_map]
    exact isSome_nonEmptyValue
  | poolSize => exact ⟨fun _ => trivial, fun _ => rfl⟩
  | level =>
    rw [value?]
    exact isSome_toOption
  | format =>
    rw [value?]
    exact isSome_toOption

variable (family : String)

/-- The last ten characters of a name, read from its end. -/
def ending (name : String) : List Char :=
  name.toList.reverse.take 10

/-- The family stands in front, so it does not change how a name ends. -/
theorem ending_name (k : Key) : ending (k.name family) = ending (k.name "") := by
  cases k <;> simp [ending, name]

/-- **Keys have names of their own**, whatever the family is called. -/
theorem name_injective : Function.Injective (name family) := by
  intro k k' h
  have hend : ending (k.name "") = ending (k'.name "") := by
    rw [← ending_name family, ← ending_name family, h]
  clear h
  revert hend
  cases k <;> cases k' <;> decide

/-! ## Settings under the values of keys -/

variable (lookup : Lookup) (s : Settings)

/-- **A setting under the value of its key**: a text that the key accepts takes its place, and
everything else leaves it alone. -/
theorem get_override (k : Key) : k.get (s.override family lookup).value =
    ((lookup (k.name family)).bind k.value?).getD (k.get s) := by
  cases k with
  | baseUrl =>
    change overrideBaseUrl (lookup (name family .baseUrl)) s.target.baseUrl = _
    cases lookup (name family .baseUrl) <;> rfl
  | invocationMode =>
    change overrideInvocationMode (lookup (name family .invocationMode)) s.target.mode = _
    cases lookup (name family .invocationMode) <;> rfl
  | timeout =>
    change (overrideTimeout _ (lookup (name family .timeout)) s.target.timeout).value = _
    rw [value_overrideTimeout]
    cases lookup (name family .timeout) with
    | none => rfl
    | some text => rw [Option.bind_some, Option.bind_some, value?, get]
  | selectionMode =>
    change (overrideSelectionMode (lookup (name family .selectionMode)) s.payload.mode).value = _
    rw [value_overrideSelectionMode]
    cases lookup (name family .selectionMode) with
    | none => rfl
    | some text => rw [Option.bind_some, value?, get]
  | poolSize =>
    change overridePoolSize (lookup (name family .poolSize)) s.payload.size = _
    cases lookup (name family .poolSize) <;> rfl
  | level =>
    change (overrideLevel _ (lookup (name family .level)) s.logging.level).value = _
    rw [value_overrideLevel]
    cases lookup (name family .level) with
    | none => rfl
    | some text => rw [Option.bind_some, Option.bind_some, value?, get]
  | format =>
    change (overrideFormat _ (lookup (name family .format)) s.logging.format).value = _
    rw [value_overrideFormat]
    cases lookup (name family .format) with
    | none => rfl
    | some text => rw [Option.bind_some, Option.bind_some, value?, get]

/-- There are no settings but those of keys. -/
theorem eq_of_get_eq {s t : Settings} (h : ∀ k : Key, k.get s = k.get t) : s = t := by
  obtain ⟨⟨url, mode, timeout⟩, ⟨selection, size⟩, ⟨level, format⟩⟩ := s
  obtain ⟨⟨url', mode', timeout'⟩, ⟨selection', size'⟩, ⟨level', format'⟩⟩ := t
  obtain rfl : url = url' := h .baseUrl
  obtain rfl : mode = mode' := h .invocationMode
  obtain rfl : timeout = timeout' := h .timeout
  obtain rfl : selection = selection' := h .selectionMode
  obtain rfl : size = size' := h .poolSize
  obtain rfl : level = level' := h .level
  obtain rfl : format = format' := h .format
  rfl

end Key

section

variable {family : String} {lookup : Lookup} {s : Settings}

/-- A text that its key accepts takes the place of the setting. -/
theorem Key.value?_eq_get_override {k : Key} {text : String}
    (h : lookup (k.name family) = some text) (ha : k.Accepts text) :
    k.value? text = some (k.get (s.override family lookup).value) := by
  obtain ⟨v, hv⟩ := Option.isSome_iff_exists.mp ((k.isSome_value?_iff text).mpr ha)
  rw [get_override, h, Option.bind_some, hv, Option.getD_some]

/-- Without such a text the setting stays as it is. -/
theorem Key.get_override_of_not_accepts {k : Key}
    (h : ∀ text, lookup (k.name family) = some text → ¬ k.Accepts text) :
    k.get (s.override family lookup).value = k.get s := by
  have hn : (lookup (k.name family)).bind k.value? = none := by
    refine Option.bind_eq_none_iff.mpr fun text ht => ?_
    rw [← Option.not_isSome_iff_eq_none, k.isSome_value?_iff]
    exact h text ht
  rw [get_override, hn, Option.getD_none]

/-- Other keys do not matter, not even to what is noted. -/
theorem override_congr {other : Lookup}
    (h : ∀ k : Key, lookup (k.name family) = other (k.name family)) :
    s.override family lookup = s.override family other := by
  unfold Settings.override Target.override Pool.override Logging.override
  simp only [h]

/-- **What is under a key that is accepted does not matter.** -/
theorem override_eq_override
    (h : ∀ k : Key, ∃ text, lookup (k.name family) = some text ∧ k.Accepts text) (t : Settings) :
    (s.override family lookup).value = (t.override family lookup).value := by
  refine Key.eq_of_get_eq fun k => ?_
  obtain ⟨text, ht, ha⟩ := h k
  have hs := Key.value?_eq_get_override (s := s) ht ha
  rw [Key.value?_eq_get_override (s := t) ht ha] at hs
  exact (Option.some.inj hs).symm

/-- **Keys that were looked up change nothing the second time.** -/
theorem override_override : ((s.override family lookup).value.override family lookup).value =
    (s.override family lookup).value := by
  refine Key.eq_of_get_eq fun k => ?_
  rw [Key.get_override, Key.get_override]
  cases (lookup (k.name family)).bind k.value? <;> rfl

end

/-! ## Settings of files -/

/-- The settings of a file are those of its text under the values of the keys, checked. -/
theorem value_ofFile (family : String) (lookup : Lookup) (path : String) {file : File}
    {text : String} {s : Settings} (hf : file.text = .ok text)
    (hs : (Settings.read text).value = some s) :
    (ofFile family lookup path file).value =
      refusing (s.override family lookup).value.checked := by
  simp [ofFile, ofFileText, hf, hs]

/-! ## Layers -/

/-- **Keys are layers on top of settings.** Their names differ, whatever the family is called. A
text that a key accepts takes the place of its setting, whatever that was; without one the setting
stays. So a setting depends on its own key and on nothing else, and keys of other names do not
matter. Under keys that are all accepted two files make no difference, and keys that were looked up
change nothing the second time. -/
theorem override_layered (family : String) :
    (∀ k k' : Key, k.name family = k'.name family → k = k') ∧
    (∀ (lookup : Lookup) (s : Settings) (k : Key),
      (∀ text, lookup (k.name family) = some text → k.Accepts text →
        k.value? text = some (k.get (s.override family lookup).value)) ∧
      ((∀ text, lookup (k.name family) = some text → ¬ k.Accepts text) →
        k.get (s.override family lookup).value = k.get s)) ∧
    (∀ (lookup other : Lookup) (s t : Settings) (k : Key),
      lookup (k.name family) = other (k.name family) → k.get s = k.get t →
      k.get (s.override family lookup).value = k.get (t.override family other).value) ∧
    (∀ (lookup other : Lookup) (s : Settings),
      (∀ k : Key, lookup (k.name family) = other (k.name family)) →
      s.override family lookup = s.override family other) ∧
    (∀ lookup : Lookup,
      (∀ k : Key, ∃ text, lookup (k.name family) = some text ∧ k.Accepts text) →
      ∀ (path path' : String) (file file' : File) (text text' : String) (s s' : Settings),
        file.text = .ok text → (Settings.read text).value = some s →
        file'.text = .ok text' → (Settings.read text').value = some s' →
        (ofFile family lookup path file).value = (ofFile family lookup path' file').value) ∧
    (∀ (lookup : Lookup) (s : Settings),
      ((s.override family lookup).value.override family lookup).value =
        (s.override family lookup).value) := by
  refine ⟨fun k k' h => Key.name_injective family h, fun lookup s k => ⟨fun text => ?_, ?_⟩,
    fun lookup other s t k hk hs => ?_, fun lookup other s => override_congr, ?_,
    fun lookup s => override_override⟩
  · exact Key.value?_eq_get_override
  · exact Key.get_override_of_not_accepts
  · rw [Key.get_override, Key.get_override, hk, hs]
  · intro lookup hall path path' file file' text text' s s' hf hs hf' hs'
    rw [value_ofFile family lookup path hf hs, value_ofFile family lookup path' hf' hs',
      override_eq_override hall s']

end FunctionLoad.Settings
