import FunctionLoad.Proofs.Decimal
import FunctionLoad.Proofs.Settings.RoundTrip
import FunctionLoad.Proofs.Settings.Layer

/-!
# Settings of files

A file may say things that mean nothing: an unknown mode, a pool without slots, a timeout of no
time. All of them but the last one are read as the default of their setting. No time at all is kept
as it stands, and then the check refuses it unless a key puts another timeout on top.

* `Draft.says?`, `Key.Denotes`: what a file says for a key, and what such a text denotes there.
* `Draft.Resolves`, **`Draft.resolves_get`**: what is denoted, or the default.
* `Draft.IsTimeless`, `seconds_override_eq_zero_iff`: no time, neither in the file nor on top of it.
* `check_eq_error_iff`, `check_override_eq_error_iff`: why settings are refused.
* **`ofFile_eq_error_iff`**: a file that can be read is refused for its base URL or for no time.
-/

namespace FunctionLoad

open FunctionLoad.Text FunctionLoad.Decimal

/-! ## Names -/

/-- Names that tell the elements of a list apart find them. -/
theorem find?_name_eq_some_iff {α : Type} {all : List α} {name : α → String}
    (hall : ∀ a, a ∈ all) (hname : Function.Injective name) {s : String} {a : α} :
    all.find? (fun b => name b == s) = some a ↔ name a = s := by
  constructor
  · intro h
    simpa using List.find?_some h
  · rintro rfl
    cases h : all.find? fun b => name b == name a with
    | none => exact absurd (List.find?_eq_none.mp h a (hall a)) (by simp)
    | some b =>
      obtain rfl := hname (show name b = name a by simpa using List.find?_some h)
      rfl

theorem Invocation.Mode.resolve_of_equals {s : String} {m : Mode}
    (h : equalsIgnoringCase (trim s) m.name = true) : resolve s = m := by
  cases m with
  | async => exact if_pos h
  | sync =>
    refine if_neg fun ha => ?_
    rw [equalsIgnoringCase, beq_iff_eq] at h ha
    exact absurd (h.symm.trans ha) (by decide)

theorem Invocation.Mode.resolve_of_not_equals {s : String}
    (h : ∀ m : Mode, ¬ equalsIgnoringCase (trim s) m.name = true) : resolve s = .sync :=
  if_neg (h .async)

theorem Selection.Mode.parse_eq_ok_iff {s : String} {m : Mode} :
    parse s = .ok m ↔ lower (trim s) = m.name := by
  have hfind : all.find? (fun b => b.name == lower (trim s)) = some m ↔ m.name = lower (trim s) :=
    find?_name_eq_some_iff (by intro a; cases a <;> decide)
      (by intro a b; cases a <;> cases b <;> decide)
  rw [@eq_comm _ (lower (trim s)), ← hfind]
  unfold parse
  cases h : all.find? (fun b => b.name == lower (trim s)) <;> simp [h]

theorem Selection.Mode.value_resolve {s : String} :
    (resolve s).value = (parse s).toOption.getD .legacyRandom := by
  unfold resolve
  cases parse s <;> rfl

namespace Settings

/-! ## What texts denote -/

theorem word?_decimal (n : UInt64) : word? (decimal n.toNat) = some n := by
  have hn : natural? 10 (digits n.toNat) = some n.toNat :=
    natural?_eq_some_iff.mpr ⟨[], _, rfl, Or.inl rfl, digits_ne_nil _, isDigit_of_mem_digits,
      ofDigits_digits _⟩
  rw [word?, toList_decimal, hn, Option.bind_some, if_pos n.toNat_lt_size,
    UInt64.ofNat_toNat]

namespace Key

/-- What a text of a file denotes as the setting of a key. -/
def Denotes : (k : Key) → String → k.Value → Prop
  | .baseUrl, text, url => text = url
  | .invocationMode, text, m => equalsIgnoringCase (trim text) m.name = true
  | .timeout, text, d => ∃ n : UInt64, 0 < n ∧ text = decimal n.toNat ∧ d = .ofSeconds n.toNat
  | .selectionMode, text, m => lower (trim text) = m.name
  | .poolSize, text, n => (unsignedPart text).bind leadingNumber? = some n
  | .level, text, l => text = l.word
  | .format, text, f => text = f.name

/-- No integer that is not positive is the size of a pool. -/
theorem not_denotes_poolSize {z : Int} (hz : z ≤ 0) (n : UInt64) :
    ¬ Denotes .poolSize (decimalInt z) n := by
  rw [Denotes, leadingNumber?_decimalInt (by omega), if_neg (by omega)]
  exact nofun

/-- What a text of a file is read as. -/
def read (text : String) : (k : Key) → k.Value
  | .baseUrl => text
  | .invocationMode => Invocation.Mode.resolve text
  | .timeout => .ofSeconds ((word? text).getD 0).toNat
  | .selectionMode => (Selection.Mode.resolve text).value
  | .poolSize => positiveOr defaultPoolSize text
  | .level => Draft.levelOf text
  | .format => Draft.formatOf text

variable {k : Key} {text : String}

theorem read_of_denotes {v : k.Value} (h : k.Denotes text v) : k.read text = v := by
  cases k with
  | baseUrl => exact h
  | invocationMode => exact Invocation.Mode.resolve_of_equals h
  | timeout =>
    obtain ⟨n, -, rfl, rfl⟩ := h
    rw [read, word?_decimal, Option.getD_some]
  | selectionMode =>
    rw [read, Selection.Mode.value_resolve, Selection.Mode.parse_eq_ok_iff.mpr h]
    rfl
  | poolSize =>
    rw [Denotes] at h
    rw [read, positiveOr, h, Option.getD_some]
  | level =>
    rw [Denotes] at h
    rw [read, h, levelOf_word]
  | format =>
    rw [Denotes] at h
    rw [read, h, formatOf_name]

/-- Only a timeout is taken for what it says. -/
theorem read_of_not_denotes (hk : k ≠ .timeout) (h : ∀ v, ¬ k.Denotes text v) :
    k.read text = k.get {} := by
  cases k with
  | baseUrl => exact absurd rfl (h text)
  | invocationMode => exact Invocation.Mode.resolve_of_not_equals h
  | timeout => exact absurd rfl hk
  | selectionMode =>
    rw [read, Selection.Mode.value_resolve]
    cases hp : Selection.Mode.parse text with
    | error e => rfl
    | ok m => exact absurd (Selection.Mode.parse_eq_ok_iff.mp hp) (h m)
  | poolSize =>
    rw [read, positiveOr, Option.eq_none_iff_forall_ne_some.mpr h]
    rfl
  | level =>
    have hn : Log.Level.all.find? (·.word == text) = none :=
      List.find?_eq_none.mpr fun l _ hl => h l (beq_iff_eq.mp hl).symm
    rw [read, Draft.levelOf, hn]
    rfl
  | format =>
    have hn : Log.Format.all.find? (·.name == text) = none :=
      List.find?_eq_none.mpr fun f _ hf => h f (beq_iff_eq.mp hf).symm
    rw [read, Draft.formatOf, hn]
    rfl

end Key

namespace Draft

/-- What a file says for a key, as a text. -/
def says? (d : Draft) : Key → Option String
  | .baseUrl => d.baseUrl
  | .invocationMode => d.invocationMode
  | .timeout => d.timeout.map fun n => decimal n.toNat
  | .selectionMode => d.selectionMode
  | .poolSize => d.poolSize
  | .level => d.level
  | .format => d.format

/-- **Whether a value is what a file asks for**: what its text denotes, or the default if it denotes
nothing or there is none. -/
def Resolves (d : Draft) (k : Key) (v : k.Value) : Prop :=
  match d.says? k with
  | none => v = k.get {}
  | some text => (∀ w, k.Denotes text w → v = w) ∧ ((∀ w, ¬ k.Denotes text w) → v = k.get {})

variable (d : Draft)

/-- What is noted on the way has no part in the settings. -/
theorem value_resolve : d.resolve.value =
    { target := {
        baseUrl := d.baseUrl.getD ({} : Settings).target.baseUrl
        mode := (d.invocationMode.map Invocation.Mode.resolve).getD .sync
        timeout := (d.timeout.map fun n => Duration.ofSeconds n.toNat).getD (.ofSeconds 30) }
      payload := {
        mode := (d.selectionMode.map fun s => (Selection.Mode.resolve s).value).getD .legacyRandom
        size := (d.poolSize.map (positiveOr defaultPoolSize)).getD defaultPoolSize }
      logging := {
        level := (d.level.map levelOf).getD .info
        format := (d.format.map formatOf).getD .text } } := by
  unfold resolve
  cases d.selectionMode <;> rfl

/-- Every setting is read from its own text, and has its default without one. -/
theorem get_resolve (k : Key) :
    k.get d.resolve.value = ((d.says? k).map k.read).getD (k.get {}) := by
  rw [value_resolve]
  cases k with
  | timeout =>
    rw [Key.get, says?]
    cases d.timeout with
    | none => rfl
    | some n => simp only [Option.map_some, Option.getD_some, Key.read, word?_decimal]
  | baseUrl =>
    rw [Key.get, says?]
    cases d.baseUrl <;> rfl
  | invocationMode => rfl
  | selectionMode => rfl
  | poolSize => rfl
  | level => rfl
  | format => rfl

/-- **A setting of a file is what the file asks for**, unless that is a timeout of no time. -/
theorem resolves_get {k : Key} (h : k = .timeout → d.timeout ≠ some 0) :
    d.Resolves k (k.get d.resolve.value) := by
  rw [get_resolve, Resolves]
  cases hd : d.says? k with
  | none => rfl
  | some text =>
    refine ⟨fun v hv => k.read_of_denotes hv, fun hn => ?_⟩
    by_cases hk : k = .timeout
    · -- a number of seconds denotes nothing only if it is zero
      subst hk
      obtain ⟨n, hn0, rfl⟩ := Option.map_eq_some_iff.mp hd
      have hpos : 0 < n := UInt64.pos_iff_ne_zero.mpr fun h0 => h rfl (h0 ▸ hn0)
      exact absurd ⟨n, hpos, rfl, rfl⟩ (hn (.ofSeconds n.toNat))
    · exact k.read_of_not_denotes hk hn

theorem size_pos_resolve : 0 < d.resolve.value.payload.size := by
  have hd : 0 < defaultPoolSize := by decide
  rw [value_resolve]
  cases d.poolSize with
  | none => exact hd
  | some text => exact positiveOr_pos hd text

theorem seconds_resolve : d.resolve.value.target.timeout.seconds = 0 ↔ d.timeout = some 0 := by
  rw [value_resolve]
  cases d.timeout with
  | none => simp
  | some n => simp [← UInt64.toNat_inj]

/-- **No time at all**: the file asks for none, and its key puts no other timeout on top. -/
def IsTimeless (family : String) (lookup : Lookup) : Prop :=
  d.timeout = some 0 ∧
    ∀ text, lookup (Key.timeout.name family) = some text → ¬ Key.timeout.Accepts text

variable (family : String) (lookup : Lookup)

theorem seconds_override_eq_zero_iff :
    (d.resolve.value.override family lookup).value.target.timeout.seconds = 0 ↔
      d.IsTimeless family lookup := by
  by_cases ha : ∃ text, lookup (Key.timeout.name family) = some text ∧ Key.timeout.Accepts text
  · obtain ⟨text, ht, ha⟩ := ha
    have hv := Key.value?_eq_get_override (s := d.resolve.value) ht ha
    rw [Key.value?] at hv
    obtain ⟨n, hn, hs⟩ := Option.map_eq_some_iff.mp hv
    have hpos := UInt64.lt_iff_toNat_lt.mp (seconds?_pos hn)
    constructor
    · intro h0
      change (Key.get (d.resolve.value.override family lookup).value .timeout).seconds = 0 at h0
      rw [← hs, Duration.seconds_ofSeconds] at h0
      exact absurd h0 (Nat.ne_of_gt hpos)
    · rintro ⟨-, h⟩
      exact absurd ha (h text ht)
  · have hn : ∀ text, lookup (Key.timeout.name family) = some text → ¬ Key.timeout.Accepts text :=
      fun text ht h => ha ⟨text, ht, h⟩
    have hg := Key.get_override_of_not_accepts (s := d.resolve.value) hn
    change (Key.get (d.resolve.value.override family lookup).value .timeout).seconds = 0 ↔ _
    rw [hg]
    exact ⟨fun h => ⟨d.seconds_resolve.mp h, hn⟩, fun h => d.seconds_resolve.mpr h.1⟩

end Draft

/-! ## Checks -/

/-- **Why settings with a pool that has slots are refused**: for their base URL, or if that is fine
for a timeout of no time. -/
theorem check_eq_error_iff {s : Settings} (h : 0 < s.payload.size) {r : Refusal} :
    s.check = .error r ↔ ∃ v, r = ⟨.target, v⟩ ∧
      (httpUrl "base_url" s.target.baseUrl = .error v ∨
        httpUrl "base_url" s.target.baseUrl = .ok () ∧ s.target.timeout.seconds = 0 ∧
          v = .notPositive "timeout" "0") := by
  by_cases ht : 0 < s.target.timeout.seconds
  · rw [check_of_sound ⟨h, ht⟩]
    cases httpUrl "base_url" s.target.baseUrl with
    | error v => simp [within, Except.mapError, eq_comm]
    | ok u => simp [within, Except.mapError, Nat.ne_of_gt ht]
  · have h0 : s.target.timeout.seconds = 0 := Nat.eq_zero_of_not_pos ht
    have hp : positive "timeout" 0 = .error (.notPositive "timeout" "0") := by
      rw [positive, decimal, digits_zero]
      rfl
    -- the URL is checked first, so its violation hides that of the timeout
    cases hu : httpUrl "base_url" s.target.baseUrl with
    | error v =>
      have hc : s.check = .error ⟨.target, v⟩ := by
        rw [check, Target.check, hu]
        rfl
      simp [hc, eq_comm]
    | ok u =>
      have hc : s.check = .error ⟨.target, .notPositive "timeout" "0"⟩ := by
        rw [check, Target.check, hu, h0, hp]
        rfl
      simp [hc, h0, eq_comm]

/-! ## Files -/

/-- What is written as a text is read as that text. -/
theorem text_toUTF8 (s : String) : (File.bytes s.toUTF8).text = .ok s := by
  have hs : String.fromUTF8? s.toUTF8 = some s := dif_pos s.isValidUTF8
  rw [File.text, hs]

section

variable (family : String) (lookup : Lookup) (path : String)

/-- The base URL of a file under the value of its key. -/
def Draft.urlUnder (d : Draft) (family : String) (lookup : Lookup) : String :=
  overrideBaseUrl (lookup (Key.baseUrl.name family)) (d.baseUrl.getD ({} : Settings).target.baseUrl)

variable {file : File} {text : String} {d : Draft}

/-- The settings of a file that can be read are those of its draft under the values of the keys,
checked. -/
theorem value_ofFile_draft (hf : file.text = .ok text) (hd : Draft.ofText text = (d, true)) :
    (ofFile family lookup path file).value =
      refusing (d.resolve.value.override family lookup).value.checked := by
  refine value_ofFile family lookup path hf ?_
  rw [value_read, hd]
  rfl

theorem refusing_checked_eq_error_iff {s : Settings} {e : LoadError} :
    refusing s.checked = .error e ↔ ∃ r, e = .refused r ∧ s.check = .error r := by
  rw [refusing, checked]
  cases s.check <;> simp [Except.map, Except.mapError, eq_comm]

theorem refusing_checked_eq_ok_iff {s t : Settings} :
    refusing s.checked = .ok t ↔ t = s ∧ s.check = .ok () := by
  rw [refusing, checked]
  cases s.check <;> simp [Except.map, Except.mapError, eq_comm]

theorem size_pos_override (d : Draft) :
    0 < (d.resolve.value.override family lookup).value.payload.size :=
  overridePoolSize_pos _ d.size_pos_resolve

/-- Why the settings of a draft under the values of the keys are refused. -/
theorem check_override_eq_error_iff (d : Draft) {r : Refusal} :
    (d.resolve.value.override family lookup).value.check = .error r ↔ ∃ v, r = ⟨.target, v⟩ ∧
      (httpUrl "base_url" (d.urlUnder family lookup) = .error v ∨
        httpUrl "base_url" (d.urlUnder family lookup) = .ok () ∧
          d.IsTimeless family lookup ∧ v = .notPositive "timeout" "0") := by
  have hurl : (d.resolve.value.override family lookup).value.target.baseUrl =
      d.urlUnder family lookup := by
    rw [baseUrl_override, Draft.value_resolve]
    rfl
  rw [check_eq_error_iff (size_pos_override family lookup d), hurl, d.seconds_override_eq_zero_iff]

/-- Settings that are not refused wait for some time. -/
theorem not_isTimeless {d : Draft}
    (h : (d.resolve.value.override family lookup).value.check = .ok ()) :
    ¬ d.IsTimeless family lookup := by
  intro ht
  have hn (r : Refusal) : (d.resolve.value.override family lookup).value.check ≠ .error r := by
    rw [h]
    exact nofun
  cases hu : httpUrl "base_url" (d.urlUnder family lookup) with
  | error v => exact hn _ ((check_override_eq_error_iff family lookup d).mpr ⟨v, rfl, .inl hu⟩)
  | ok u =>
    exact hn _ ((check_override_eq_error_iff family lookup d).mpr ⟨_, rfl, .inr ⟨hu, ht, rfl⟩⟩)

/-- Below the keys are the settings that the file asks for. -/
theorem resolves_get_override {d : Draft} (h : ¬ d.IsTimeless family lookup) {k : Key}
    (hk : ∀ text, lookup (k.name family) = some text → ¬ k.Accepts text) :
    d.Resolves k (k.get (d.resolve.value.override family lookup).value) := by
  rw [Key.get_override_of_not_accepts hk]
  refine d.resolves_get ?_
  rintro rfl h0
  exact h ⟨h0, hk⟩

/-- **A file that can be read is refused for its base URL or for no time**, and for nothing else:
for the URL of its own or of the key if there is one, or if that is fine because the file asks for a
timeout of no time and no key puts another one on top. The settings of any other file have a pool
with slots and a timeout of a second or more. They are those of the keys whose texts are accepted,
and below that what the file asks for, or the default where its text denotes nothing, as that of a
pool does with zero or less. -/
theorem ofFile_eq_error_iff (hf : file.text = .ok text) (hd : Draft.ofText text = (d, true)) :
    (∀ e, (ofFile family lookup path file).value = .error e ↔
      ∃ v, e = .refused ⟨.target, v⟩ ∧
        (httpUrl "base_url" (d.urlUnder family lookup) = .error v ∨
          httpUrl "base_url" (d.urlUnder family lookup) = .ok () ∧
            d.IsTimeless family lookup ∧ v = .notPositive "timeout" "0")) ∧
    (∀ s, (ofFile family lookup path file).value = .ok s →
      1 ≤ s.payload.size ∧ 1 ≤ s.target.timeout.seconds ∧
      (∀ k : Key,
        (∀ text, lookup (k.name family) = some text → k.Accepts text →
          k.value? text = some (k.get s)) ∧
        ((∀ text, lookup (k.name family) = some text → ¬ k.Accepts text) →
          d.Resolves k (k.get s))) ∧
      (∀ z : Int, z ≤ 0 → d.poolSize = some (decimalInt z) →
        lookup (Key.poolSize.name family) = none → s.payload.size = defaultPoolSize)) := by
  rw [value_ofFile_draft family lookup path hf hd]
  constructor
  · intro e
    rw [refusing_checked_eq_error_iff]
    constructor
    · rintro ⟨r, rfl, hr⟩
      obtain ⟨v, rfl, hv⟩ := (check_override_eq_error_iff family lookup d).mp hr
      exact ⟨v, rfl, hv⟩
    · rintro ⟨v, rfl, hv⟩
      exact ⟨_, rfl, (check_override_eq_error_iff family lookup d).mpr ⟨v, rfl, hv⟩⟩
  · intro s h
    obtain ⟨rfl, hs⟩ := refusing_checked_eq_ok_iff.mp h
    have ht := not_isTimeless family lookup hs
    have hsize := size_pos_override family lookup d
    refine ⟨?_, ?_, fun k => ⟨fun text => Key.value?_eq_get_override,
      resolves_get_override family lookup ht⟩, fun z hz hp hn => ?_⟩
    · exact UInt64.le_iff_toNat_le.mpr (UInt64.lt_iff_toNat_lt.mp hsize)
    · exact Nat.one_le_iff_ne_zero.mpr fun h0 => ht ((d.seconds_override_eq_zero_iff _ _).mp h0)
    · have hr : d.Resolves .poolSize _ :=
        resolves_get_override family lookup ht fun text htext => by simp [hn] at htext
      rw [Draft.Resolves, Draft.says?, hp] at hr
      exact hr.2 fun n => Key.not_denotes_poolSize hz n

end

/-- A mode that is not known and a pool without slots are no reason to refuse a file. -/
theorem ofFile_lenient :
    Draft.ofText "target:\n  invocation_mode: what\npayload:\n  pool_size: 0\n" =
        ({ invocationMode := some "what", poolSize := some "0" }, true) ∧
      ∀ e, (ofFile defaultFamily (fun _ => none) "config.yaml"
        (.bytes "target:\n  invocation_mode: what\npayload:\n  pool_size: 0\n".toUTF8)).value ≠
          .error e := by
  have hd : Draft.ofText "target:\n  invocation_mode: what\npayload:\n  pool_size: 0\n" =
      ({ invocationMode := some "what", poolSize := some "0" }, true) := by
    decide +kernel
  refine ⟨hd, fun e he => ?_⟩
  obtain ⟨v, -, h | ⟨-, h, -⟩⟩ := ((ofFile_eq_error_iff defaultFamily (fun _ => none) "config.yaml"
    (text_toUTF8 _) hd).1 e).mp he
  · cases h
  · cases h.1

/-- A timeout of no time is one, although the base URL is fine. -/
theorem ofFile_timeless :
    (ofFile defaultFamily (fun _ => none) "config.yaml"
        (.bytes "target:\n  timeout: 0\n".toUTF8)).value =
          .error (.refused ⟨.target, .notPositive "timeout" "0"⟩) ∧
      Draft.ofText "target:\n  timeout: 0\n" = ({ timeout := some 0 }, true) ∧
      httpUrl "base_url" (({ timeout := some 0 } : Draft).urlUnder defaultFamily fun _ => none) =
        .ok () := by
  have hd : Draft.ofText "target:\n  timeout: 0\n" = ({ timeout := some 0 }, true) := by
    decide +kernel
  have ht : ({ timeout := some 0 } : Draft).IsTimeless defaultFamily fun _ => none := ⟨rfl, nofun⟩
  refine ⟨?_, hd, rfl⟩
  rw [value_ofFile_draft _ _ _ (text_toUTF8 _) hd, refusing_checked_eq_error_iff]
  exact ⟨_, rfl, (check_override_eq_error_iff _ _ _).mpr ⟨_, rfl, .inr ⟨rfl, ht, rfl⟩⟩⟩

end Settings

end FunctionLoad
