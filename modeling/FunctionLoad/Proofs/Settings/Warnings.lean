import FunctionLoad.Proofs.Settings.Layer

/-!
# Which values of keys are warned of

A value that says nothing to its key gives way to another one. Four of the keys tell so in a warning
with the value in it. The invocation mode and the size of a pool fall back to their defaults without a
word, and the rest of the log is silent as well.

* `Key.IsMalformed`: values that say nothing to their key; `Key.warned`: the keys that warn of them.
* `Warns`: a warning with a text in it.
* `Accounts`: events that warn of malformed values, once of each, and of nothing else.
* `accounts_single`, `accounts_overrideTimeout` and the same for the other keys: events of one key.
* **`accounts_override`**: events of all keys.
* **`warnings_ofKeys`**: what settings of keys warn of.
-/

namespace FunctionLoad.Settings

open FunctionLoad.Text FunctionLoad.Decimal

/-! ## Values that say nothing -/

namespace Key

/-- **Whether a value says nothing to its key.** A base URL is refused instead, and an empty name is no
name of a selection mode, not even a wrong one. -/
def IsMalformed : Key → String → Prop
  | .baseUrl, _ => False
  | .invocationMode, text =>
    equalsIgnoringCase (trim text) "sync" = false ∧ equalsIgnoringCase (trim text) "async" = false
  | .timeout, text => ¬ IsPositiveWord (trim text).toList
  | .selectionMode, text => text ≠ "" ∧ ∀ mode, Selection.Mode.parse text ≠ .ok mode
  | .poolSize, text => ∀ fallback, positiveOr fallback text = fallback
  | .level, text => ∀ level, Log.Level.parse text ≠ .ok level
  | .format, text => ∀ format, Log.Format.parse text ≠ .ok format

/-- The keys that warn of malformed values, in the order in which they are looked up. -/
def warned : List Key := [.timeout, .selectionMode, .level, .format]

end Key

/-- A warning with a text in it. -/
def Warns (text : String) (e : Log.Event) : Prop :=
  e.level = .warn ∧ text.toList <:+: e.message.toList

theorem warns_append (before text after : String) : Warns text ⟨.warn, before ++ text ++ after⟩ := by
  refine ⟨rfl, before.toList, after.toList, ?_⟩
  rw [String.toList_append, String.toList_append]

/-! ## Events and keys -/

/-- **Events that account for the values of keys**, in order: one for each value that is malformed, which
it warns of, and none for any other. -/
inductive Accounts (family : String) (lookup : Lookup) : List Key → List Log.Event → Prop
  | nil : Accounts family lookup [] []
  | silent {k : Key} {ks : List Key} {es : List Log.Event}
      (hfine : ∀ text, lookup (k.name family) = some text → ¬ k.IsMalformed text)
      (hrest : Accounts family lookup ks es) : Accounts family lookup (k :: ks) es
  | warned {k : Key} {ks : List Key} {text : String} {e : Log.Event} {es : List Log.Event}
      (hvalue : lookup (k.name family) = some text) (hbad : k.IsMalformed text) (he : Warns text e)
      (hrest : Accounts family lookup ks es) : Accounts family lookup (k :: ks) (e :: es)

section

variable {family : String} {lookup : Lookup}

namespace Accounts

variable {ks ks' : List Key} {es es' : List Log.Event}

theorem append (h : Accounts family lookup ks es) (h' : Accounts family lookup ks' es') :
    Accounts family lookup (ks ++ ks') (es ++ es') := by
  induction h with
  | nil => exact h'
  | silent hfine _ ih => exact .silent hfine ih
  | warned hvalue hbad he _ ih => exact .warned hvalue hbad he ih

/-- Every malformed value is warned of. -/
theorem exists_warning (h : Accounts family lookup ks es) {k : Key} {text : String} (hk : k ∈ ks)
    (hvalue : lookup (k.name family) = some text) (hbad : k.IsMalformed text) :
    ∃ e ∈ es, Warns text e := by
  induction h with
  | nil => cases hk
  | silent hfine _ ih =>
    rcases List.mem_cons.mp hk with rfl | hk
    · exact absurd hbad (hfine text hvalue)
    · exact ih hk
  | @warned _ _ other e _ hother _ he _ ih =>
    rcases List.mem_cons.mp hk with rfl | hk
    · obtain rfl : other = text := Option.some.inj (hother.symm.trans hvalue)
      exact ⟨e, List.mem_cons_self, he⟩
    · obtain ⟨e', he', hw⟩ := ih hk
      exact ⟨e', List.mem_cons_of_mem _ he', hw⟩

/-- Nothing but malformed values is warned of. -/
theorem exists_value (h : Accounts family lookup ks es) {e : Log.Event} (he : e ∈ es) :
    ∃ k ∈ ks, ∃ text, lookup (k.name family) = some text ∧ k.IsMalformed text ∧ Warns text e := by
  induction h with
  | nil => cases he
  | silent _ _ ih =>
    obtain ⟨k, hk, hvalue⟩ := ih he
    exact ⟨k, List.mem_cons_of_mem _ hk, hvalue⟩
  | warned hvalue hbad hw _ ih =>
    rcases List.mem_cons.mp he with rfl | he
    · exact ⟨_, List.mem_cons_self, _, hvalue, hbad, hw⟩
    · obtain ⟨k, hk, hvalue⟩ := ih he
      exact ⟨k, List.mem_cons_of_mem _ hk, hvalue⟩

end Accounts

/-! ## Single keys -/

theorem accounts_absent {k : Key} (h : lookup (k.name family) = none) :
    Accounts family lookup [k] [] := by
  refine .silent (fun text htext => ?_) .nil
  cases h.symm.trans htext

/-- A key accounts for its value if it warns of it where it does not read it. -/
theorem accounts_present {k : Key} {text : String} (hvalue : lookup (k.name family) = some text)
    {isRead : Bool} (hread : k.IsMalformed text ↔ ¬ isRead = true) {e : Log.Event}
    (he : Warns text e) : Accounts family lookup [k] (if isRead then [] else [e]) := by
  cases isRead with
  | true =>
    refine .silent (fun other hother => ?_) .nil
    obtain rfl : other = text := Option.some.inj (hother.symm.trans hvalue)
    exact fun hbad => hread.mp hbad rfl
  | false => exact .warned hvalue (hread.mpr (by decide)) he .nil

theorem events_overrideTimeout (key text : String) (current : Duration) :
    (overrideTimeout key (some text) current).events =
      if (seconds? text).isSome then [] else [⟨.warn, "Invalid " ++ key ++ ": '" ++ text ++
        ("', keeping " ++ decimal current.seconds ++ "s")⟩] := by
  unfold overrideTimeout
  cases h : seconds? text with
  | none => simp [h, Logged.note, String.append_assoc]
  | some n => simp [h]

theorem events_overrideSelectionMode (text : String) (current : Selection.Mode) :
    (overrideSelectionMode (some text) current).events =
      if text == "" || (Selection.Mode.parse text).toOption.isSome then []
      else [⟨.warn, "Unrecognized payload mode '" ++ text ++
        ("', falling back to " ++ Selection.Mode.legacyRandom.name)⟩] := by
  unfold overrideSelectionMode Selection.Mode.resolve
  by_cases ht : text = ""
  · subst ht
    rfl
  · have hn : nonEmptyValue (some text) = some text := by simp [nonEmptyValue, ht]
    cases h : Selection.Mode.parse text with
    | error e => simp [hn, h, ht, Except.toOption, Logged.note, String.append_assoc]
    | ok mode => simp [hn, h, Except.toOption]

theorem events_overrideLevel (key text : String) (current : Log.Level) :
    (overrideLevel key (some text) current).events =
      if (Log.Level.parse text).toOption.isSome then [] else [⟨.warn, "Invalid " ++ key ++ ": '" ++
        text ++ ("', keeping " ++ current.name)⟩] := by
  unfold overrideLevel
  cases h : Log.Level.parse text with
  | error e => simp [h, Except.toOption, Logged.note, String.append_assoc]
  | ok level => simp [h, Except.toOption]

theorem events_overrideFormat (key text : String) (current : Log.Format) :
    (overrideFormat key (some text) current).events =
      if (Log.Format.parse text).toOption.isSome then [] else [⟨.warn, "Invalid " ++ key ++ ": '" ++
        text ++ ("', keeping " ++ current.title)⟩] := by
  unfold overrideFormat
  cases h : Log.Format.parse text with
  | error e => simp [h, Except.toOption, Logged.note, String.append_assoc]
  | ok format => simp [h, Except.toOption]

variable (family lookup)

theorem accounts_overrideTimeout (current : Duration) : Accounts family lookup [.timeout]
    (overrideTimeout (Key.timeout.name family) (lookup (Key.timeout.name family)) current).events := by
  cases hvalue : lookup (Key.timeout.name family) with
  | none => exact accounts_absent hvalue
  | some text =>
    rw [events_overrideTimeout]
    exact accounts_present hvalue (not_congr (isSome_seconds?_iff text)).symm (warns_append _ _ _)

theorem accounts_overrideSelectionMode (current : Selection.Mode) :
    Accounts family lookup [.selectionMode]
      (overrideSelectionMode (lookup (Key.selectionMode.name family)) current).events := by
  cases hvalue : lookup (Key.selectionMode.name family) with
  | none => exact accounts_absent hvalue
  | some text =>
    rw [events_overrideSelectionMode]
    refine accounts_present hvalue ?_ (warns_append _ _ _)
    rw [Bool.or_eq_true, beq_iff_eq, Key.isSome_toOption, not_or, not_exists]
    rfl

theorem accounts_overrideLevel (current : Log.Level) : Accounts family lookup [.level]
    (overrideLevel (Key.level.name family) (lookup (Key.level.name family)) current).events := by
  cases hvalue : lookup (Key.level.name family) with
  | none => exact accounts_absent hvalue
  | some text =>
    rw [events_overrideLevel]
    refine accounts_present hvalue ?_ (warns_append _ _ _)
    rw [Key.isSome_toOption, not_exists]
    rfl

theorem accounts_overrideFormat (current : Log.Format) : Accounts family lookup [.format]
    (overrideFormat (Key.format.name family) (lookup (Key.format.name family)) current).events := by
  cases hvalue : lookup (Key.format.name family) with
  | none => exact accounts_absent hvalue
  | some text =>
    rw [events_overrideFormat]
    refine accounts_present hvalue ?_ (warns_append _ _ _)
    rw [Key.isSome_toOption, not_exists]
    rfl

/-! ## All keys -/

/-- **The events of all keys.** Neither the base URL nor the invocation mode nor the size of a pool has
any. -/
theorem events_override (s : Settings) : (s.override family lookup).events =
    (overrideTimeout (Key.timeout.name family) (lookup (Key.timeout.name family))
      s.target.timeout).events ++
    ((overrideSelectionMode (lookup (Key.selectionMode.name family)) s.payload.mode).events ++
    ((overrideLevel (Key.level.name family) (lookup (Key.level.name family))
      s.logging.level).events ++
    (overrideFormat (Key.format.name family) (lookup (Key.format.name family))
      s.logging.format).events)) := by
  simp [Settings.override, Target.override, Pool.override, Logging.override]

/-- **Keys account for their malformed values**, whatever settings they lie on. -/
theorem accounts_override (s : Settings) :
    Accounts family lookup Key.warned (s.override family lookup).events := by
  have htimeout := accounts_overrideTimeout family lookup s.target.timeout
  have hmode := accounts_overrideSelectionMode family lookup s.payload.mode
  have hlevel := accounts_overrideLevel family lookup s.logging.level
  have hformat := accounts_overrideFormat family lookup s.logging.format
  rw [events_override]
  exact htimeout.append (hmode.append (hlevel.append hformat))

theorem events_ofKeys : (ofKeys family lookup).events =
    (Settings.override family lookup {}).events :=
  Logged.events_map _ _

/-- **What settings of keys warn of**, whether they are refused or not: the malformed values of a timeout,
a selection mode, a level or a format, once of each in this order, and nothing else. Every such value
is in a warning, and every event is such a warning. So nothing that is honoured is warned of; but other
values, malformed or not, make no difference to the log at all. -/
theorem warnings_ofKeys :
    Accounts family lookup Key.warned (ofKeys family lookup).events ∧
    (∀ k ∈ Key.warned, ∀ text, lookup (k.name family) = some text → k.IsMalformed text →
      ∃ e ∈ (ofKeys family lookup).events, Warns text e) ∧
    (∀ e ∈ (ofKeys family lookup).events, ∃ k ∈ Key.warned, ∃ text,
      lookup (k.name family) = some text ∧ k.IsMalformed text ∧ Warns text e) ∧
    ∀ other : Lookup, (∀ k ∈ Key.warned, lookup (k.name family) = other (k.name family)) →
      (ofKeys family lookup).events = (ofKeys family other).events := by
  have hall : Accounts family lookup Key.warned (ofKeys family lookup).events := by
    rw [events_ofKeys]
    exact accounts_override family lookup {}
  refine ⟨hall, fun k hk text => hall.exists_warning hk, fun e => hall.exists_value,
    fun other h => ?_⟩
  have htimeout := h .timeout (by decide)
  have hmode := h .selectionMode (by decide)
  have hlevel := h .level (by decide)
  have hformat := h .format (by decide)
  rw [events_ofKeys, events_ofKeys, events_override, events_override, htimeout, hmode, hlevel, hformat]

end

/-- An invocation mode and a size of a pool that say nothing: the settings are accepted, and there is no
warning. -/
theorem not_warns_silent_keys :
    ∃ lookup : Lookup, lookup = (fun key =>
        if key = "INVOCATION_MODE" then some "maybe"
        else if key = "K6_PAYLOAD_POOL_SIZE" then some "-3" else none) ∧
      (∃ s, (ofKeys defaultFamily lookup).value = .ok s) ∧
      lookup (Key.invocationMode.name defaultFamily) = some "maybe" ∧
      Key.invocationMode.IsMalformed "maybe" ∧
      lookup (Key.poolSize.name defaultFamily) = some "-3" ∧ Key.poolSize.IsMalformed "-3" ∧
      ¬ ∃ e ∈ (ofKeys defaultFamily lookup).events, Warns "maybe" e ∨ Warns "-3" e := by
  refine ⟨_, rfl, ⟨_, rfl⟩, rfl, ⟨by decide, by decide⟩, rfl, fun fallback => ?_, ?_⟩
  · have hnone : unsignedPart "-3" = none := by decide
    rw [positiveOr, hnone]
    rfl
  · rintro ⟨e, he, -⟩
    cases he

end FunctionLoad.Settings
