import FunctionLoad.Settings.Document
import FunctionLoad.Proofs.Settings.Override
import FunctionLoad.Proofs.Settings.PositiveNumber
import FunctionLoad.Proofs.Yaml.Decode

/-!
# Settings that are shown and read again

* `isWritable_tree`: settings can be written, whatever their base URL is.
* `HasWholeTimeout`, **`hasWholeTimeout_override`**: keys make timeouts of whole seconds only.
* `drafts_target`, `drafts_payload`, `drafts_logging`, **`drafts_tree`**: what the parts of settings
  make of a draft.
* **`value_read_yaml`**: what is read of settings that were written.
* **`read_yaml_of_ofKeys`**: settings that keys make are read back, as long as the size of the pool
  fits in 64 bits with a sign.
-/

namespace FunctionLoad

open FunctionLoad.Text FunctionLoad.Decimal FunctionLoad.Yaml

/-! ## Names and numbers -/

theorem Selection.Mode.resolve_name (m : Selection.Mode) : resolve m.name = pure m := by
  cases m <;> rfl

namespace Settings

theorem levelOf_word (l : Log.Level) : Draft.levelOf l.word = l := by cases l <;> decide

theorem formatOf_name (f : Log.Format) : Draft.formatOf f.name = f := by cases f <;> decide

/-! ## Trees -/

/-- **Settings can be written**, whatever their base URL is. -/
theorem isWritable_tree (s : Settings) : (Tree.mapping s.tree).IsWritable := by
  have hkey {key : String} (h : allowsPlain key.toList = true ∧ key.toList ≠ [] ∧
      key.toList.length ≤ 1024) : IsKey key := ⟨⟨h.1, h.2.1⟩, h.2.2⟩
  simp only [tree, Tree.IsWritable, AreWritable, ne_eq, reduceCtorEq, not_false_eq_true, true_and,
    and_true]
  refine ⟨?_, ⟨?_, ?_, ?_⟩, ?_, ⟨?_, ?_⟩, ?_, ?_, ?_⟩ <;> exact hkey (by decide)

/-! ## Timeouts -/

/-- **A timeout of whole seconds**, of which there are no more than 64 bits can count. -/
def HasWholeTimeout (s : Settings) : Prop :=
  ∃ n : UInt64, s.target.timeout = .ofSeconds n.toNat

theorem hasWholeTimeout_default : ({} : Settings).HasWholeTimeout := ⟨30, rfl⟩

/-- **Keys make timeouts of whole seconds** of such timeouts. -/
theorem hasWholeTimeout_override (family : String) (lookup : Lookup) {s : Settings}
    (h : s.HasWholeTimeout) : (s.override family lookup).value.HasWholeTimeout := by
  change ∃ n : UInt64,
    (overrideTimeout _ (lookup (Key.timeout.name family)) s.target.timeout).value = _
  rw [value_overrideTimeout]
  cases (lookup (Key.timeout.name family)).bind seconds? with
  | none => exact h
  | some n => exact ⟨n, rfl⟩

/-! ## Reading -/

section

variable {α : Type} {name : String} {shape : Shaped α} {put : α → Draft → Draft} {d : Document}
  {es r : List (Event Nat)}

theorem read_of {a : α} (h : shape d es = some (a, r)) (draft : Draft) :
    (Member.of name shape put).read d draft es = (put a draft, some r) := by
  simp [Member.of, h]

theorem read_of_none (h : shape d es = none) (draft : Draft) :
    (Member.of name shape put).read d draft es = (draft, none) := by
  simp [Member.of, h]

end

variable (d : Document) (draft : Draft)

theorem drafts_target (t : Target) (n : UInt64) :
    Drafts Draft.targetMembers d [] draft
      [("base_url", .text t.baseUrl), ("invocation_mode", .text t.mode.name),
        ("timeout", .number n.toNat)]
      ({ draft with
          baseUrl := some t.baseUrl, invocationMode := some t.mode.name, timeout := some n },
        true) := by
  refine .read _ rfl (by simp) (fun r => read_of (text?_text d r t.baseUrl) _) ?_
  refine .read _ rfl (by simp) (fun r => read_of (text?_text d r t.mode.name) _) ?_
  refine .read _ rfl (by simp) (fun r => read_of (word?_number d r n.toNat_lt_size) _) ?_
  rw [UInt64.ofNat_toNat]
  exact .done

/-- The size of a pool is read if it fits in 64 bits with a sign, and refused otherwise. -/
theorem drafts_payload (p : Pool) :
    Drafts Draft.payloadMembers d [] draft
      [("selection_mode", .text p.mode.name), ("pool_size", .number p.size.toNat)]
      ({ draft with
          selectionMode := some p.mode.name,
          poolSize := if p.size.toNat < 2 ^ 63 then some (decimal p.size.toNat)
            else draft.poolSize },
        p.size.toNat < 2 ^ 63) := by
  have hn (r : List (Event Nat)) := numeral?_number d r p.size.toNat_lt_size
  refine .read _ rfl (by simp) (fun r => read_of (text?_text d r p.mode.name) _) ?_
  by_cases h : p.size.toNat < 2 ^ 63
  · simp only [h, if_true, decide_true] at hn ⊢
    exact .read _ rfl (by simp) (fun r => read_of (hn r) _) .done
  · simp only [h, if_false, decide_false] at hn ⊢
    exact .refused _ rfl (by simp) fun r => read_of_none (hn r) _

theorem drafts_logging (l : Logging) :
    Drafts Draft.loggingMembers d [] draft
      [("level", .text l.level.word), ("format", .text l.format.name)]
      ({ draft with level := some l.level.word, format := some l.format.name }, true) := by
  have hl : l.level.word ∈ Log.Level.all.map Log.Level.word := by cases l.level <;> decide
  have hf : l.format.name ∈ Log.Format.all.map Log.Format.name := by cases l.format <;> decide
  refine .read _ rfl (by simp) (fun r => read_of (choice?_text d r hl) _) ?_
  exact .read _ rfl (by simp) (fun r => read_of (choice?_text d r hf) _) .done

/-- The draft of settings that are read. -/
def draftOf (s : Settings) (n : UInt64) : Draft where
  baseUrl := some s.target.baseUrl
  invocationMode := some s.target.mode.name
  timeout := some n
  selectionMode := some s.payload.mode.name
  poolSize := some (decimal s.payload.size.toNat)
  level := some s.logging.level.word
  format := some s.logging.format.name

/-- **What the parts of settings make of a draft**: all of them are read, unless the size of the
pool does not fit in 64 bits with a sign. -/
theorem drafts_tree {s : Settings} {n : UInt64} (h : s.target.timeout = .ofSeconds n.toNat) :
    ∃ draft, Drafts Draft.partMembers d [] {} s.tree
        (draft, s.payload.size.toNat < 2 ^ 63) ∧
      (s.payload.size.toNat < 2 ^ 63 → draft = draftOf s n) := by
  have ht := drafts_target d {} s.target n
  have hp := drafts_payload d
    { baseUrl := s.target.baseUrl, invocationMode := s.target.mode.name, timeout := n } s.payload
  rw [tree, h, Duration.seconds_ofSeconds]
  by_cases hsize : s.payload.size.toNat < 2 ^ 63
  · simp only [hsize, if_true, decide_true] at hp ⊢
    refine ⟨_, .read _ rfl (by simp) ht.record ?_, fun _ => rfl⟩
    refine .read _ rfl (by simp) hp.record ?_
    exact .read _ rfl (by simp) (drafts_logging d _ s.logging).record .done
  · -- the logging stands behind the size, so it is not reached
    simp only [hsize, if_false, decide_false, false_imp_iff, and_true] at hp ⊢
    exact ⟨_, .read _ rfl (by simp) ht.record (.refused _ rfl (by simp) hp.record)⟩

/-- What is read of settings that were written. -/
theorem ofText_yaml {s : Settings} {n : UInt64} (h : s.target.timeout = .ofSeconds n.toNat) :
    (Draft.ofText s.yaml).2 = decide (s.payload.size.toNat < 2 ^ 63) ∧
      (s.payload.size.toNat < 2 ^ 63 → (Draft.ofText s.yaml).1 = draftOf s n) := by
  obtain ⟨draft, hd, hs⟩ := drafts_tree ⟨(Tree.mapping s.tree).events, [], true⟩ h
  rw [Draft.ofText, yaml, Document.ofText_print (isWritable_tree s), hd.decode]
  exact ⟨rfl, hs⟩

/-- The draft of settings asks for them. -/
theorem resolve_draftOf {s : Settings} {n : UInt64} (h : s.target.timeout = .ofSeconds n.toNat)
    (hs : 0 < s.payload.size) : (draftOf s n).resolve = pure s := by
  obtain ⟨⟨url, mode, timeout⟩, ⟨selection, size⟩, ⟨level, format⟩⟩ := s
  obtain rfl : timeout = .ofSeconds n.toNat := h
  have hsize := positiveOr_decimal defaultPoolSize hs
  unfold Draft.resolve draftOf
  dsimp only [Option.map_some, Option.getD_some] at hsize ⊢
  rw [Selection.Mode.resolve_name, Invocation.Mode.resolve_name, hsize, levelOf_word, formatOf_name]
  rfl

theorem value_read (s : String) : (Settings.read s).value =
    if (Draft.ofText s).2 then some (Draft.ofText s).1.resolve.value else none := by
  unfold Settings.read
  rcases Draft.ofText s with ⟨draft, sound⟩
  rfl

/-- **Settings that were written are read back** as long as the size of the pool fits in 64 bits
with a sign, and are refused otherwise. -/
theorem value_read_yaml {s : Settings} (ht : s.HasWholeTimeout) (hs : 0 < s.payload.size) :
    (Settings.read s.yaml).value = if s.payload.size.toNat < 2 ^ 63 then some s else none := by
  obtain ⟨n, hn⟩ := ht
  obtain ⟨h2, h1⟩ := ofText_yaml hn
  rw [value_read, h2]
  by_cases hsize : s.payload.size.toNat < 2 ^ 63
  · rw [if_pos (decide_eq_true hsize), if_pos hsize, h1 hsize, resolve_draftOf hn hs]
    rfl
  · rw [if_neg (by simpa using hsize), if_neg hsize]

/-! ## Settings of keys -/

theorem eq_override_of_ofKeys {family : String} {lookup : Lookup} {s : Settings}
    (h : (ofKeys family lookup).value = .ok s) :
    s = (Settings.override family lookup {}).value := by
  rw [value_ofKeys] at h
  cases hu : httpUrl "base_url" (overrideBaseUrl (lookup (Key.baseUrl.name family))
    ({} : Settings).target.baseUrl) with
  | error v =>
    rw [hu] at h
    cases h
  | ok u =>
    rw [hu] at h
    cases h
    rfl

/-- **Settings that keys make are read back** from what is shown of them, all of them and for every
base URL that is accepted, just if the size of the pool fits in 64 bits with a sign. Otherwise
nothing is read. -/
theorem read_yaml_of_ofKeys (family : String) (lookup : Lookup) {s : Settings}
    (h : (ofKeys family lookup).value = .ok s) :
    (Settings.read s.yaml).value = if s.payload.size.toNat < 2 ^ 63 then some s else none := by
  obtain rfl := eq_override_of_ofKeys h
  exact value_read_yaml (hasWholeTimeout_override family lookup hasWholeTimeout_default)
    (sound_override family lookup sound_default).size_pos

/-- One key with a value, and no other. -/
def Lookup.only (key value : String) : Lookup :=
  fun k => if k = key then some value else none

/-- The largest size of a pool that is read back. -/
theorem read_yaml_largest :
    (ofKeys defaultFamily (Lookup.only "K6_PAYLOAD_POOL_SIZE" "9223372036854775807")).value =
        .ok { payload := { size := 9223372036854775807 } } ∧
      (Settings.read (Settings.yaml { payload := { size := 9223372036854775807 } })).value =
        some { payload := { size := 9223372036854775807 } } :=
  ⟨rfl, (read_yaml_of_ofKeys defaultFamily
    (Lookup.only "K6_PAYLOAD_POOL_SIZE" "9223372036854775807") rfl).trans (if_pos (by decide))⟩

/-- The next size is accepted and shown, but what is shown is refused. -/
theorem not_read_yaml_larger :
    (ofKeys defaultFamily (Lookup.only "K6_PAYLOAD_POOL_SIZE" "9223372036854775808")).value =
        .ok { payload := { size := 9223372036854775808 } } ∧
      (Settings.read (Settings.yaml { payload := { size := 9223372036854775808 } })).value = none :=
  ⟨rfl, (value_read_yaml ⟨30, rfl⟩ (by decide)).trans (if_neg (by decide))⟩

end Settings

end FunctionLoad
