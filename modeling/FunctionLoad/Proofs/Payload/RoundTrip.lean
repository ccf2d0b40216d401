import FunctionLoad.Proofs.Json.RoundTrip
import FunctionLoad.Invocation.Request
import FunctionLoad.Payload.Input

/-!
# Inputs that are read back

An input is written without a tag, so its fields alone have to tell its workload when it is read.

* `chosen?_nameValue`, `word?_nat`: names and numbers as JSON.
* `WordStats.ofValue?_toValue`, `Row.ofValue?_toValue`, `JsonTransform.ofValue?_toValue`: records.
* **`WordStats.ofValue?_jsonTransform`**: a table is never taken for a text.
* **`Input.ofValue?_toValue`**, `Input.isExact_toValue`: inputs of either workload.
* **`read?_wrap`**: the body of a request, and an input on its own, are read as the same input.
-/

namespace FunctionLoad

open FunctionLoad.Json

namespace Payload

/-! ## Names and numbers -/

instance : Named.Lawful Operation := ⟨by intro a; cases a <;> rfl⟩
instance : Named.Lawful GroupField := ⟨by intro a; cases a <;> rfl⟩
instance : Named.Lawful ValueField := ⟨by intro a; cases a <;> rfl⟩
instance : Named.Lawful Department := ⟨by intro a; cases a <;> rfl⟩
instance : Named.Lawful Region := ⟨by intro a; cases a <;> rfl⟩
instance : Named.Lawful Tier := ⟨by intro a; cases a <;> rfl⟩

theorem chosen?_nameValue {α : Type} [Named α] [Named.Lawful α] (a : α) :
    chosen? (nameValue a) = some a :=
  Named.Lawful.ofName?_name a

theorem nat?_nat {bound : Nat} {n : UInt64} (h : n.toNat < bound) :
    (Value.nat n).nat? bound = some n.toNat := by
  rw [Value.nat, Value.nat?, if_pos h]

theorem word?_nat (n : UInt64) : word? (.nat n) = some n := by
  rw [word?, nat?_nat n.toNat_lt_size, Option.map_some, UInt64.ofNat_toNat]

/-! ## Records -/

theorem WordStats.ofValue?_toValue (x : WordStats) : WordStats.ofValue? x.toValue = some x := by
  have hn : (Value.nat x.top.toUInt64).nat? UInt32.size = some x.top.toNat := by
    rw [nat?_nat (by rw [UInt32.toNat_toUInt64]; exact x.top.toNat_lt_size),
      UInt32.toNat_toUInt64]
  have hf : x.toValue.fields? [("text", true), ("topN", true)] =
      some [some (.text x.text), some (.nat x.top.toUInt64)] := rfl
  simp only [WordStats.ofValue?, hf, Value.text?, hn, Option.bind_eq_bind, Option.bind_some,
    Option.pure_def, UInt32.ofNat_toNat]

theorem Row.ofValue?_toValue (r : Row) : Row.ofValue? r.toValue = some r := by
  have hf : r.toValue.fields? [("dept", true), ("region", true), ("tier", true), ("salary", true),
      ("age", true), ("score", true)] = some [some (nameValue r.dept), some (nameValue r.region),
        some (nameValue r.tier), some (.nat r.salary), some (.nat r.age), some (.nat r.score)] := rfl
  simp only [Row.ofValue?, hf, chosen?_nameValue, word?_nat, Option.bind_eq_bind, Option.bind_some,
    Option.pure_def]

theorem mapM_ofValue?_toValue (rows : List Row) :
    (rows.map Row.toValue).mapM Row.ofValue? = some rows := by
  induction rows with
  | nil => rfl
  | cons r rows ih =>
    rw [List.map_cons, List.mapM_cons, Row.ofValue?_toValue, ih]
    rfl

theorem optional?_nameValue {α : Type} [Named α] [Named.Lawful α] (a : Option α) :
    JsonTransform.optional? (a.map nameValue) = some a := by
  cases a with
  | none => rfl
  | some a =>
    show (chosen? (nameValue a)).map some = _
    rw [chosen?_nameValue, Option.map_some]

theorem JsonTransform.ofValue?_toValue (x : JsonTransform) :
    JsonTransform.ofValue? x.toValue = some x := by
  have hf : x.toValue.fields? [("data", true), ("groupBy", true), ("operation", true),
      ("valueField", false)] = some [some (.list (x.rows.map Row.toValue)),
        some (nameValue x.groupBy), some (nameValue x.operation), x.valueField.map nameValue] := by
    cases hv : x.valueField <;> rw [toValue, hv] <;> rfl
  simp only [JsonTransform.ofValue?, hf, Value.list?, mapM_ofValue?_toValue, chosen?_nameValue,
    optional?_nameValue, Option.bind_eq_bind, Option.bind_some, Option.pure_def]

/-- **A table is no text**: it has no member `text`. -/
theorem WordStats.ofValue?_jsonTransform (x : JsonTransform) :
    WordStats.ofValue? x.toValue = none := by
  have hf : x.toValue.fields? [("text", true), ("topN", true)] = none := by
    cases hv : x.valueField <;> rw [JsonTransform.toValue, hv] <;> rfl
  rw [WordStats.ofValue?, hf]

theorem Input.ofValue?_toValue (x : Input) : Input.ofValue? x.toValue = some x := by
  cases x with
  | wordStats x => rw [Input.toValue, Input.ofValue?, WordStats.ofValue?_toValue]
  | jsonTransform x =>
    rw [Input.toValue, Input.ofValue?, WordStats.ofValue?_jsonTransform,
      JsonTransform.ofValue?_toValue]
    rfl

/-! ## Written inputs -/

theorem Row.isExact_toValue (depth : Nat) (r : Row) : r.toValue.isExact (depth + 1) = true := rfl

theorem Input.isExact_toValue (depth : Nat) (x : Input) : x.toValue.isExact (depth + 3) = true := by
  cases x with
  | wordStats x => rfl
  | jsonTransform x =>
    have hr : Value.areExact (depth + 1) (x.rows.map Row.toValue) = true := by
      rw [Value.areExact_eq_all, List.all_map, List.all_eq_true]
      exact fun r _ => Row.isExact_toValue depth r
    rw [Input.toValue, JsonTransform.toValue]
    cases x.valueField <;>
      simp only [Value.isExact, List.cons_append, List.nil_append, Value.membersExact, hr] <;> rfl

end Payload

namespace Invocation

open Payload

/-- **The body for an input is an object with the input as its only member, and is read as the same
input**, whatever sink takes its size; so is the input written on its own. -/
theorem read?_wrap {σ : Type} [Sink σ] (x : Input) (sink : σ) :
    (∃ v, read? (wrap x.toValue sink).value.1 = some (.object [("input", v)]) ∧
        Input.ofValue? v = some x) ∧
      (read? x.toValue.compact).bind Input.ofValue? = some x := by
  have he : (envelope x.toValue).isExact maxDepth = true := by
    have := Input.isExact_toValue 123 x
    rw [envelope, maxDepth, Value.isExact, Value.membersExact, this]
    rfl
  refine ⟨⟨x.toValue, read?_compact he, Input.ofValue?_toValue x⟩, ?_⟩
  rw [read?_compact (Input.isExact_toValue 124 x), Option.bind_some, Input.ofValue?_toValue]

end Invocation

end FunctionLoad
