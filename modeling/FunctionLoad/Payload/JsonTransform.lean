import FunctionLoad.Payload.Seed
import FunctionLoad.Named

/-!
# Tables for grouping and aggregation

* `Department`, `Region`, `Tier`: what rows are grouped by; `GroupField` names one of them.
* `Operation`, `ValueField`: how groups are aggregated, and which number of their rows.
* `Row`, `JsonTransform`: a row, and a table with what is asked about it.
* **`JsonTransform.ofSeed`**: the input of a seed. Counting needs no number, so it names none.
* `JsonTransform.toValue`, `JsonTransform.ofValue?`: the input as JSON.
-/

namespace FunctionLoad.Payload

/-! ## Fields -/

/-- How groups are aggregated. -/
inductive Operation where
  | count
  | sum
  | avg
  | min
  | max
  deriving Repr, DecidableEq

instance : Named Operation where
  all := [.count, .sum, .avg, .min, .max]
  name
    | .count => "count"
    | .sum => "sum"
    | .avg => "avg"
    | .min => "min"
    | .max => "max"

/-- What rows are grouped by. -/
inductive GroupField where
  | dept
  | region
  | tier
  deriving Repr, DecidableEq

instance : Named GroupField where
  all := [.dept, .region, .tier]
  name
    | .dept => "dept"
    | .region => "region"
    | .tier => "tier"

/-- Which number is aggregated. -/
inductive ValueField where
  | salary
  | age
  | score
  deriving Repr, DecidableEq

instance : Named ValueField where
  all := [.salary, .age, .score]
  name
    | .salary => "salary"
    | .age => "age"
    | .score => "score"

inductive Department where
  | eng
  | sales
  | hr
  | marketing
  | finance
  | ops
  deriving Repr, DecidableEq

instance : Named Department where
  all := [.eng, .sales, .hr, .marketing, .finance, .ops]
  name
    | .eng => "eng"
    | .sales => "sales"
    | .hr => "hr"
    | .marketing => "marketing"
    | .finance => "finance"
    | .ops => "ops"

inductive Region where
  | emea
  | na
  | apac
  | latam
  deriving Repr, DecidableEq

instance : Named Region where
  all := [.emea, .na, .apac, .latam]
  name
    | .emea => "emea"
    | .na => "na"
    | .apac => "apac"
    | .latam => "latam"

inductive Tier where
  | junior
  | mid
  | senior
  deriving Repr, DecidableEq

instance : Named Tier where
  all := [.junior, .mid, .senior]
  name
    | .junior => "junior"
    | .mid => "mid"
    | .senior => "senior"

/-! ## Rows -/

/-- A row of a table. -/
structure Row where
  dept : Department
  region : Region
  tier : Tier
  salary : UInt64
  age : UInt64
  score : UInt64
  deriving Repr, DecidableEq

/-- An element as JSON: its name. -/
def nameValue {α : Type} [Named α] (a : α) : Json.Value :=
  .text (Named.name a)

/-- The element that a JSON value chooses. -/
def chosen? {α : Type} [Named α] (v : Json.Value) : Option α :=
  v.choice?.bind Named.ofName?

/-- The JSON that elements are read from. -/
def nameShape (α : Type) [Named α] : Json.Shaped :=
  .choice (Named.names α)

/-- The JSON that unsigned numbers of 64 bits are read from. -/
def wordShape : Json.Shaped :=
  .integer 0 (UInt64.size - 1)

/-- The unsigned number of 64 bits that a JSON value is. -/
def word? (v : Json.Value) : Option UInt64 :=
  (v.nat? UInt64.size).map UInt64.ofNat

namespace Row

/-- Row `i` of a seed. -/
def ofSeed (seed i : Nat) : Row where
  dept := pick Named.all seed (i + 1)
  region := pick Named.all seed (i + 5)
  tier := pick Named.all seed (i + 9)
  salary := UInt64.ofNat (40000 + spread seed 37 i 173 90000)
  age := UInt64.ofNat (22 + spread seed 11 i 5 35)
  score := UInt64.ofNat (50 + spread seed 13 i 7 51)

/-- A row as JSON. -/
def toValue (r : Row) : Json.Value :=
  .object [("dept", nameValue r.dept), ("region", nameValue r.region), ("tier", nameValue r.tier),
    ("salary", .nat r.salary), ("age", .nat r.age), ("score", .nat r.score)]

/-- The JSON that rows are read from. -/
def shape : Json.Shaped :=
  .record [⟨"dept", nameShape Department, true⟩, ⟨"region", nameShape Region, true⟩,
    ⟨"tier", nameShape Tier, true⟩, ⟨"salary", wordShape, true⟩, ⟨"age", wordShape, true⟩,
    ⟨"score", wordShape, true⟩]

/-- The row that a JSON value stands for. -/
def ofValue? (v : Json.Value) : Option Row :=
  match v.fields? [("dept", true), ("region", true), ("tier", true), ("salary", true),
    ("age", true), ("score", true)] with
  | some [some dept, some region, some tier, some salary, some age, some score] => do
    return ⟨← chosen? dept, ← chosen? region, ← chosen? tier, ← word? salary, ← word? age,
      ← word? score⟩
  | _ => none

end Row

/-! ## Tables -/

/-- A table with what is asked about it. -/
structure JsonTransform where
  rows : List Row
  groupBy : GroupField
  operation : Operation
  valueField : Option ValueField
  deriving Repr, DecidableEq

namespace JsonTransform

/-- How many rows a seed has. -/
def rowCount (seed : Nat) : Nat :=
  8 + seed % 24

/-- **The input of a seed.** -/
def ofSeed (seed : Nat) : JsonTransform :=
  let operation : Operation := pick Named.all seed 0
  { rows := (List.range (rowCount seed)).map (Row.ofSeed seed)
    groupBy := pick Named.all seed 3
    operation := operation
    valueField := if operation = .count then none else some (pick Named.all seed 11) }

/-- The input as JSON. A field that is not there is left out. -/
def toValue (x : JsonTransform) : Json.Value :=
  .object ([("data", .list (x.rows.map Row.toValue)), ("groupBy", nameValue x.groupBy),
    ("operation", nameValue x.operation)] ++
    match x.valueField with
    | some f => [("valueField", nameValue f)]
    | none => [])

/-- The JSON that inputs are read from. -/
def shape : Json.Shaped :=
  .record [⟨"data", .listOf Row.shape, true⟩, ⟨"groupBy", nameShape GroupField, true⟩,
    ⟨"operation", nameShape Operation, true⟩,
    ⟨"valueField", .optional (nameShape ValueField), false⟩]

/-- The element that a JSON value chooses, if there is any; `null` chooses none. -/
def optional? {α : Type} [Named α] : Option Json.Value → Option (Option α)
  | none => some none
  | some .null => some none
  | some v => (chosen? v).map some

/-- The input that a JSON value stands for. -/
def ofValue? (v : Json.Value) : Option JsonTransform :=
  match v.fields? [("data", true), ("groupBy", true), ("operation", true),
    ("valueField", false)] with
  | some [some data, some groupBy, some operation, field] => do
    return ⟨← (← data.list?).mapM Row.ofValue?, ← chosen? groupBy, ← chosen? operation,
      ← optional? field⟩
  | _ => none

end JsonTransform

end FunctionLoad.Payload
