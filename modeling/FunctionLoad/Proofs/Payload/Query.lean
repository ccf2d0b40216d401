import FunctionLoad.Proofs.Payload.JsonTransform
import Mathlib.Data.Set.Card

/-!
# What tables are asked for

The operation on groups, the field to group by and the number to aggregate are picked one by one.
But the salts of the last two are a fixed distance apart and their lists are of one length, so that a
field to group by always comes with the same number. What is left are five operations times three
fields.

* `Query`, `JsonTransform.query`: what a table is asked for.
* `Query.IsPermitted`, `Query.permitted`, **`Query.ncard_permitted`**: what could be asked for.
* `GroupField.number`, **`pick_number`**: the number that comes with a field to group by.
* `Query.asked`, `JsonTransform.query_mem_asked`: what is asked for.
* **`JsonTransform.query_eq_iff`**: seeds ask for the same just if they are congruent modulo 15.
* **`JsonTransform.perm_queries`**: fifteen consecutive seeds ask for everything once.
* **`JsonTransform.query_coverage`**: which queries there are, and how often.
-/

namespace FunctionLoad.Payload

/-- What a table is asked for. -/
structure Query where
  operation : Operation
  groupBy : GroupField
  valueField : Option ValueField
  deriving DecidableEq

/-- What is asked of a table. -/
def JsonTransform.query (x : JsonTransform) : Query :=
  ⟨x.operation, x.groupBy, x.valueField⟩

/-- The number that comes with a field to group by. -/
def GroupField.number : GroupField → ValueField
  | .dept => .age
  | .region => .score
  | .tier => .salary

namespace Query

/-! ## What could be asked for -/

/-- Counting needs no number, and everything else needs one. -/
def IsPermitted (q : Query) : Prop :=
  q.valueField = none ↔ q.operation = .count

/-- The numbers that an operation can be asked for. -/
def numbers : Operation → List (Option ValueField)
  | .count => [none]
  | _ => Named.all.map some

/-- All permitted queries. -/
def permitted : List Query :=
  Named.all.flatMap fun o => Named.all.flatMap fun g => (numbers o).map fun f => ⟨o, g, f⟩

theorem mem_permitted_iff {q : Query} : q ∈ permitted ↔ q.IsPermitted := by
  obtain ⟨o, g, f⟩ := q
  unfold IsPermitted
  rcases f with _ | f
  · cases o <;> cases g <;> decide
  · cases o <;> cases g <;> cases f <;> decide

theorem ncard_mem {l : List Query} (h : l.Nodup) : {q | q ∈ l}.ncard = l.length := by
  have hset : {q | q ∈ l} = l.toFinset := by
    ext q
    exact List.mem_toFinset.symm
  rw [hset, Set.ncard_coe_finset, List.toFinset_card_of_nodup h]

theorem ncard_permitted : {q : Query | q.IsPermitted}.ncard = 39 := by
  simp only [← mem_permitted_iff]
  exact ncard_mem (by decide)

/-! ## What is asked for -/

/-- All queries that come with the number of their field. -/
def asked : List Query :=
  Named.all.flatMap fun o => Named.all.map fun g =>
    ⟨o, g, if o = .count then none else some g.number⟩

theorem nodup_asked : asked.Nodup := by decide

theorem isPermitted_of_mem_asked : ∀ q ∈ asked, q.IsPermitted := by
  have h : ∀ q ∈ asked, q ∈ permitted := by decide
  exact fun q hq => mem_permitted_iff.mp (h q hq)

end Query

/-- **A field to group by comes with its number.** -/
theorem pick_number (seed : ℕ) : pick (Named.all : List ValueField) seed 11 =
    (pick (Named.all : List GroupField) seed 3).number := by
  have hslot : slotOf 3 seed 11 = (slotOf 3 seed 3 + 8 * 17) % 3 := slotOf_add seed 3 8
  have hnext : ∀ (r : ℕ) (hr : r < 3),
      (Named.all : List ValueField).get ⟨(r + 8 * 17) % 3, Nat.mod_lt _ (by decide)⟩ =
        ((Named.all : List GroupField).get ⟨r, hr⟩).number := by
    decide
  have hpick : pick (Named.all : List ValueField) seed 11 =
      (Named.all : List ValueField).get ⟨(slotOf 3 seed 3 + 8 * 17) % 3, Nat.mod_lt _ (by decide)⟩ :=
    congrArg (Named.all : List ValueField).get (Fin.ext hslot)
  rw [hpick, hnext _ (slotOf_lt (by decide) seed 3)]
  rfl

namespace JsonTransform

theorem query_ofSeed (seed : ℕ) : (ofSeed seed).query =
    ⟨pick Named.all seed 0, pick Named.all seed 3, if pick Named.all seed 0 = Operation.count then none
      else some (pick (Named.all : List GroupField) seed 3).number⟩ := by
  rw [← pick_number]
  rfl

theorem query_mem_asked (seed : ℕ) : (ofSeed seed).query ∈ Query.asked := by
  rw [query_ofSeed]
  refine List.mem_flatMap.mpr ⟨_, pick_mem _ _ _, List.mem_map.mpr ⟨_, pick_mem _ _ _, rfl⟩⟩

/-- **Seeds ask for the same just if they are congruent modulo 15.** -/
theorem query_eq_iff (a b : ℕ) : (ofSeed a).query = (ofSeed b).query ↔ a ≡ b [MOD 15] := by
  have ho : pick (Named.all : List Operation) a 0 = pick Named.all b 0 ↔ a ≡ b [MOD 5] := by
    rw [pick_eq_iff _ (by decide), ← slotOf_eq_iff (by decide) a b 0]
    rfl
  have hg : pick (Named.all : List GroupField) a 3 = pick Named.all b 3 ↔ a ≡ b [MOD 3] := by
    rw [pick_eq_iff _ (by decide), ← slotOf_eq_iff (by decide) a b 3]
    rfl
  -- the number comes with the field, so two picks of coprime periods are left
  have hm : a ≡ b [MOD 5] ∧ a ≡ b [MOD 3] ↔ a ≡ b [MOD 15] :=
    Nat.modEq_and_modEq_iff_modEq_mul (by decide)
  rw [query_ofSeed, query_ofSeed, ← hm, ← ho, ← hg]
  constructor
  · intro h
    exact ⟨congrArg Query.operation h, congrArg Query.groupBy h⟩
  · rintro ⟨h1, h2⟩
    rw [h1, h2]

/-- **Fifteen consecutive seeds ask for everything once.** -/
theorem perm_queries (first : ℕ) :
    ((List.range' first 15).map fun seed => (ofSeed seed).query).Perm Query.asked :=
  perm_turn query_mem_asked (fun i j => (query_eq_iff i j).mp) (by decide) first

theorem range_query : Set.range (fun seed : UInt64 => (ofSeed seed.toNat).query) =
    {q | q ∈ Query.asked} := by
  ext q
  constructor
  · rintro ⟨seed, rfl⟩
    exact query_mem_asked seed.toNat
  · intro hq
    obtain ⟨seed, hseed, rfl⟩ := List.mem_map.mp ((perm_queries 0).mem_iff.mpr hq)
    rw [List.mem_range'_1] at hseed
    have hsize : seed < UInt64.size := hseed.2.trans (by decide)
    refine ⟨UInt64.ofNat seed, ?_⟩
    dsimp only
    rw [UInt64.toNat_ofNat_of_lt' hsize]

/-- **Which queries there are, and how often.** Every query that does not count is for the number of
its field. Of the 39 queries that are permitted 15 are asked for, and each of them once by any
fifteen consecutive seeds. -/
theorem query_coverage :
    (∀ seed : UInt64, (ofSeed seed.toNat).operation ≠ .count →
      (ofSeed seed.toNat).valueField = some (ofSeed seed.toNat).groupBy.number) ∧
    (∀ first : ℕ, ((List.range' first 15).map fun seed => (ofSeed seed).query).Nodup ∧
      ∀ seed : UInt64, ((List.range' first 15).map fun seed => (ofSeed seed).query).count
        (ofSeed seed.toNat).query = 1) ∧
    (Set.range fun seed : UInt64 => (ofSeed seed.toNat).query).ncard = 15 ∧
    (∀ seed : UInt64, (ofSeed seed.toNat).query.IsPermitted) ∧
    {q : Query | q.IsPermitted}.ncard = 39 := by
  refine ⟨fun seed h => ?_, fun first => ?_, ?_, fun seed => ?_, Query.ncard_permitted⟩
  · have hq := congrArg Query.valueField (query_ofSeed seed.toNat)
    exact hq.trans (if_neg h)
  · have hperm := perm_queries first
    refine ⟨hperm.nodup_iff.mpr Query.nodup_asked, fun seed => ?_⟩
    rw [hperm.count_eq]
    exact List.count_eq_one_of_mem Query.nodup_asked (query_mem_asked seed.toNat)
  · rw [range_query, Query.ncard_mem Query.nodup_asked]
    rfl
  · exact Query.isPermitted_of_mem_asked _ (query_mem_asked seed.toNat)

/-- A seed that asks for the largest values, and so for those of the number of its field. -/
theorem query_coverage_max :
    (ofSeed (18446744073709551614 : UInt64).toNat).operation ≠ .count ∧
      (ofSeed (18446744073709551614 : UInt64).toNat).valueField =
        some (ofSeed (18446744073709551614 : UInt64).toNat).groupBy.number := by
  have h : (ofSeed (18446744073709551614 : UInt64).toNat).operation ≠ .count := by decide
  exact ⟨h, query_coverage.1 18446744073709551614 h⟩

end JsonTransform

end FunctionLoad.Payload
