import FunctionLoad.Json.Decode

/-!
# Payload indices

* `Index`: the slot of a pool that a payload comes from, or none.
* `Index.toInt`, `Index.ofInt`: an index as an integer, where every negative number means none.
-/

namespace FunctionLoad.Payload

open FunctionLoad.Decimal

/-- The slot of a pool that a payload comes from, or none. -/
inductive Index where
  | pooled (slot : UInt64)
  | unpooled
  deriving Repr, DecidableEq

namespace Index

/-- The largest integer that an index is written as. -/
def maxInt : Nat := 0x7fffffffffffffff

/-- The slot of an index. -/
def slot? : Index → Option UInt64
  | .pooled slot => some slot
  | .unpooled => none

/-- Whether an index is a slot. -/
def isPooled (i : Index) : Bool :=
  i.slot?.isSome

/-- An index as an integer: `-1` for none, and the largest integer for all slots beyond it. -/
def toInt : Index → Int
  | .pooled slot => min slot.toNat maxInt
  | .unpooled => -1

/-- The index that an integer stands for. -/
def ofInt (n : Int) : Index :=
  if n < 0 then .unpooled else .pooled (UInt64.ofNat n.toNat)

/-- The decimal form of an index. -/
def text (i : Index) : String :=
  decimalInt i.toInt

/-- An index as JSON. -/
def toValue (i : Index) : Json.Value :=
  .int i.toInt

/-- The index that a JSON integer stands for. -/
def ofValue? : Json.Value → Option Index
  | .number (.whole n) => some (.ofInt n.toNat)
  | .number (.negative n) => some (.ofInt n.toInt)
  | _ => none

/-- The JSON integers that stand for indices. -/
def shape : Json.Shaped :=
  .integer (-(maxInt + 1)) maxInt

end Index

end FunctionLoad.Payload
