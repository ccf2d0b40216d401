/-!
# JSON values

* `Number`: a number as read, a whole number that fits in 64 bits, or else a double.
* `Value`: a JSON value; an object keeps its members in the order of the text, repeated keys too.
* `Value.canonical`: members sorted by key, the last one of a repeated key.
* `Value.get?`: the member of an object under a key, the last one if the key is repeated.
-/

namespace FunctionLoad.Json

/-- A number as read: a whole number that fits in 64 bits, with or without sign, or a double. -/
inductive Number where
  | whole (n : UInt64)
  /-- A number below zero. -/
  | negative (n : Int64)
  | double (x : Float)
  deriving Repr, BEq, Inhabited

/-- A JSON value. -/
inductive Value where
  | null
  | bool (b : Bool)
  | number (n : Number)
  | text (s : String)
  | list (items : List Value)
  | object (members : List (String × Value))
  deriving Repr, BEq, Inhabited

namespace Value

/-- A whole number. -/
def nat (n : UInt64) : Value :=
  .number (.whole n)

/-- An integer that fits in 64 bits with sign. -/
def int (n : Int) : Value :=
  if n < 0 then .number (.negative (Int64.ofInt n)) else .number (.whole (UInt64.ofNat n.toNat))

/-- The last of the members under a key. -/
def lastUnder (key : String) : List (String × Value) → Option Value
  | [] => none
  | (k, v) :: r => (lastUnder key r).or (if k == key then some v else none)

/-- The member of an object under a key; values of other kinds have none. -/
def get? (v : Value) (key : String) : Option Value :=
  match v with
  | .object members => lastUnder key members
  | _ => none

/-- A member put into members that are sorted by key, in place of one with the same key. -/
def putMember (key : String) (v : Value) : List (String × Value) → List (String × Value)
  | [] => [(key, v)]
  | (k, w) :: r =>
    if key < k then (key, v) :: (k, w) :: r
    else if key == k then (key, v) :: r
    else (k, w) :: putMember key v r

mutual

/-- A value with the members of every object sorted by key, the last one of a repeated key. -/
def canonical : Value → Value
  | .list items => .list (canonicalItems items)
  | .object members => .object (canonicalMembers [] members)
  | v => v

/-- The items of a list in canonical form. -/
def canonicalItems : List Value → List Value
  | [] => []
  | v :: r => v.canonical :: canonicalItems r

/-- Members in canonical form, put into sorted ones. -/
def canonicalMembers (done : List (String × Value)) : List (String × Value) → List (String × Value)
  | [] => done
  | (k, v) :: r => canonicalMembers (putMember k v.canonical done) r

end

end Value

end FunctionLoad.Json
