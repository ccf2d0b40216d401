import FunctionLoad.Json.Reader

/-!
# Reading of JSON with a given shape

* `Fault`: why a text is no value of a shape, malformed JSON or JSON of another shape.
* `Shaped`: a reader of one shape; `text`, `integer`, `choice`, `listOf`, `optional` and `record`
  make them.
* **`decode`**: the value of a whole text in a shape, or the first fault met from left to right.
* `fields?`, `choice?`, `integer?`: the same shapes in a value that was read already.

A record is an object, whose other members are skipped, or a list of its fields in order. A choice
is one of its names, or an object with that name as its only key and `null` under it.
-/

namespace FunctionLoad.Json

open FunctionLoad.Decimal

/-- Why a text is no value of a shape. -/
inductive Fault where
  /-- No JSON at all. -/
  | malformed
  /-- JSON of another shape. -/
  | misfit
  deriving Repr, DecidableEq

/-- A reader of one shape: the value and what follows it, or the first fault. -/
abbrev Shaped := List Char → Except Fault (Value × List Char)

/-- Malformed where there is no result. -/
def orMalformed {α : Type} : Option α → Except Fault α
  | some a => .ok a
  | none => .error .malformed

/-! ## Skipping -/

/-- A list or object that is being skipped. -/
inductive Nest where
  | list
  | object
  deriving Repr, DecidableEq

/-- A text that is skipped, after its quote: escapes need not make characters. -/
def skipString? : List Char → Option (List Char)
  | [] => none
  | '\\' :: 'u' :: a :: b :: c :: d :: r =>
    if (codeUnit? a b c d).isSome then skipString? r else none
  | '\\' :: c :: r => if (escaped? c).isSome then skipString? r else none
  | c :: r =>
    if c = '"' then some r
    else if c = '\\' ∨ c.toNat < 0x20 then none
    else skipString? r

/-- A number that is skipped, of any size. -/
def skipNumber? (cs : List Char) : Option (List Char) :=
  let cs :=
    match cs with
    | '-' :: r => r
    | r => r
  let ds := cs.takeWhile isDigit
  let rest := cs.dropWhile isDigit
  let power (cs : List Char) : Option (List Char) :=
    match cs with
    | c :: r => if c = 'e' ∨ c = 'E' then (exponent? r).map Prod.snd else some (c :: r)
    | [] => some []
  if ds = [] ∨ (ds.head? = some '0' ∧ 1 < ds.length) then none
  else
    match rest with
    | '.' :: tail =>
      if tail.takeWhile isDigit = [] then none else power (tail.dropWhile isDigit)
    | _ => power rest

/-- What stands in front of a value inside a nest: nothing, or a key and a colon. -/
def skipKey? (nest : Nest) (cs : List Char) : Option (List Char) :=
  match nest with
  | .list => some cs
  | .object =>
    match skipBlank cs with
    | '"' :: r =>
      (skipString? r).bind fun r =>
        match skipBlank r with
        | ':' :: r => some r
        | _ => none
    | _ => none

mutual

/-- What follows a value of any shape and the nests around it. -/
def skipIn? (fuel : Nat) (nests : List Nest) (cs : List Char) : Option (List Char) :=
  match fuel with
  | 0 => none
  | fuel + 1 =>
    match skipBlank cs with
    | [] => none
    | '"' :: r => (skipString? r).bind (skipOn? fuel nests)
    | 'n' :: r => (after? ['u', 'l', 'l'] r).bind (skipOn? fuel nests)
    | 't' :: r => (after? ['r', 'u', 'e'] r).bind (skipOn? fuel nests)
    | 'f' :: r => (after? ['a', 'l', 's', 'e'] r).bind (skipOn? fuel nests)
    | '[' :: r =>
      match skipBlank r with
      | ']' :: r => skipOn? fuel nests r
      | _ => skipIn? fuel (.list :: nests) r
    | '\x7b' :: r =>
      match skipBlank r with
      | '\x7d' :: r => skipOn? fuel nests r
      | _ => (skipKey? .object r).bind (skipIn? fuel (.object :: nests))
    | r => (skipNumber? r).bind (skipOn? fuel nests)

/-- What follows the nests after one of their values. -/
def skipOn? (fuel : Nat) (nests : List Nest) (cs : List Char) : Option (List Char) :=
  match fuel, nests with
  | _, [] => some cs
  | 0, _ => none
  | fuel + 1, nest :: outer =>
    match skipBlank cs, nest with
    | ',' :: r, nest => (skipKey? nest r).bind (skipIn? fuel (nest :: outer))
    | ']' :: r, .list => skipOn? fuel outer r
    | '\x7d' :: r, .object => skipOn? fuel outer r
    | _, _ => none

end

/-- What follows a value of any shape and depth. -/
def skip? (cs : List Char) : Option (List Char) :=
  skipIn? (2 * cs.length + 2) [] cs

/-! ## Shapes -/

/-- The fault where a value of another kind stands: it is read far enough to tell. -/
def unexpected (cs : List Char) : Fault :=
  let told (b : Bool) : Fault := if b then .misfit else .malformed
  match skipBlank cs with
  | [] => .malformed
  | '"' :: r => told (string? r).isSome
  | 'n' :: r => told (after? ['u', 'l', 'l'] r).isSome
  | 't' :: r => told (after? ['r', 'u', 'e'] r).isSome
  | 'f' :: r => told (after? ['a', 'l', 's', 'e'] r).isSome
  | '[' :: _ => .misfit
  | '\x7b' :: _ => .misfit
  | r => told (number? r).isSome

namespace Shaped

/-- Any text. -/
def text : Shaped := fun cs =>
  match skipBlank cs with
  | '"' :: r => (orMalformed (string? r)).map fun p => (.text (String.ofList p.1), p.2)
  | _ => .error (unexpected cs)

/-- A number that is whole and lies between bounds. -/
def inBounds (low high : Int) : Number → Bool
  | .whole n => low ≤ n.toNat && (n.toNat : Int) ≤ high
  | .negative n => low ≤ n.toInt && n.toInt ≤ high
  | .double _ => false

/-- An integer between bounds. -/
def integer (low high : Int) : Shaped := fun cs =>
  match skipBlank cs with
  | [] => .error .malformed
  | c :: r =>
    if c = '-' ∨ isDigit c then
      match number? (c :: r) with
      | none => .error .malformed
      | some (n, r) => if inBounds low high n then .ok (.number n, r) else .error .misfit
    else .error (unexpected cs)

/-- One of several names. -/
def named (names : List String) (name : String) : Except Fault Value :=
  if name ∈ names then .ok (.text name) else .error .misfit

/-- One of several names, or an object with the name as its only key and `null` under it. -/
def choice (names : List String) : Shaped := fun cs =>
  match skipBlank cs with
  | '"' :: r => do
    let (s, r) ← orMalformed (string? r)
    return (← named names (String.ofList s), r)
  | '\x7b' :: r => do
    let (key, r) ← text r
    let v ←
      match key with
      | .text name => named names name
      | _ => .error .misfit
    match skipBlank r with
    | ':' :: r =>
      match skipBlank r with
      | 'n' :: r' => do
        let r ← orMalformed (after? ['u', 'l', 'l'] r')
        match skipBlank r with
        | '\x7d' :: r => return (v, r)
        | _ => .error .malformed
      | _ => .error (unexpected r)
    | _ => .error .malformed
  | _ => .error .malformed

/-- A value of the shape or `null`. -/
def optional (shape : Shaped) : Shaped := fun cs =>
  match skipBlank cs with
  | 'n' :: r => (orMalformed (after? ['u', 'l', 'l'] r)).map fun r => (.null, r)
  | _ => shape cs

/-- Whether another item of a list follows, and where. The first one needs no comma. -/
def nextItem (first : Bool) (cs : List Char) : Except Fault (Bool × List Char) :=
  match skipBlank cs with
  | [] => .error .malformed
  | ']' :: r => .ok (false, ']' :: r)
  | c :: r =>
    if first then .ok (true, c :: r)
    else if c = ',' then
      match skipBlank r with
      | [] => .error .malformed
      | ']' :: _ => .error .malformed
      | r => .ok (true, r)
    else .error .malformed

/-- The items of a list up to its closing bracket. -/
def itemsOf (shape : Shaped) : Nat → Bool → List Char → Except Fault (List Value × List Char)
  | 0, _, _ => .error .malformed
  | fuel + 1, first, cs => do
    let (more, r) ← nextItem first cs
    if more then
      let (v, r) ← shape r
      let (vs, r) ← itemsOf shape fuel false r
      return (v :: vs, r)
    else return ([], r.drop 1)

/-- A list of values of one shape. -/
def listOf (shape : Shaped) : Shaped := fun cs =>
  match skipBlank cs with
  | '[' :: r => (itemsOf shape (r.length + 1) true r).map fun p => (.list p.1, p.2)
  | _ => .error (unexpected cs)

/-- A field of a record. -/
structure Field where
  name : String
  shape : Shaped
  required : Bool

/-- The fields of a record written as a list. A field that need not be there may be left out at
the end. -/
def fieldsInOrder : List Field → Bool → List Char → Except Fault (List (String × Value) × List Char)
  | [], _, cs =>
    match skipBlank cs with
    | ']' :: r => .ok ([], r)
    | _ => .error .malformed
  | f :: fs, first, cs => do
    let (more, r) ← nextItem first cs
    if more then
      let (v, r) ← f.shape r
      let (vs, r) ← fieldsInOrder fs false r
      return ((f.name, v) :: vs, r)
    else if f.required then .error .misfit
    else fieldsInOrder fs first r

/-- The members of a record written as an object, up to its closing brace. -/
def fieldsByName (fields : List Field) :
    Nat → Bool → List (String × Value) → List Char →
      Except Fault (List (String × Value) × List Char)
  | 0, _, _, _ => .error .malformed
  | fuel + 1, first, found, cs =>
    let member (r : List Char) : Except Fault (List (String × Value) × List Char) := do
      let (key, r) ← orMalformed (string? r)
      let name := String.ofList key
      let colon (r : List Char) : Except Fault (List Char) :=
        match skipBlank r with
        | ':' :: r => .ok r
        | _ => .error .malformed
      match fields.find? fun f => f.name == name with
      | some f =>
        if (found.lookup name).isSome then .error .misfit
        else
          let r ← colon r
          let (v, r) ← f.shape r
          fieldsByName fields fuel false ((name, v) :: found) r
      | none =>
        let r ← colon r
        let r ← orMalformed (skip? r)
        fieldsByName fields fuel false found r
    match skipBlank cs, first with
    | '\x7d' :: r, _ => .ok (found, r)
    | '"' :: r, true => member r
    | ',' :: r, false =>
      match skipBlank r with
      | '"' :: r => member r
      | _ => .error .malformed
    | _, _ => .error .malformed

/-- The fields that were found, in the order of the record. -/
def collect (found : List (String × Value)) : List Field → Except Fault (List (String × Value))
  | [] => .ok []
  | f :: fs =>
    match found.lookup f.name with
    | some v => (collect found fs).map ((f.name, v) :: ·)
    | none => if f.required then .error .misfit else collect found fs

/-- A record, as an object or as a list of its fields. -/
def record (fields : List Field) : Shaped := fun cs =>
  match skipBlank cs with
  | '[' :: r => (fieldsInOrder fields true r).map fun p => (.object p.1, p.2)
  | '\x7b' :: r => do
    let (found, r) ← fieldsByName fields (r.length + 1) true [] r
    return (.object (← collect found fields), r)
  | _ => .error (unexpected cs)

end Shaped

/-- **The value of a whole text in a shape, or the first fault.** -/
def decode (shape : Shaped) (s : String) : Except Fault Value := do
  let (v, r) ← shape s.toList
  if skipBlank r = [] then return v else .error .malformed

/-! ## Shapes of values that were read already -/

namespace Value

/-- The items of a list as values of the fields, in order. Only fields that need not be there may
be missing at the end. -/
def fieldsOfList? : List (String × Bool) → List Value → Option (List (Option Value))
  | [], [] => some []
  | [], _ :: _ => none
  | _ :: fs, v :: vs => (fieldsOfList? fs vs).map (some v :: ·)
  | (_, required) :: fs, [] => if required then none else (fieldsOfList? fs []).map (none :: ·)

/-- How many members have a key. -/
def countKey (key : String) (members : List (String × Value)) : Nat :=
  members.countP fun m => m.1 == key

/-- The members of an object as values of the fields; none may be there twice. -/
def fieldsOfMembers? (members : List (String × Value)) :
    List (String × Bool) → Option (List (Option Value))
  | [] => some []
  | (name, required) :: fs =>
    if 1 < countKey name members then none
    else
      match members.lookup name with
      | some v => (fieldsOfMembers? members fs).map (some v :: ·)
      | none => if required then none else (fieldsOfMembers? members fs).map (none :: ·)

/-- The fields of a record, each with whether it must be there, in a value. -/
def fields? (v : Value) (fields : List (String × Bool)) : Option (List (Option Value)) :=
  match v with
  | .object members => fieldsOfMembers? members fields
  | .list items => fieldsOfList? fields items
  | _ => none

/-- The name that a value chooses. -/
def choice? : Value → Option String
  | .text s => some s
  | .object [(k, .null)] => some k
  | _ => none

/-- The text that a value is. -/
def text? : Value → Option String
  | .text s => some s
  | _ => none

/-- The items of the list that a value is. -/
def list? : Value → Option (List Value)
  | .list items => some items
  | _ => none

/-- The whole number below a bound that a value is. -/
def nat? (bound : Nat) : Value → Option Nat
  | .number (.whole n) => if n.toNat < bound then some n.toNat else none
  | _ => none

end Value

end FunctionLoad.Json
