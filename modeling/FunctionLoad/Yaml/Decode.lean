import FunctionLoad.Yaml.Document
import FunctionLoad.Yaml.Scalar.Resolution

/-!
# Reading of YAML documents with a given shape

* `text?`, `word?`, `numeral?`, `choice?`: readers of scalars.
* `record`: a reader of a mapping with known keys.
* **`Document.decode`**: what a document holds.

A record is read member by member into a draft, and the draft outlives a later fault: what a
member asked for may already have been told.
-/

namespace FunctionLoad.Yaml

open FunctionLoad.Decimal

/-- A reader of one value: the value, and the events behind it. -/
abbrev Shaped (α : Type) := Document → List (Event Nat) → Option (α × List (Event Nat))

/-- A reader that changes a draft, and the events behind what was read, none after a fault. -/
abbrev Drafted (σ : Type) := Document → σ → List (Event Nat) → σ × Option (List (Event Nat))

namespace Tag

/-- The name of a tag that only this document knows. -/
def local? : Option (List UInt8) → Option String
  | some (33 :: r) => String.fromUTF8? (ByteArray.mk r.toArray)
  | _ => none

/-- The tag of integers. -/
def int : List UInt8 := asciiBytes "tag:yaml.org,2002:int".toList

/-- The tags of other values that are no text. -/
def others : List (List UInt8) :=
  ["tag:yaml.org,2002:bool", "tag:yaml.org,2002:float", "tag:yaml.org,2002:null"].map
    fun s => asciiBytes s.toList

end Tag

/-! ## Scalars -/

/-- A scalar, or one that an alias names, with its tag and style. -/
def scalar? : Shaped (Option (List UInt8) × String × Style) := fun d es =>
  match es with
  | .scalar ps text style :: r => some ((ps.tag, String.ofList text, style), r)
  | .alias n :: r =>
    match d.target n with
    | .scalar ps text style :: _ => some ((ps.tag, String.ofList text, style), r)
    | _ => none
  | _ => none

/-- Any scalar, as its text. -/
def text? : Shaped String := fun d es =>
  (scalar? d es).map fun p => (p.1.2.1, p.2)

/-- A natural number of 64 bits, as a plain scalar or a literal one with the tag of integers. -/
def word? : Shaped UInt64 := fun d es => do
  let ((tag, text, style), r) ← scalar? d es
  if style = .plain ∨ (style = .literal ∧ tag = some Tag.int) then
    let n ← whole? text
    if n < UInt64.size then return (UInt64.ofNat n, r) else none
  else none

/-- The decimal form of an integer with a sign that fits in 64 bits. -/
def signedNumeral? (n : Int) : Option String :=
  if -0x8000000000000000 ≤ n ∧ n < 0x8000000000000000 then some (decimalInt n) else none

/-- The text of a scalar that is an integer or text. -/
def numeralText? (tag : Option (List UInt8)) (text : String) (style : Style) : Option String :=
  if (Tag.local? tag).isSome then none
  else
    match tag with
    | some tag =>
      if tag = Tag.int then (integer? text).bind signedNumeral?
      else if tag ∈ Tag.others then none
      else some text
    | none =>
      if style = .plain then
        match resolve text with
        | .integer n => signedNumeral? n
        | .text => some text
        | _ => none
      else some text

/-- A scalar that is an integer of 64 bits or a text. Integers are put into decimal. -/
def numeral? : Shaped String := fun d es => do
  let ((tag, text, style), r) ← scalar? d es
  return (← numeralText? tag text style, r)

/-- One of several names: as a scalar, or as a tag on nothing. -/
def choice? (names : List String) : Shaped String := fun d es => do
  let ((tag, text, style), r) ← scalar? d es
  let name ←
    match Tag.local? tag with
    | some name => if style = .plain ∧ isNull text then some name else none
    | none => some text
  if name ∈ names then return (name, r) else none

/-! ## Records -/

/-- The events behind a node, inside `depth` collections of it. -/
def skipFrom : (depth : Nat) → List (Event Nat) → Option (List (Event Nat))
  | _, [] => none
  | depth, e :: r =>
    match e with
    | .sequenceStart _ => skipFrom (depth + 1) r
    | .mappingStart _ => skipFrom (depth + 1) r
    | .sequenceEnd => if depth ≤ 1 then some r else skipFrom (depth - 1) r
    | .mappingEnd => if depth ≤ 1 then some r else skipFrom (depth - 1) r
    | _ => if depth = 0 then some r else skipFrom depth r

/-- The events behind a node. -/
def skip? (es : List (Event Nat)) : Option (List (Event Nat)) :=
  skipFrom 0 es

/-- A member of a record. -/
structure Member (σ : Type) where
  name : String
  read : Drafted σ

/-- A member that puts a value into the draft. -/
def Member.of {σ α : Type} (name : String) (shape : Shaped α) (put : α → σ → σ) : Member σ where
  name := name
  read d draft es :=
    match shape d es with
    | some (a, r) => (put a draft, some r)
    | none => (draft, none)

/-- The members of a mapping up to its end. Unknown keys are skipped with their values; a known
key that comes twice is refused. -/
def members {σ : Type} (known : List (Member σ)) (d : Document) :
    Nat → (seen : List String) → σ → List (Event Nat) → σ × Option (List (Event Nat))
  | 0, _, draft, _ => (draft, none)
  | fuel + 1, seen, draft, es =>
    match es with
    | .mappingEnd :: r => (draft, some r)
    | _ =>
      match text? d es with
      | none => (draft, none)
      | some (key, r) =>
        match known.find? (·.name == key) with
        | none =>
          match skip? r with
          | none => (draft, none)
          | some r => members known d fuel seen draft r
        | some m =>
          if key ∈ seen then (draft, none)
          else
            match m.read d draft r with
            | (draft, none) => (draft, none)
            | (draft, some r) => members known d fuel (key :: seen) draft r

/-- The members of a mapping that starts here; nothing at all is a mapping without members. -/
def mapping {σ : Type} (known : List (Member σ)) : Drafted σ := fun d draft es =>
  match es with
  | .mappingStart _ :: r => members known d (r.length + 1) [] draft r
  | .scalar _ [] .plain :: r => (draft, some r)
  | _ => (draft, none)

/-- **A mapping with known keys**, or one that an alias names. -/
def record {σ : Type} (known : List (Member σ)) : Drafted σ := fun d draft es =>
  match es with
  | .alias n :: r =>
    let p := mapping known d draft (d.target n)
    (p.1, p.2.map fun _ => r)
  | _ => mapping known d draft es

/-- **What a document holds**: the draft as far as it was read, and whether all was well. -/
def Document.decode {σ : Type} (known : List (Member σ)) (draft : σ) (d : Document) : σ × Bool :=
  let p := record known d draft d.events
  (p.1, p.2.isSome && d.complete)

end FunctionLoad.Yaml
