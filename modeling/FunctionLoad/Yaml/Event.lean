import FunctionLoad.Yaml.Token.Stream

/-!
# Events of a YAML document

* `Event`: a document in the order of its text; `α` is how an alias names its node.
* `Part`: what is still to come of the collections that are open.
* `Machine.step`: the next event, none where the tokens do not go on.
* **`Events.ofTokens`**: the events of the first document, or those before it failed.
-/

namespace FunctionLoad.Yaml

/-- The anchor and the tag of a node. -/
structure Properties where
  anchor : Option (List Char) := none
  tag : Option (List UInt8) := none
  deriving Repr, DecidableEq

/-- A document in the order of its text. -/
inductive Event (α : Type) where
  | alias (name : α)
  | scalar (properties : Properties) (text : List Char) (style : Style)
  | sequenceStart (properties : Properties)
  | sequenceEnd
  | mappingStart (properties : Properties)
  | mappingEnd
  deriving Repr, DecidableEq

/-- What is still to come of a collection that is open. -/
inductive Part where
  | blockItem
  /-- An item of a sequence that stands no deeper than the mapping around it. -/
  | looseItem
  | blockKey
  | blockValue
  | flowItem (first : Bool)
  | pairKey
  | pairValue
  | pairEnd
  | flowKey (first : Bool)
  | flowValue
  | flowNoValue
  deriving Repr, DecidableEq

/-- What is left of the tokens, and of the open collections, innermost first. -/
structure Machine where
  tokens : List Token
  parts : List Part
  deriving Repr

/-- The handles for tags, and the start of tags that each abbreviates. -/
abbrev Handles := List (List Char × List UInt8)

namespace Event

/-- A node that is not there. -/
def empty {α : Type} : Event α :=
  .scalar {} [] .plain

end Event

namespace Machine

/-- An anchor, a tag, or both in either order. -/
def properties : List Token → Option (List Char) × Option (List Char × List UInt8) × List Token
  | .anchor a :: .tag h s :: r => (some a, some (h, s), r)
  | .anchor a :: r => (some a, none, r)
  | .tag h s :: .anchor a :: r => (some a, some (h, s), r)
  | .tag h s :: r => (none, some (h, s), r)
  | r => (none, none, r)

/-- The full tag. -/
def fullTag? (handles : Handles) (handle : List Char) (suffix : List UInt8) :
    Option (List UInt8) :=
  if handle = [] then some suffix else (handles.lookup handle).map (· ++ suffix)

/-- The tag that stands for no tag on a scalar. -/
def bareTag : List UInt8 := [33]

/-- The tag of a scalar. -/
def scalarTag (tag : Option (List UInt8)) : Option (List UInt8) :=
  tag.filter (· ≠ bareTag)

/-- The start of a node. With `block` it may be a block collection; with `loose` a sequence may
stand no deeper than the mapping around it. -/
def node (handles : Handles) (block loose : Bool) (m : Machine) :
    Option (Event (List Char) × Machine) :=
  match m.tokens with
  | .alias name :: r => some (.alias name, ⟨r, m.parts⟩)
  | ts => do
    let (anchor, named, ts) := properties ts
    let tag ←
      match named with
      | none => some none
      | some (handle, suffix) => (fullTag? handles handle suffix).map some
    let ps : Properties := ⟨anchor, tag⟩
    match ts, block, loose with
    | .blockEntry :: _, _, true => return (.sequenceStart ps, ⟨ts, .looseItem :: m.parts⟩)
    | .scalar text style :: r, _, _ =>
      return (.scalar { ps with tag := scalarTag tag } text style, ⟨r, m.parts⟩)
    | .flowSequenceStart :: r, _, _ =>
      return (.sequenceStart ps, ⟨r, .flowItem true :: m.parts⟩)
    | .flowMappingStart :: r, _, _ => return (.mappingStart ps, ⟨r, .flowKey true :: m.parts⟩)
    | .blockSequenceStart :: r, true, _ => return (.sequenceStart ps, ⟨r, .blockItem :: m.parts⟩)
    | .blockMappingStart :: r, true, _ => return (.mappingStart ps, ⟨r, .blockKey :: m.parts⟩)
    | _ :: _, _, _ =>
      if anchor.isSome ∨ tag.isSome then return (.scalar ps [] .plain, ⟨ts, m.parts⟩) else none
    | [], _, _ => none

/-- A node that is not there. -/
def absent (m : Machine) : Option (Event (List Char) × Machine) :=
  some (.empty, m)

/-- Whether a block collection goes on with this token, so that no node stands here. -/
def isBlockPart : Token → Bool
  | .key => true
  | .value => true
  | .blockEnd => true
  | _ => false

/-- What stands behind the comma of a flow collection; the first entry needs none. -/
def afterComma? (first : Bool) : List Token → Option (List Token)
  | .flowEntry :: r => if first then some (.flowEntry :: r) else some r
  | r => if first then some r else none

/-- An item of a block sequence, behind its dash. -/
def blockItem (handles : Handles) (m : Machine) : Option (Event (List Char) × Machine) :=
  match m.tokens with
  | .blockEntry :: r =>
    match r with
    | [] => none
    | .blockEntry :: _ => absent ⟨r, .blockItem :: m.parts⟩
    | .blockEnd :: _ => absent ⟨r, .blockItem :: m.parts⟩
    | _ => node handles true false ⟨r, .blockItem :: m.parts⟩
  | .blockEnd :: r => some (.sequenceEnd, ⟨r, m.parts⟩)
  | _ => none

/-- An item of a sequence that stands no deeper than the mapping around it. -/
def looseItem (handles : Handles) (m : Machine) : Option (Event (List Char) × Machine) :=
  match m.tokens with
  | .blockEntry :: r =>
    match r with
    | [] => none
    | t :: _ =>
      if t = .blockEntry ∨ isBlockPart t then absent ⟨r, .looseItem :: m.parts⟩
      else node handles true false ⟨r, .looseItem :: m.parts⟩
  | [] => none
  | _ => some (.sequenceEnd, m)

/-- The node behind the colon or question mark of a block mapping, in front of `part`. -/
def blockNode (handles : Handles) (part : Part) (m : Machine) :
    Option (Event (List Char) × Machine) :=
  match m.tokens with
  | [] => none
  | t :: _ =>
    let m := { m with parts := part :: m.parts }
    if isBlockPart t then absent m else node handles true true m

/-- A key of a block mapping. -/
def blockKey (handles : Handles) (m : Machine) : Option (Event (List Char) × Machine) :=
  match m.tokens with
  | .key :: r => blockNode handles .blockValue ⟨r, m.parts⟩
  | .blockEnd :: r => some (.mappingEnd, ⟨r, m.parts⟩)
  | _ => none

/-- A value of a block mapping. -/
def blockValue (handles : Handles) (m : Machine) : Option (Event (List Char) × Machine) :=
  match m.tokens with
  | .value :: r => blockNode handles .blockKey ⟨r, m.parts⟩
  | [] => none
  | _ => absent { m with parts := .blockKey :: m.parts }

/-- An item of a flow sequence; a key in it starts a mapping of one pair. -/
def flowItem (handles : Handles) (first : Bool) (m : Machine) :
    Option (Event (List Char) × Machine) :=
  match m.tokens with
  | .flowSequenceEnd :: r => some (.sequenceEnd, ⟨r, m.parts⟩)
  | ts => do
    let ts ← afterComma? first ts
    let parts := .flowItem false :: m.parts
    match ts with
    | [] => none
    | .key :: r => return (.mappingStart {}, ⟨r, .pairKey :: parts⟩)
    | .flowSequenceEnd :: r => return (.sequenceEnd, ⟨r, m.parts⟩)
    | ts => node handles false false ⟨ts, parts⟩

/-- The key of a pair in a flow sequence. Without one the next token counts as its place. -/
def pairKey (handles : Handles) (m : Machine) : Option (Event (List Char) × Machine) :=
  let m' := { m with parts := .pairValue :: m.parts }
  match m.tokens with
  | [] => none
  | .value :: r => absent { m' with tokens := r }
  | .flowEntry :: r => absent { m' with tokens := r }
  | .flowSequenceEnd :: r => absent { m' with tokens := r }
  | _ => node handles false false m'

/-- The value of a pair in a flow sequence. -/
def pairValue (handles : Handles) (m : Machine) : Option (Event (List Char) × Machine) :=
  let m' := { m with parts := .pairEnd :: m.parts }
  match m.tokens with
  | [] => none
  | .value :: r =>
    match r with
    | [] => none
    | .flowEntry :: _ => absent { m' with tokens := r }
    | .flowSequenceEnd :: _ => absent { m' with tokens := r }
    | _ => node handles false false { m' with tokens := r }
  | _ => absent m'

/-- A key of a flow mapping, perhaps one without value. -/
def flowKey (handles : Handles) (first : Bool) (m : Machine) :
    Option (Event (List Char) × Machine) :=
  match m.tokens with
  | .flowMappingEnd :: r => some (.mappingEnd, ⟨r, m.parts⟩)
  | ts => do
    let ts ← afterComma? first ts
    match ts with
    | [] => none
    | .key :: r =>
      let m := ⟨r, .flowValue :: m.parts⟩
      match r with
      | [] => none
      | .value :: _ => absent m
      | .flowEntry :: _ => absent m
      | .flowMappingEnd :: _ => absent m
      | _ => node handles false false m
    | .flowMappingEnd :: r => return (.mappingEnd, ⟨r, m.parts⟩)
    | ts => node handles false false ⟨ts, .flowNoValue :: m.parts⟩

/-- A value of a flow mapping. -/
def flowValue (handles : Handles) (m : Machine) : Option (Event (List Char) × Machine) :=
  let m' := { m with parts := .flowKey false :: m.parts }
  match m.tokens with
  | [] => none
  | .value :: r =>
    match r with
    | [] => none
    | .flowEntry :: _ => absent { m' with tokens := r }
    | .flowMappingEnd :: _ => absent { m' with tokens := r }
    | _ => node handles false false { m' with tokens := r }
  | _ => absent m'

/-- **The next event** of the innermost open collection. -/
def step (handles : Handles) (m : Machine) : Option (Event (List Char) × Machine) :=
  match m.parts with
  | [] => none
  | part :: parts =>
    let m := { m with parts := parts }
    match part with
    | .blockItem => blockItem handles m
    | .looseItem => looseItem handles m
    | .blockKey => blockKey handles m
    | .blockValue => blockValue handles m
    | .flowItem first => flowItem handles first m
    | .pairKey => pairKey handles m
    | .pairValue => pairValue handles m
    | .pairEnd => if m.tokens.isEmpty then none else some (.mappingEnd, m)
    | .flowKey first => flowKey handles first m
    | .flowValue => flowValue handles m
    | .flowNoValue =>
      if m.tokens.isEmpty then none else absent { m with parts := .flowKey false :: m.parts }

/-- The events up to the end of the open collections, and the tokens left then, if they end. -/
def run (handles : Handles) : Nat → Machine → List (Event (List Char)) × Option (List Token)
  | 0, _ => ([], none)
  | fuel + 1, m =>
    if m.parts.isEmpty then ([], some m.tokens)
    else
      match m.step handles with
      | none => ([], none)
      | some (e, m) =>
        let p := run handles fuel m
        (e :: p.1, p.2)

end Machine

/-- The events of a document, and whether nothing but its end follows them. -/
structure Events where
  list : List (Event (List Char))
  complete : Bool
  deriving Repr

namespace Events

/-- The handles that every document has. -/
def defaultHandles : Handles :=
  [(['!'], Tag.asciiBytes ['!']), (['!', '!'], Tag.asciiBytes "tag:yaml.org,2002:".toList)]

/-- The directives of a document, and the tokens behind them. Two versions, a version other than
1.1 and 1.2, and a handle that is given twice are refused. -/
def directives : (version : Bool) → Handles → List Token → Option (Handles × List Token)
  | version, handles, .version major minor :: r =>
    if version ∨ major ≠ 1 ∨ (minor ≠ 1 ∧ minor ≠ 2) then none else directives true handles r
  | version, handles, .tagHandle handle start :: r =>
    if (handles.lookup handle).isSome then none
    else directives version ((handle, start) :: handles) r
  | _, handles, ts => some (handles, ts)

/-- Whether nothing but ends follows. -/
def atEnd : List Token → Bool
  | .documentEnd :: r => atEnd r
  | [.streamEnd] => true
  | _ => false

/-- The events of a document that starts with a node. -/
def ofNode (handles : Handles) (m : Machine) : Events :=
  match m.node handles true false with
  | none => ⟨[], false⟩
  | some (e, m) =>
    let p := m.run handles (4 * m.tokens.length + 4)
    ⟨e :: p.1, p.2.any atEnd⟩

/-- The events of a document behind its marker. -/
def ofContent (handles : Handles) (ts : List Token) : Events :=
  match ts with
  | [] => ⟨[], false⟩
  | .version _ _ :: _ => ⟨[.empty], false⟩
  | .tagHandle _ _ :: _ => ⟨[.empty], false⟩
  | .documentStart :: _ => ⟨[.empty], false⟩
  | .documentEnd :: _ => ⟨[.empty], atEnd ts⟩
  | .streamEnd :: _ => ⟨[.empty], atEnd ts⟩
  | _ => ofNode handles ⟨ts, []⟩

/-- **The events of the first document** of some tokens, or those before it failed. A text without
any document has the events of an empty one. -/
def ofTokens (ts : List Token) : Events :=
  match ts with
  | [] => ⟨[], false⟩
  | .streamEnd :: _ => ⟨[.empty], true⟩
  | .version _ _ :: _ => explicit
  | .tagHandle _ _ :: _ => explicit
  | .documentStart :: _ => explicit
  | _ => ofNode defaultHandles ⟨ts, []⟩
where
  /-- A document with a marker, and perhaps directives, in front. -/
  explicit : Events :=
    match directives false [] ts with
    | some (handles, .documentStart :: r) => ofContent (handles ++ defaultHandles) r
    | _ => ⟨[], false⟩

end Events

end FunctionLoad.Yaml
