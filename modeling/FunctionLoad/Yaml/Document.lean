import FunctionLoad.Yaml.Event

/-!
# YAML documents

* `Document`: the events of a document, where every alias has the number of its anchor.
* `Document.target`: the events from the node on that an anchor names.
* **`Document.ofText`**: the document that a text holds, as far as it can be read.

Anchors are numbered by the names known when they appear. A name that is used again takes a number
too, which a new name may then take over.
-/

namespace FunctionLoad.Yaml

/-- The events of a document, where every alias has the number of its anchor. -/
structure Document where
  events : List (Event Nat)
  /-- Where the node of every anchor stands, the latest one first. -/
  anchors : List (Nat × Nat)
  /-- Whether the text holds this document and nothing else. -/
  complete : Bool
  deriving Repr

namespace Document

/-- The names known so far, each with the number of its latest anchor. -/
abbrev Names := List (List Char × Nat)

/-- Names, with a number for one more anchor. -/
def Names.define (names : Names) (name : List Char) : Names :=
  (name, names.length) :: names.filter (·.1 ≠ name)

/-- The anchor that an event defines. -/
def anchor? {α : Type} : Event α → Option (List Char)
  | .scalar ps _ _ => ps.anchor
  | .sequenceStart ps => ps.anchor
  | .mappingStart ps => ps.anchor
  | _ => none

/-- An event with a number in the place of a name. -/
def number? (names : Names) : Event (List Char) → Option (Event Nat)
  | .alias name => (names.lookup name).map .alias
  | .scalar ps text style => some (.scalar ps text style)
  | .sequenceStart ps => some (.sequenceStart ps)
  | .sequenceEnd => some .sequenceEnd
  | .mappingStart ps => some (.mappingStart ps)
  | .mappingEnd => some .mappingEnd

/-- Events with numbers in the place of names, up to the first name that is not known, and where
the anchors stand. -/
def numbered (complete : Bool) :
    (position : Nat) → Names → List (Event (List Char)) → Document
  | _, _, [] => ⟨[], [], complete⟩
  | position, names, e :: r =>
    match number? names e with
    | none => ⟨[], [], false⟩
    | some e' =>
      match anchor? e with
      | none =>
        let d := numbered complete (position + 1) names r
        { d with events := e' :: d.events }
      | some name =>
        let d := numbered complete (position + 1) (names.define name) r
        { d with
          events := e' :: d.events, anchors := d.anchors ++ [(names.length, position)] }

/-- The events from the node on that an anchor names. -/
def target (d : Document) (anchor : Nat) : List (Event Nat) :=
  match d.anchors.lookup anchor with
  | some position => d.events.drop position
  | none => []

/-- **The document that a text holds**, as far as it can be read. -/
def ofText (s : String) : Document :=
  let ts := Tokens.ofText s
  let es := Events.ofTokens ts.list
  numbered (es.complete && ts.complete) 0 [] es.list

end Document

end FunctionLoad.Yaml
