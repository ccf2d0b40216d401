import FunctionLoad.Yaml.Document
import FunctionLoad.Proofs.Yaml.Tokens
import Mathlib.Data.List.Forall2

/-!
# The document of a tree that was written

* `Tree.events`: what a tree is read as, one event after the other.
* `Machine.Emits`: a run from one state to another, with the events on the way.
* **`Machine.node_tree`**, **`Machine.emits_members`**: the tokens of a tree make its events.
* **`Document.ofText_print`**: the document in a text that was written.
-/

namespace FunctionLoad.Yaml

open FunctionLoad.Decimal

/-! ## Trees as events -/

mutual

/-- **The events that a tree is read as.** -/
def Tree.events {α : Type} : Tree → List (Event α)
  | .text s => [.scalar {} s.toList (styleOf s)]
  | .number n => [.scalar {} (digits n) .plain]
  | .mapping members => .mappingStart {} :: (membersEvents members ++ [.mappingEnd])

/-- The events of members. -/
def membersEvents {α : Type} : List (String × Tree) → List (Event α)
  | [] => []
  | (key, t) :: r => .scalar {} key.toList .plain :: (t.events ++ membersEvents r)

end

namespace Machine

variable {handles : Handles}

/-! ## Runs -/

/-- **A run from one state to another**, with the events on the way. -/
def Emits (handles : Handles) (m : Machine) (es : List (Event (List Char))) (m' : Machine) : Prop :=
  ∀ fuel, m.run handles (fuel + es.length) =
    (es ++ (m'.run handles fuel).1, (m'.run handles fuel).2)

theorem Emits.refl (m : Machine) : Emits handles m [] m := fun _ => rfl

theorem Emits.trans {m1 m2 m3 : Machine} {es es' : List (Event (List Char))}
    (h : Emits handles m1 es m2) (h' : Emits handles m2 es' m3) :
    Emits handles m1 (es ++ es') m3 := by
  intro fuel
  rw [List.length_append, Nat.add_comm es.length, ← Nat.add_assoc, h, h', List.append_assoc]

/-- One event, and those behind it. -/
theorem Emits.cons {m m' last : Machine} {e : Event (List Char)} {es : List (Event (List Char))}
    (hp : m.parts ≠ []) (hs : m.step handles = some (e, m')) (h : Emits handles m' es last) :
    Emits handles m (e :: es) last := by
  intro fuel
  have hp' : m.parts.isEmpty = false := by simpa using hp
  rw [List.length_cons, ← Nat.add_assoc, run, hp', hs, if_neg (by simp)]
  dsimp only
  rw [h]
  rfl

/-! ## Trees -/

theorem node_scalar (loose : Bool) (text : List Char) (style : Style) (r : List Token)
    (parts : List Part) : node handles true loose ⟨.scalar text style :: r, parts⟩ =
      some (.scalar {} text style, ⟨r, parts⟩) := by
  cases loose <;> rfl

theorem node_mapping (loose : Bool) (r : List Token) (parts : List Part) :
    node handles true loose ⟨.blockMappingStart :: r, parts⟩ =
      some (.mappingStart {}, ⟨r, .blockKey :: parts⟩) := by
  cases loose <;> rfl

/-- The first token of a tree starts a node. -/
theorem exists_tokens_eq_cons (t : Tree) : ∃ token r, t.tokens = token :: r ∧
    isBlockPart token = false := by
  cases t with
  | text s => exact ⟨_, _, rfl, rfl⟩
  | number n => exact ⟨_, _, rfl, rfl⟩
  | mapping members => exact ⟨_, _, rfl, rfl⟩

theorem blockNode_tree (part : Part) (t : Tree) (r : List Token) (parts : List Part) :
    blockNode handles part ⟨t.tokens ++ r, parts⟩ =
      node handles true true ⟨t.tokens ++ r, part :: parts⟩ := by
  obtain ⟨token, tail, ht, hb⟩ := exists_tokens_eq_cons t
  simp [blockNode, ht, hb]

mutual

/-- **The tokens of a tree make its events.** -/
theorem node_tree (handles : Handles) (t : Tree) (loose : Bool) (r : List Token)
    (parts : List Part) : ∃ e m es, node handles true loose ⟨t.tokens ++ r, parts⟩ = some (e, m) ∧
      t.events = e :: es ∧ Emits handles m es ⟨r, parts⟩ :=
  match t with
  | .text s => ⟨_, _, _, node_scalar loose _ _ r parts, rfl, Emits.refl _⟩
  | .number n => ⟨_, _, _, node_scalar loose _ _ r parts, rfl, Emits.refl _⟩
  | .mapping members => by
    refine ⟨_, _, _, node_mapping loose _ parts, rfl, ?_⟩
    have h := emits_members handles members r parts
    simpa using h

/-- **The tokens of members make their events**, and those of the end of their mapping. -/
theorem emits_members (handles : Handles) (members : List (String × Tree)) (r : List Token)
    (parts : List Part) :
    Emits handles ⟨membersTokens members ++ .blockEnd :: r, .blockKey :: parts⟩
      (membersEvents members ++ [.mappingEnd]) ⟨r, parts⟩ :=
  match members with
  | [] => .cons (by simp) rfl (Emits.refl _)
  | (key, t) :: rest => by
    obtain ⟨e, m, es, hn, he, hm⟩ :=
      node_tree handles t true (membersTokens rest ++ .blockEnd :: r) (.blockKey :: parts)
    have hkey : step handles ⟨.key :: .scalar key.toList .plain :: .value ::
        (t.tokens ++ (membersTokens rest ++ .blockEnd :: r)), .blockKey :: parts⟩ =
        some (.scalar {} key.toList .plain, ⟨.value ::
          (t.tokens ++ (membersTokens rest ++ .blockEnd :: r)), .blockValue :: parts⟩) := rfl
    have hvalue : step handles ⟨.value :: (t.tokens ++ (membersTokens rest ++ .blockEnd :: r)),
        .blockValue :: parts⟩ = some (e, m) := (blockNode_tree _ _ _ _).trans hn
    have hrest := emits_members handles rest r parts
    have h := Emits.cons (by simp) hkey (.cons (by simp) hvalue (hm.trans hrest))
    simpa [membersTokens, membersEvents, he] using h

end

end Machine

mutual

theorem Tree.length_events (t : Tree) :
    (t.events : List (Event (List Char))).length ≤ t.tokens.length :=
  match t with
  | .text _ => Nat.le_refl _
  | .number _ => Nat.le_refl _
  | .mapping members => by
    have := length_membersEvents members
    simp [Tree.events, Tree.tokens]
    omega

theorem length_membersEvents (members : List (String × Tree)) :
    (membersEvents members : List (Event (List Char))).length ≤ (membersTokens members).length :=
  match members with
  | [] => Nat.le_refl _
  | (_, t) :: r => by
    have h1 := Tree.length_events t
    have h2 := length_membersEvents r
    simp [membersEvents, membersTokens]
    omega

end

/-- The tokens of a mapping make its events, and nothing follows them. -/
theorem Events.ofTokens_mapping (members : List (String × Tree)) :
    Events.ofTokens ((Tree.mapping members).tokens ++ [.streamEnd]) =
      ⟨(Tree.mapping members).events, true⟩ := by
  have hlen := length_membersEvents members
  -- there is more fuel than events, of which there are no more than tokens
  obtain ⟨n, hn⟩ : ∃ n, 4 * (membersTokens members ++ [Token.blockEnd, .streamEnd]).length + 4 =
      n + 1 + (membersEvents members ++ [(.mappingEnd : Event (List Char))]).length :=
    ⟨4 * (membersTokens members).length + 10 -
      (membersEvents members : List (Event (List Char))).length, by simp; omega⟩
  have hrun := Machine.emits_members defaultHandles members [.streamEnd] [] (n + 1)
  have hend : Machine.run defaultHandles (n + 1) ⟨[.streamEnd], []⟩ = ([], some [.streamEnd]) := rfl
  rw [hend, ← hn] at hrun
  have ht : (Tree.mapping members).tokens ++ [.streamEnd] =
      .blockMappingStart :: (membersTokens members ++ [.blockEnd, .streamEnd]) := by
    simp [Tree.tokens]
  unfold ofTokens
  simp only [ht, ofNode, Machine.node_mapping]
  rw [hrun]
  simp [atEnd, Tree.events]

/-! ## Documents -/

namespace Document

/-- An event that neither names a node nor defines a name. -/
def IsBare (e : Event (List Char)) (e' : Event Nat) : Prop :=
  ∀ names, number? names e = some e' ∧ anchor? e = none

theorem numbered_eq {es : List (Event (List Char))} {es' : List (Event Nat)}
    (h : List.Forall₂ IsBare es es') (complete : Bool) (position : Nat) (names : Names) :
    numbered complete position names es = ⟨es', [], complete⟩ := by
  induction h generalizing position with
  | nil => rfl
  | cons he _ ih => simp [numbered, he names, ih]

theorem isBare_scalar (text : List Char) (style : Style) :
    IsBare (.scalar {} text style) (.scalar {} text style) :=
  fun _ => ⟨rfl, rfl⟩

mutual

theorem forall₂_events (t : Tree) : List.Forall₂ IsBare t.events t.events :=
  match t with
  | .text _ => .cons (isBare_scalar _ _) .nil
  | .number _ => .cons (isBare_scalar _ _) .nil
  | .mapping members => .cons (fun _ => ⟨rfl, rfl⟩) (List.rel_append (forall₂_membersEvents members)
      (.cons (fun _ => ⟨rfl, rfl⟩) .nil))

theorem forall₂_membersEvents (members : List (String × Tree)) :
    List.Forall₂ IsBare (membersEvents members) (membersEvents members) :=
  match members with
  | [] => .nil
  | (_, t) :: r => .cons (isBare_scalar _ _) (List.rel_append (forall₂_events t)
      (forall₂_membersEvents r))

end

/-- **The document in a text that was written** is that of its tree, and nothing else. -/
theorem ofText_print {members : List (String × Tree)} (h : (Tree.mapping members).IsWritable) :
    Document.ofText (print members) = ⟨(Tree.mapping members).events, [], true⟩ := by
  rw [Document.ofText, Tokens.ofText_print h]
  simp only [Events.ofTokens_mapping]
  exact numbered_eq (forall₂_events _) true 0 []

end Document

end FunctionLoad.Yaml
