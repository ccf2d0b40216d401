/-!
# Types with named elements

* `Named`: a type of finitely many elements, in their order, with a name for each.
* `Named.ofName?`: the element with a name.
* `Named.Lawful`: names that tell the elements apart.
-/

namespace FunctionLoad

/-- A type of finitely many elements, in their order, with a name for each. -/
class Named (α : Type) where
  /-- All elements in order. -/
  all : List α
  /-- The name of an element. -/
  name : α → String

namespace Named

/-- The element with a name. -/
def ofName? {α : Type} [Named α] (s : String) : Option α :=
  (all : List α).find? (name · == s)

/-- The names of all elements. -/
def names (α : Type) [Named α] : List String :=
  (all : List α).map name

/-- Names that tell the elements apart. -/
class Lawful (α : Type) [Named α] : Prop where
  ofName?_name : ∀ a : α, ofName? (name a) = some a

end Named

end FunctionLoad
