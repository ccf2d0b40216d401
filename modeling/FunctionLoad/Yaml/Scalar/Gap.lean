import FunctionLoad.Yaml.Cursor

/-!
# Gaps inside scalars

Words of a plain or quoted scalar are separated by gaps: spaces on a line, or line breaks with the
spaces around them.

* `Gap`: the gap read so far.
* **`Gap.text`**: what a gap means. Spaces on a line stay; a single line feed becomes a space; of
  several breaks the first is dropped if it is a line feed.
-/

namespace FunctionLoad.Yaml

/-- The gap read so far, newest character first. -/
inductive Gap where
  | spaces (newest : List Char)
  /-- The first break, none if it was escaped, and those after it. -/
  | broken (first : Option Char) (newest : List Char)
  deriving Repr, DecidableEq

namespace Gap

/-- No gap. -/
def none : Gap :=
  .spaces []

/-- Whether there is any gap. -/
def isSome : Gap → Bool
  | .spaces cs => !cs.isEmpty
  | .broken _ _ => true

/-- Whether the gap has a line break. -/
def isBroken : Gap → Bool
  | .spaces _ => false
  | .broken _ _ => true

/-- A gap and one more space or tab. Next to a break they do not count. -/
def space (c : Char) : Gap → Gap
  | .spaces cs => .spaces (c :: cs)
  | .broken first cs => .broken first cs

/-- A gap and one more line break. Spaces in front of the first one do not count. -/
def lineBreak (c : Char) : Gap → Gap
  | .spaces _ => .broken (some c) []
  | .broken first cs => .broken first (c :: cs)

/-- **What a gap means.** -/
def text : Gap → List Char
  | .spaces cs => cs.reverse
  | .broken (some first) cs =>
    if first = '\n' then (if cs.isEmpty then [' '] else cs.reverse) else first :: cs.reverse
  | .broken Option.none cs => cs.reverse

end Gap

end FunctionLoad.Yaml
