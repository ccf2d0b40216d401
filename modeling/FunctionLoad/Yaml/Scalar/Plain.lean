import FunctionLoad.Yaml.Scalar.Gap

/-!
# Plain scalars

* `canStart`: whether a plain scalar may start with a character.
* `stopsAt`: where a plain scalar ends inside a line.
* **`Plain.read?`**: a plain scalar, up to where it ends; a tab in the margin of a later line is
  refused, and so is a colon in front of a flow indicator inside a flow collection.
-/

namespace FunctionLoad.Yaml.Plain

/-- The indicators of flow collections. -/
def isFlowIndicator (c : Char) : Bool :=
  c == ',' || c == '[' || c == ']' || c == '\x7b' || c == '\x7d'

/-- The characters that no plain scalar starts with, whatever follows. -/
def isReserved (c : Char) : Bool :=
  isFlowIndicator c || c == '#' || c == '&' || c == '*' || c == '!' || c == '|' || c == '>' ||
    c == '\'' || c == '"' || c == '%' || c == '@' || c == '\x60'

/-- Whether a plain scalar may start with a character, in front of `next`. -/
def canStart (flow : Bool) (c : Char) (next : List Char) : Bool :=
  if c == '-' then !(next.head?.any isGap)
  else if c == '?' || c == ':' then !flow && !endsWord next
  else !isReserved c && !isGap c && !isBreak c

/-- Whether a colon stands in front of an indicator that it must not touch. -/
def isMisplacedColon (flow : Bool) (c : Char) (next : List Char) : Bool :=
  flow && c == ':' && next.head?.any fun d => d == '?' || isFlowIndicator d

/-- Whether a plain scalar ends in front of a character of a word. -/
def stopsAt (flow : Bool) (c : Char) (next : List Char) : Bool :=
  (c == ':' && endsWord next) || (flow && isFlowIndicator c)

/-- Whether a plain scalar ends in front of a word after a gap. -/
def stopsAfterGap (flow : Bool) (margin column : Nat) (cs : List Char) : Bool :=
  (!flow && column < margin) || (column == 0 && atMarker cs) || cs.head? == some '#'

/-- The rest of a plain scalar after a gap, whether a line break stands behind it, and the cursor
behind that. -/
def readFrom (flow : Bool) (margin : Nat) :
    (line column : Nat) → Gap → List Char → Option (List Char × Bool × Cursor)
  | line, column, gap, [] => some ([], gap.isBroken, ⟨[], line, column⟩)
  | line, column, gap, c :: r =>
    if isGap c then
      if gap.isBroken && column < margin && c == '\t' then none
      else readFrom flow margin line (column + 1) (gap.space c) r
    else if isBreak c then readFrom flow margin (line + 1) 0 (gap.lineBreak c) r
    else if gap.isSome && stopsAfterGap flow margin column (c :: r) then
      some ([], gap.isBroken, ⟨c :: r, line, column⟩)
    else if isMisplacedColon flow c r then none
    else if stopsAt flow c r then some ([], gap.isBroken, ⟨c :: r, line, column⟩)
    else
      (readFrom flow margin line (column + 1) .none r).map fun p =>
        (gap.text ++ c :: p.1, p.2)

/-- **A plain scalar**, whether a line break stands behind it, and the cursor behind that. Later
lines start at the column `margin` or to the right of it, unless they are in a flow collection. -/
def read? (flow : Bool) (margin : Nat) (cursor : Cursor) : Option (List Char × Bool × Cursor) :=
  readFrom flow margin cursor.line cursor.column .none cursor.rest

end FunctionLoad.Yaml.Plain
