import FunctionLoad.Yaml.Cursor
import FunctionLoad.Decimal.Digits

/-!
# Block scalars

* `Chomp`: what becomes of the line breaks at the end.
* `Block.header?`: chomping and indentation as they stand behind `|` or `>`.
* `Block.breaks?`: the empty lines in front of a line of text, and how far spaces reach on them.
* **`Block.read?`**: a literal or folded scalar after its indicator.
-/

namespace FunctionLoad.Yaml

open FunctionLoad.Text FunctionLoad.Decimal

/-- What becomes of the line breaks at the end of a block scalar: none stays, the first, or all. -/
inductive Chomp where
  | strip
  | clip
  | keep
  deriving Repr, DecidableEq

namespace Block

/-- The chomping that an indicator asks for. -/
def chomp? (c : Char) : Option Chomp :=
  if c == '+' then some .keep else if c == '-' then some .strip else none

/-- How much deeper the text is, as a digit at the start says; zero is refused. -/
def depth? : List Char → Option (Option Nat × List Char)
  | [] => some (none, [])
  | c :: r =>
    if isDigit c then (if c == '0' then none else some (some (c.toNat - 48), r))
    else some (none, c :: r)

/-- Chomping and indentation, in either order, and what follows them. -/
def header? (cs : List Char) : Option (Chomp × Option Nat × List Char) :=
  match cs with
  | [] => some (.clip, none, [])
  | c :: r =>
    match chomp? c with
    | some chomp => (depth? r).map fun p => (chomp, p)
    | none =>
      (depth? (c :: r)).map fun p =>
        match p with
        | (some n, d :: r') =>
          match chomp? d with
          | some chomp => (chomp, some n, r')
          | none => (.clip, some n, d :: r')
        | _ => (.clip, p)

/-- The line breaks in front of the next text, the widest column that spaces reach on their lines,
and the cursor behind. Without `indent` all spaces belong to the margin; a tab there is refused. -/
def breaksFrom (indent : Option Nat) :
    (line column widest : Nat) → List Char → Option (List Char × Nat × Cursor)
  | line, column, widest, [] => some ([], max widest column, ⟨[], line, column⟩)
  | line, column, widest, c :: r =>
    let margin := indent.all (column < ·)
    if c == ' ' && margin then breaksFrom indent line (column + 1) widest r
    else if c == '\t' && margin then none
    else if isBreak c then
      (breaksFrom indent (line + 1) 0 (max widest column) r).map fun p => (c :: p.1, p.2)
    else some ([], max widest column, ⟨c :: r, line, column⟩)

/-- The line breaks where a cursor stands. -/
def breaks? (indent : Option Nat) (cursor : Cursor) : Option (List Char × Nat × Cursor) :=
  breaksFrom indent cursor.line cursor.column 0 cursor.rest

/-- Whether a text goes on with a space or a tab. -/
def startsBlank (cs : List Char) : Bool :=
  cs.head?.any isGap

/-- The break after a line in front of the next one. In a folded scalar a line feed between lines
that do not start with blanks becomes a space, or nothing if empty lines follow it. -/
def joint (folded : Bool) (first more : List Char) (blankBefore blankAfter : Bool) : List Char :=
  if folded && first == ['\n'] && !blankBefore && !blankAfter then
    if more.isEmpty then [' '] else more
  else first ++ more

/-- The breaks that stay at the end. -/
def tail (chomp : Chomp) (first more : List Char) : List Char :=
  match chomp with
  | .strip => []
  | .clip => first
  | .keep => first ++ more

/-- The lines of a block scalar, after the break of the line before and more breaks. -/
def linesFrom (folded : Bool) (chomp : Chomp) (indent : Nat) :
    Nat → (first more : List Char) → (blankBefore : Bool) → Cursor → Option (List Char × Cursor)
  | 0, _, _, _, _ => none
  | fuel + 1, first, more, blankBefore, cursor =>
    if cursor.column == indent && !cursor.rest.isEmpty then do
      let blank := startsBlank cursor.rest
      let line := cursor.rest.takeWhile (!isBreak ·)
      let after := cursor.skipWhile (!isBreak ·)
      let next := if after.rest.isEmpty then after else after.nextLine
      let (breaks, _, start) ← breaks? (some indent) next
      let (text, last) ← linesFrom folded chomp indent fuel (after.rest.take 1) breaks blank start
      return (joint folded first more blankBefore blank ++ line ++ text, last)
    else some (tail chomp first more, cursor)

/-- **A block scalar after its indicator**, and the cursor behind it. Its lines stand `margin` deep
at least, and deeper than the block around it. -/
def read? (folded : Bool) (margin : Nat) (cursor : Cursor) : Option (List Char × Cursor) := do
  let (chomp, depth, rest) ← header? cursor.rest
  let start ← Cursor.endLine? { cursor with rest := rest }
  let known := depth.map (· + (margin - 1))
  let (breaks, widest, start) ← breaks? known start
  let indent := known.getD (max (max widest margin) 1)
  linesFrom folded chomp indent (start.rest.length + 1) [] breaks false start

end Block

end FunctionLoad.Yaml
