import FunctionLoad.Yaml.Scalar.Plain
import FunctionLoad.Yaml.Scalar.Quoted
import FunctionLoad.Yaml.Scalar.Block
import FunctionLoad.Yaml.Tag

/-!
# The tokens of a YAML text

Whether a word is a key shows only at the colon behind it. `Scan` therefore remembers, for the block
level and for every open flow collection, the last place where a key may have started, and the
colon puts the tokens that announce the key in front of it.

* `Scan`: the tokens so far and what decides about the next one.
* `Scan.fetch`: the next tokens, none if the text cannot go on like this.
* `Scan.settled`: how many tokens no later colon can get in front of.
* **`Tokens.ofText`**: the tokens of a text, or those that were settled before it failed.
-/

namespace FunctionLoad.Yaml

/-- A place where a key may have started. -/
structure Start where
  /-- How many tokens stand in front of it. -/
  position : Nat
  /-- Whether nothing but a key may stand there. -/
  required : Bool
  line : Nat
  column : Nat
  deriving Repr, DecidableEq

/-- The tokens so far and what decides about the next one. -/
structure Scan where
  cursor : Cursor
  /-- Newest first. -/
  tokens : List Token := []
  /-- Whether a key may start here. -/
  keyAllowed : Bool := true
  /-- The columns of the open blocks, innermost first. -/
  indents : List Nat := []
  /-- Where the last key may have started on the innermost level. -/
  start : Option Start := none
  /-- The same for the levels around it, innermost first. -/
  outer : List (Option Start) := []
  ended : Bool := false
  deriving Repr

namespace Scan

/-- Whether a flow collection is open. -/
def inFlow (s : Scan) : Bool :=
  !s.outer.isEmpty

/-- The least column of what belongs to the innermost block. -/
def margin (s : Scan) : Nat :=
  match s.indents with
  | [] => 0
  | column :: _ => column + 1

/-- One more token. -/
def emit (t : Token) (s : Scan) : Scan :=
  { s with tokens := t :: s.tokens }

/-- One more token, of as many characters as given. -/
def take (n : Nat) (t : Token) (s : Scan) : Scan :=
  { s with tokens := t :: s.tokens, cursor := s.cursor.skip n }

/-- One more token, put behind the first `position` ones. -/
def insert (position : Nat) (t : Token) (s : Scan) : Scan :=
  { s with tokens := s.tokens.insertIdx (s.tokens.length - position) t }

/-! ## Keys -/

/-- How far a key may be from its colon. -/
def maxKeyLength : Nat := 1024

/-- Whether a key that started there can no longer end here. -/
def isStale (cursor : Cursor) (k : Start) : Bool :=
  k.line < cursor.line || k.column + maxKeyLength < cursor.column

/-- A start as long as it can be one; it fails where a key was required. -/
def refresh (cursor : Cursor) : Option Start → Option (Option Start)
  | none => some none
  | some k =>
    if isStale cursor k then (if k.required then none else some none) else some (some k)

/-- Forgets the starts that can no longer be keys. -/
def dropStale (s : Scan) : Option Scan := do
  let start ← refresh s.cursor s.start
  let outer ← s.outer.mapM (refresh s.cursor)
  return { s with start := start, outer := outer }

/-- Forgets the start on the innermost level; it fails where a key was required. -/
def dropStart (s : Scan) : Option Scan :=
  if s.start.any Start.required then none else some { s with start := none }

/-- Remembers that a key may start here. -/
def markStart (s : Scan) : Option Scan :=
  if s.keyAllowed then do
    let required := !s.inFlow && s.indents.head? == some s.cursor.column
    let start : Start := ⟨s.tokens.length, required, s.cursor.line, s.cursor.column⟩
    return { (← s.dropStart) with start := some start }
  else some s

/-! ## Blocks -/

/-- Opens a block at a column, unless one is open there already. -/
def openBlock (column position : Nat) (t : Token) (s : Scan) : Scan :=
  if s.inFlow || column < s.margin then s
  else { s.insert position t with indents := column :: s.indents }

/-- Ends the blocks at columns from `limit` on. -/
def closeFrom (limit : Nat) : List Nat → List Token → List Nat × List Token
  | [], ts => ([], ts)
  | column :: r, ts =>
    if limit ≤ column then closeFrom limit r (.blockEnd :: ts) else (column :: r, ts)

/-- Ends the blocks at columns from `limit` on. Inside flow collections no block ends. -/
def closeBlocks (limit : Nat) (s : Scan) : Scan :=
  if s.inFlow then s
  else
    let p := closeFrom limit s.indents s.tokens
    { s with indents := p.1, tokens := p.2 }

/-! ## Blanks -/

/-- Skips blanks, comments and line breaks. A key may start on a new line of a block. -/
def skipFrom (flow : Bool) : Nat → Bool → Cursor → Bool × Cursor
  | 0, allowed, cursor => (allowed, cursor)
  | fuel + 1, allowed, cursor =>
    let cursor :=
      if cursor.column == 0 && cursor.rest.head? == some '\ufeff' then cursor.skip 1 else cursor
    let isSpace (c : Char) : Bool := c == ' ' || (c == '\t' && (flow || !allowed))
    let cursor := (cursor.skipWhile isSpace).skipComment
    if cursor.rest.head?.any isBreak then skipFrom flow fuel (allowed || !flow) cursor.nextLine
    else (allowed, cursor)

/-- Skips what stands in front of the next token. -/
def skipBlank (s : Scan) : Scan :=
  let p := skipFrom s.inFlow (s.cursor.rest.length + 1) s.keyAllowed s.cursor
  { s with keyAllowed := p.1, cursor := p.2 }

/-! ## Tokens -/

/-- The end of the text. -/
def finish (s : Scan) : Option Scan := do
  let s ← (s.closeBlocks 0).dropStart
  return { s.emit .streamEnd with keyAllowed := false, ended := true }

/-- A directive. -/
def directive (s : Scan) : Option Scan := do
  let s ← (s.closeBlocks 0).dropStart
  let (t, cursor) ← Directive.read? s.cursor
  return { s.emit t with keyAllowed := false, cursor := cursor }

/-- A marker between documents. -/
def marker (t : Token) (s : Scan) : Option Scan := do
  let s ← (s.closeBlocks 0).dropStart
  return { s.take 3 t with keyAllowed := false }

/-- The start of a flow collection. -/
def openFlow (t : Token) (s : Scan) : Option Scan := do
  let s ← s.markStart
  return { s.take 1 t with outer := s.start :: s.outer, start := none, keyAllowed := true }

/-- The end of a flow collection. -/
def closeFlow (t : Token) (s : Scan) : Option Scan := do
  let s ← s.dropStart
  let s :=
    match s.outer with
    | [] => s
    | start :: outer => { s with start := start, outer := outer }
  return { s.take 1 t with keyAllowed := false }

/-- A comma in a flow collection. -/
def flowEntry (s : Scan) : Option Scan := do
  return { (← s.dropStart).take 1 .flowEntry with keyAllowed := true }

/-- Opens a block where the next token stands; in a block this needs a place for a key. -/
def enter (t : Token) (s : Scan) : Option Scan :=
  if s.inFlow then some s
  else if s.keyAllowed then some (s.openBlock s.cursor.column s.tokens.length t)
  else none

/-- A dash in front of an item. -/
def blockEntry (s : Scan) : Option Scan := do
  let s ← (← s.enter .blockSequenceStart).dropStart
  return { s.take 1 .blockEntry with keyAllowed := true }

/-- A question mark in front of a key. -/
def explicitKey (s : Scan) : Option Scan := do
  let s ← (← s.enter .blockMappingStart).dropStart
  return { s.take 1 .key with keyAllowed := !s.inFlow }

/-- A colon, behind a key that started at a place remembered or was announced before. -/
def value (s : Scan) : Option Scan :=
  match s.start with
  | some k =>
    let s := (s.insert k.position .key).openBlock k.column k.position .blockMappingStart
    some { s.take 1 .value with start := none, keyAllowed := false }
  | none => do
    let s ← s.enter .blockMappingStart
    return { s.take 1 .value with keyAllowed := !s.inFlow }

/-- A token that may start a key, and the cursor behind it. -/
def content (read : Scan → Option (Token × Cursor)) (s : Scan) : Option Scan := do
  let s ← s.markStart
  let (t, cursor) ← read s
  return { s.emit t with cursor := cursor, keyAllowed := false }

/-- A plain scalar. A key may start behind it if a line ended there. -/
def plain (s : Scan) : Option Scan := do
  let s ← s.markStart
  let (text, broken, cursor) ← Plain.read? s.inFlow s.margin s.cursor
  return { s.emit (.scalar text .plain) with cursor := cursor, keyAllowed := broken }

/-- A block scalar. -/
def blockScalar (style : Style) (s : Scan) : Option Scan := do
  let s ← s.dropStart
  let (text, cursor) ← Block.read? (style == .folded) s.margin (s.cursor.skip 1)
  return { s.emit (.scalar text style) with cursor := cursor, keyAllowed := true }

/-- The tokens at the start of what is left, which starts with `c`. -/
def next (c : Char) (r : List Char) (s : Scan) : Option Scan :=
  if s.cursor.column == 0 && c == '%' then s.directive
  else if s.cursor.column == 0 && atMarker (c :: r) then
    s.marker (if c == '-' then .documentStart else .documentEnd)
  else if c == '[' then s.openFlow .flowSequenceStart
  else if c == '\x7b' then s.openFlow .flowMappingStart
  else if c == ']' then s.closeFlow .flowSequenceEnd
  else if c == '\x7d' then s.closeFlow .flowMappingEnd
  else if c == ',' then s.flowEntry
  else if c == '-' && endsWord r then s.blockEntry
  else if c == '?' && (s.inFlow || endsWord r) then s.explicitKey
  else if c == ':' && (s.inFlow || endsWord r) then s.value
  else if c == '*' then
    s.content fun s => (name? (s.cursor.skip 1)).map fun p => (.alias p.1, p.2)
  else if c == '&' then
    s.content fun s => (name? (s.cursor.skip 1)).map fun p => (.anchor p.1, p.2)
  else if c == '!' then s.content fun s => Tag.read? s.inFlow s.cursor
  else if c == '|' && !s.inFlow then s.blockScalar .literal
  else if c == '>' && !s.inFlow then s.blockScalar .folded
  else if c == '\'' then
    s.content fun s =>
      (Quoted.single? (s.cursor.skip 1)).map fun p => (.scalar p.1 .singleQuoted, p.2)
  else if c == '"' then
    s.content fun s =>
      (Quoted.double? (s.cursor.skip 1)).map fun p => (.scalar p.1 .doubleQuoted, p.2)
  else if Plain.canStart s.inFlow c r then s.plain
  else none

/-- **The next tokens.** -/
def fetch (s : Scan) : Option Scan := do
  let s ← s.skipBlank.dropStale
  let s := s.closeBlocks (s.cursor.column + 1)
  let s ←
    match s.cursor.rest with
    | [] => s.finish
    | c :: r => s.next c r
  s.dropStale

/-- **How many tokens no later colon can get in front of.** -/
def settled (s : Scan) : Nat :=
  (s.start :: s.outer).foldl
    (fun n k => match k with
      | some k => min n k.position
      | none => n)
    s.tokens.length

end Scan

/-- The tokens of a text, and whether that is all of them. -/
structure Tokens where
  list : List Token
  complete : Bool
  deriving Repr

namespace Tokens

/-- The tokens from a state on. -/
def ofScan (fuel : Nat) (s : Scan) : Tokens :=
  match fuel with
  | 0 => ⟨s.tokens.reverse.take s.settled, false⟩
  | fuel + 1 =>
    if s.ended then ⟨s.tokens.reverse, true⟩
    else
      match s.fetch with
      | some s => Tokens.ofScan fuel s
      | none => ⟨s.tokens.reverse.take s.settled, false⟩

/-- **The tokens of a text**, or those that were settled before it failed. A text with a character
that may not stand in it has none. -/
def ofText (s : String) : Tokens :=
  if s.toList.all isAllowed then
    let cs := lines s.toList
    Tokens.ofScan (cs.length + 3) { cursor := { rest := cs } }
  else ⟨[], false⟩

end Tokens

end FunctionLoad.Yaml
