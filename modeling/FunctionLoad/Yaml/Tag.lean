import FunctionLoad.Yaml.Cursor
import FunctionLoad.Yaml.Token

/-!
# Names, tags and directives

* `name?`: the name of an anchor or alias.
* `Tag.read?`: a tag, as the handle that abbreviates its start and the bytes after it.
* `Directive.read?`: the version of a document, or a handle and the start of tags for it.

A tag is bytes, because it may hold escapes that make no text.
-/

namespace FunctionLoad.Yaml

open FunctionLoad.Text

/-- The characters that may follow a name at once. -/
def mayFollowName (c : Char) : Bool :=
  c == '?' || c == ':' || c == ',' || c == ']' || c == '\x7d' || c == '%' || c == '@' || c == '\x60'

/-- The name of an anchor or alias after its indicator, and the cursor behind it. -/
def name? (cursor : Cursor) : Option (List Char × Cursor) :=
  let name := cursor.rest.takeWhile isNameChar
  let after := cursor.skipWhile isNameChar
  if name ≠ [] ∧ (endsWord after.rest ∨ after.rest.head?.any mayFollowName) then some (name, after)
  else none

namespace Tag

/-- The characters of tags. A tag in angle brackets may hold commas and brackets too. -/
def isUriChar (bracketed : Bool) (c : Char) : Bool :=
  isNameChar c || c == ';' || c == '/' || c == '?' || c == ':' || c == '@' || c == '&' ||
    c == '=' || c == '+' || c == '$' || c == '.' || c == '!' || c == '~' || c == '*' ||
    c == '\'' || c == '(' || c == ')' ||
    (bracketed && (c == ',' || c == '[' || c == ']'))

/-- How many bytes follow the first byte of a character. -/
def following? (b : Nat) : Option Nat :=
  if b < 0x80 then some 0
  else if b < 0xC0 then none
  else if b < 0xE0 then some 1
  else if b < 0xF0 then some 2
  else if b < 0xF8 then some 3
  else none

/-- Bytes of a tag, where `due` more bytes of a character are due, and what follows them. -/
def bytesFrom (bracketed : Bool) : (due : Nat) → List Char → Option (List UInt8 × List Char)
  | due, '%' :: a :: b :: r => do
    let byte := (← hexValue? a) * 16 + (← hexValue? b)
    let due ←
      if due = 0 then following? byte
      else if byte / 64 = 2 then some (due - 1)
      else none
    let (bytes, r) ← bytesFrom bracketed due r
    return (byte.toUInt8 :: bytes, r)
  | due, c :: r =>
    if due ≠ 0 ∨ c = '%' then none
    else if isUriChar bracketed c then
      (bytesFrom bracketed 0 r).map fun p => (c.toNat.toUInt8 :: p.1, p.2)
    else some ([], c :: r)
  | due, [] => if due = 0 then some ([], []) else none

/-- The bytes of a tag, and the cursor behind them. A zero byte ends what counts of them. -/
def bytes? (bracketed : Bool) (cursor : Cursor) : Option (List UInt8 × Cursor) :=
  (bytesFrom bracketed 0 cursor.rest).map fun p =>
    (p.1.takeWhile (· ≠ 0), cursor.skip (cursor.rest.length - p.2.length))

/-- A handle: an exclamation mark, name characters, and perhaps another exclamation mark. -/
def handle? (cursor : Cursor) : Option (List Char × Cursor) :=
  match cursor.rest with
  | '!' :: r =>
    let name := r.takeWhile isNameChar
    let after := (cursor.skip 1).skipWhile isNameChar
    match after.rest with
    | '!' :: _ => some ('!' :: name ++ ['!'], after.skip 1)
    | _ => some ('!' :: name, after)
  | _ => none

/-- Whether a handle has exclamation marks at both ends. -/
def isClosed (handle : List Char) : Bool :=
  1 < handle.length && handle.getLast? == some '!'

/-- ASCII characters as bytes. -/
def asciiBytes (cs : List Char) : List UInt8 :=
  cs.map fun c => c.toNat.toUInt8

/-- A tag in angle brackets, or after a handle. The sole exclamation mark is a tag without
handle. -/
def body? (cursor : Cursor) : Option (List Char × List UInt8 × Cursor) :=
  match cursor.rest with
  | '!' :: '<' :: _ => do
    let start := cursor.skip 2
    let (bytes, after) ← bytes? true start
    if after.column = start.column then none
    else
      match after.rest with
      | '>' :: _ => return ([], bytes, after.skip 1)
      | _ => none
  | _ => do
    let (handle, start) ← handle? cursor
    let (bytes, after) ← bytes? false start
    if isClosed handle then
      if after.column = start.column then none else return (handle, bytes, after)
    else
      let suffix := asciiBytes (handle.drop 1) ++ bytes
      if suffix = [] then return ([], asciiBytes ['!'], after) else return (['!'], suffix, after)

/-- **A tag**, and the cursor behind it. A blank follows it, or a comma in a flow collection. -/
def read? (flow : Bool) (cursor : Cursor) : Option (Token × Cursor) := do
  let (handle, suffix, after) ← body? cursor
  if endsWord after.rest ∨ (flow ∧ after.rest.head? = some ',') then
    return (.tag handle suffix, after)
  else none

end Tag

namespace Directive

/-- A number of at most nine digits, and the cursor behind it. -/
def number? (cursor : Cursor) : Option (Nat × Cursor) :=
  let ds := cursor.rest.takeWhile Char.isDigit
  if ds = [] ∨ 9 < ds.length then none
  else some (ds.foldl (fun n d => n * 10 + (d.toNat - 48)) 0, cursor.skipWhile Char.isDigit)

/-- Two numbers with a point between. -/
def version? (cursor : Cursor) : Option (Token × Cursor) := do
  let (major, after) ← number? cursor
  match after.rest with
  | '.' :: _ =>
    let (minor, after) ← number? (after.skip 1)
    return (.version major minor, after)
  | _ => none

/-- A handle and the start of tags for it. -/
def tagHandle? (cursor : Cursor) : Option (Token × Cursor) := do
  let (handle, after) ← Tag.handle? cursor
  if (handle ≠ ['!'] ∧ !Tag.isClosed handle) ∨ !after.rest.head?.any isGap then none
  else
    let start := after.skipWhile isGap
    let (bytes, after) ← Tag.bytes? true start
    if after.column = start.column ∨ !endsWord after.rest then none
    else return (.tagHandle handle bytes, after)

/-- **A directive** where its percent sign stands, and the cursor on the line after it. -/
def read? (cursor : Cursor) : Option (Token × Cursor) := do
  let start := cursor.skip 1
  let name := String.ofList (start.rest.takeWhile isNameChar)
  let after := start.skipWhile isNameChar
  if !endsWord after.rest then none
  else
    let after := after.skipWhile isGap
    let (token, after) ←
      if name = "YAML" then version? after
      else if name = "TAG" then tagHandle? after
      else none
    return (token, ← after.endLine?)

end Directive

end FunctionLoad.Yaml
