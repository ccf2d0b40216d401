import FunctionLoad.Json.Basic
import FunctionLoad.Decimal.Shortest

/-!
# Printing of JSON

* `floatLayout`: doubles with the fewest digits, an exponent only for very small and large ones.
* `quotedChars`: a text between quotes, escaping what JSON demands and nothing else.
* `Value.compact`: a value without spaces; `Value.pretty`: one member or item a line.
-/

namespace FunctionLoad.Json

open FunctionLoad.Text FunctionLoad.Decimal

/-- Doubles have the fewest digits that read back. The point stands among them, up to four zeros
before or fifteen digits behind; beyond that an exponent is written, with its sign. Whole numbers
end in `.0`. -/
def floatLayout : Layout := ⟨fun point => -5 < point && point ≤ 16, true, true⟩

/-- The text of a number. JSON has no word for infinity or for what is not a number. -/
def Number.chars : Number → List Char
  | .whole n => digits n.toNat
  | .negative n => (decimalInt n.toInt).toList
  | .double x => if x.isFinite then (floatLayout.text x).toList else ['n', 'u', 'l', 'l']

/-- One character between quotes. -/
def escape (c : Char) : List Char :=
  if c = '"' then ['\\', '"']
  else if c = '\\' then ['\\', '\\']
  else if c.toNat = 8 then ['\\', 'b']
  else if c.toNat = 12 then ['\\', 'f']
  else if c = '\n' then ['\\', 'n']
  else if c = '\r' then ['\\', 'r']
  else if c = '\t' then ['\\', 't']
  else if c.toNat < 0x20 then ['\\', 'u'] ++ hexPadded 4 c.toNat
  else [c]

/-- A text between quotes. -/
def quotedChars (s : String) : List Char :=
  '"' :: s.toList.flatMap escape ++ ['"']

namespace Value

mutual

/-- A value without spaces. -/
def chars : Value → List Char
  | .null => ['n', 'u', 'l', 'l']
  | .bool true => ['t', 'r', 'u', 'e']
  | .bool false => ['f', 'a', 'l', 's', 'e']
  | .number n => n.chars
  | .text s => quotedChars s
  | .list items => '[' :: List.intercalate [','] (itemsChars items) ++ [']']
  | .object members =>
    '\x7b' :: List.intercalate [','] (membersChars members) ++ ['\x7d']

/-- Each item without spaces. -/
def itemsChars : List Value → List (List Char)
  | [] => []
  | v :: r => v.chars :: itemsChars r

/-- Each member without spaces. -/
def membersChars : List (String × Value) → List (List Char)
  | [] => []
  | (k, v) :: r => (quotedChars k ++ ':' :: v.chars) :: membersChars r

end

/-- A value without spaces. -/
def compact (v : Value) : String :=
  String.ofList v.chars

/-- A new line and two spaces for each level. -/
def newLine (level : Nat) : List Char :=
  '\n' :: List.replicate (2 * level) ' '

/-- Non-empty contents between brackets, one a line at the next level. -/
def block (level : Nat) (first last : Char) (contents : List (List Char)) : List Char :=
  if contents = [] then [first, last]
  else
    first :: newLine (level + 1) ++
      List.intercalate (',' :: newLine (level + 1)) contents ++ newLine level ++ [last]

mutual

/-- A value with one member or item a line, at a level of indentation. -/
def prettyChars (level : Nat) : Value → List Char
  | .list items => block level '[' ']' (prettyItems (level + 1) items)
  | .object members =>
    block level ('\x7b') ('\x7d') (prettyMembers (level + 1) members)
  | .null => ['n', 'u', 'l', 'l']
  | .bool true => ['t', 'r', 'u', 'e']
  | .bool false => ['f', 'a', 'l', 's', 'e']
  | .number n => n.chars
  | .text s => quotedChars s

/-- Each item at a level. -/
def prettyItems (level : Nat) : List Value → List (List Char)
  | [] => []
  | v :: r => v.prettyChars level :: prettyItems level r

/-- Each member at a level. -/
def prettyMembers (level : Nat) : List (String × Value) → List (List Char)
  | [] => []
  | (k, v) :: r => (quotedChars k ++ ':' :: ' ' :: v.prettyChars level) :: prettyMembers level r

end

/-- A value with one member or item a line. -/
def pretty (v : Value) : String :=
  String.ofList (v.prettyChars 0)

end Value

end FunctionLoad.Json
