import FunctionLoad.Yaml.Scalar.Resolution
import FunctionLoad.Yaml.Token
import FunctionLoad.Yaml.Cursor

/-!
# Writing of YAML

* `Tree`: a text, a natural number, or a mapping with plain words for keys.
* `Shape`, `shape`: what a text holds that rules out ways to write it.
* `styleOf`: the way a text is written. Plain is the first choice, unless it would not be read back
  as text; a text with line feeds is literal; double quotes can hold everything.
* **`Tree.print`**: a tree as block mappings, two spaces deeper at every level.
-/

namespace FunctionLoad.Yaml

open FunctionLoad.Text FunctionLoad.Decimal

/-- What is written: a text, a natural number, or a mapping with plain words for keys. -/
inductive Tree where
  | text (s : String)
  | number (n : Nat)
  | mapping (members : List (String × Tree))
  deriving Repr

/-! ## Choice of a style -/

/-- The characters that are written as they are; the others are escaped. -/
def isPrintable (c : Char) : Bool :=
  let n := c.toNat
  n == 10 || (0x20 ≤ n && n ≤ 0x7E) || (0xA0 ≤ n && n ≤ 0xFFFD && n != 0xFEFF) || 0x10000 ≤ n

/-- The breaks of the printer: those of the reader, and the ordinary ones it does not write. -/
def isAnyBreak (c : Char) : Bool :=
  isBreak c || c == '\r' || c == '\u0085'

/-- Whether a text ends a word in the eyes of the printer. -/
def endsAnyWord : List Char → Bool
  | [] => true
  | c :: _ => isGap c || isAnyBreak c

/-- What a text holds that rules out ways to write it. -/
structure Shape where
  /-- An indicator that a plain scalar cannot hold. -/
  indicator : Bool := false
  lineBreak : Bool := false
  special : Bool := false
  breakSpace : Bool := false
  spaceBreak : Bool := false
  deriving Repr, DecidableEq

/-- Whether a first character, in front of `next`, rules out a plain scalar. -/
def startsIndicator (c : Char) (next : List Char) : Bool :=
  c == '#' || c == ',' || c == '[' || c == ']' || c == '\x7b' || c == '\x7d' || c == '&' ||
    c == '*' || c == '!' || c == '|' || c == '>' || c == '\'' || c == '"' || c == '%' || c == '@' ||
    c == '\x60' || ((c == '?' || c == ':' || c == '-') && endsAnyWord next)

/-- Whether a later character, between `previous` and `next`, rules out a plain scalar. -/
def isIndicator (previous c : Char) (next : List Char) : Bool :=
  (c == ':' && endsAnyWord next) || (c == '#' && (isGap previous || isAnyBreak previous))

/-- The shape of a text behind its first character, the one in front being `previous`. -/
def shapeFrom : (previous : Char) → List Char → Shape
  | _, [] => {}
  | previous, c :: r =>
    let s := shapeFrom c r
    { indicator := s.indicator || isIndicator previous c r
      lineBreak := s.lineBreak || isAnyBreak c
      special := s.special || !isPrintable c
      breakSpace := s.breakSpace || (isAnyBreak previous && c == ' ')
      spaceBreak := s.spaceBreak || (previous == ' ' && isAnyBreak c) }

/-- The shape of a text. -/
def shape : List Char → Shape
  | [] => {}
  | c :: r =>
    let s := shapeFrom c r
    let dashes := (c :: r).take 3 == ['-', '-', '-'] || (c :: r).take 3 == ['.', '.', '.']
    { s with
      indicator := s.indicator || dashes || startsIndicator c r
      lineBreak := s.lineBreak || isAnyBreak c
      special := s.special || !isPrintable c }

/-- Whether a text starts or ends with a space or a break. -/
def hasOpenEnd (cs : List Char) : Bool :=
  let isOpen (c : Char) : Bool := c == ' ' || isAnyBreak c
  cs.head?.any isOpen || cs.getLast?.any isOpen

/-- Whether a text may be written plain. -/
def allowsPlain (cs : List Char) : Bool :=
  let s := shape cs
  !(s.indicator || s.lineBreak || s.special || s.breakSpace || s.spaceBreak || hasOpenEnd cs)

/-- Whether a text may be written between single quotes. -/
def allowsSingle (cs : List Char) : Bool :=
  let s := shape cs
  !(s.special || s.breakSpace || s.spaceBreak)

/-- Whether a text may be written as a literal. -/
def allowsLiteral (cs : List Char) : Bool :=
  let s := shape cs
  !(s.special || s.spaceBreak || cs.getLast? == some ' ')

/-- The way a text is written. -/
def styleOf (s : String) : Style :=
  let cs := s.toList
  if '\n' ∈ cs then (if allowsLiteral cs then .literal else .doubleQuoted)
  else if resolve s = .text ∧ !isZeroPadded cs ∧ allowsPlain cs then .plain
  else if allowsSingle cs then .singleQuoted
  else .doubleQuoted

/-! ## Scalars -/

/-- Spaces in front of a line. -/
def indentation (n : Nat) : List Char :=
  List.replicate n ' '

/-- A text between single quotes, whose later lines are indented. -/
def singleChars (indent : Nat) : (afterBreak : Bool) → List Char → List Char
  | afterBreak, [] => if afterBreak then indentation indent else []
  | afterBreak, c :: r =>
    if isAnyBreak c then c :: singleChars indent true r
    else
      (if afterBreak then indentation indent else []) ++
        (if c = '\'' then ['\'', '\''] else [c]) ++ singleChars indent false r

/-- The last `width` hexadecimal digits of a number, in capitals. -/
def capitalHex : (width : Nat) → Nat → List Char
  | 0, _ => []
  | width + 1, n => capitalHex width (n / 16) ++ [hexDigitUpper (n % 16)]

/-- The letter that escapes a character, if it has one. -/
def escapeLetter? (c : Char) : Option Char :=
  let n := c.toNat
  if n == 0 then some '0'
  else if n == 7 then some 'a'
  else if n == 8 then some 'b'
  else if n == 9 then some 't'
  else if n == 10 then some 'n'
  else if n == 11 then some 'v'
  else if n == 12 then some 'f'
  else if n == 13 then some 'r'
  else if n == 27 then some 'e'
  else if c == '"' || c == '\\' then some c
  else if n == 0x85 then some 'N'
  else if n == 0x2028 then some 'L'
  else if n == 0x2029 then some 'P'
  else none

/-- A character as an escape. -/
def escape (c : Char) : List Char :=
  match escapeLetter? c with
  | some d => ['\\', d]
  | none =>
    if c.toNat ≤ 0xFF then '\\' :: 'x' :: capitalHex 2 c.toNat
    else if c.toNat ≤ 0xFFFF then '\\' :: 'u' :: capitalHex 4 c.toNat
    else '\\' :: 'U' :: capitalHex 8 c.toNat

/-- A character between double quotes. -/
def doubleChar (c : Char) : List Char :=
  if !isPrintable c || isAnyBreak c || c == '"' || c == '\\' then escape c else [c]

/-- What stands behind the bar of a literal: the indentation, where the text does not show it, and
what becomes of the breaks at its end. -/
def literalHeader (cs : List Char) : List Char :=
  let depth := if cs.head?.any fun c => c == ' ' || isAnyBreak c then ['2'] else []
  let chomp :=
    match cs.reverse with
    | [] => ['-']
    | [c] => if isAnyBreak c then ['+'] else ['-']
    | c :: d :: _ => if !isAnyBreak c then ['-'] else if isAnyBreak d then ['+'] else []
  depth ++ chomp

/-- The lines of a literal. -/
def literalChars (indent : Nat) : (afterBreak : Bool) → List Char → List Char
  | _, [] => []
  | afterBreak, c :: r =>
    if isAnyBreak c then c :: literalChars indent true r
    else (if afterBreak then indentation indent else []) ++ c :: literalChars indent false r

/-- A text as a scalar whose later lines are indented, up to the end of its last line. -/
def scalarChars (indent : Nat) (s : String) : List Char :=
  let cs := s.toList
  match styleOf s with
  | .plain => cs
  | .singleQuoted => '\'' :: singleChars indent false cs ++ ['\'']
  | .doubleQuoted => '"' :: cs.flatMap doubleChar ++ ['"']
  | _ => '|' :: literalHeader cs ++ '\n' :: literalChars indent true cs

/-- Ends a line, unless it has ended. -/
def endLine (cs : List Char) : List Char :=
  if cs.getLast?.any isBreak then cs else cs ++ ['\n']

/-! ## Mappings -/

mutual

/-- What stands behind the colon of a member at a depth, with the end of the line. -/
def Tree.chars (depth : Nat) : Tree → List Char
  | .text s => endLine (' ' :: scalarChars (depth + 2) s)
  | .number n => ' ' :: digits n ++ ['\n']
  | .mapping members => '\n' :: membersChars (depth + 2) members

/-- The members of a mapping at a depth. -/
def membersChars (depth : Nat) : List (String × Tree) → List Char
  | [] => []
  | (key, t) :: r =>
    indentation depth ++ key.toList ++ ':' :: t.chars depth ++ membersChars depth r

end

/-- **A mapping as text.** -/
def print (members : List (String × Tree)) : String :=
  String.ofList (membersChars 0 members)

end FunctionLoad.Yaml
