import FunctionLoad.Text.Ascii

/-!
# Lines and columns of a YAML text

* `isAllowed`: the characters that may stand in a YAML text.
* `lines`: a text with one character for every line break.
* `Cursor`: what is left of a text, with the line and column where it starts.
* `atMarker`: whether a document marker stands at the start of a line.
* **`lines_eq_self`**: a text whose only breaks are line feeds keeps them.
-/

namespace FunctionLoad.Yaml

/-! ## Characters -/

/-- The characters that may stand in a YAML text. -/
def isAllowed (c : Char) : Bool :=
  let n := c.toNat
  n == 9 || n == 10 || n == 13 || (0x20 ≤ n && n ≤ 0x7E) || n == 0x85 ||
    (0xA0 ≤ n && n ≤ 0xFFFD) || 0x10000 ≤ n

/-- A space or a tab. -/
def isGap (c : Char) : Bool :=
  c == ' ' || c == '\t'

/-- A line break, where every ordinary one is a line feed. -/
def isBreak (c : Char) : Bool :=
  c == '\n' || c == '\u2028' || c == '\u2029'

/-- A text with a line feed for every ordinary line break. -/
def lines : List Char → List Char
  | [] => []
  | '\r' :: '\n' :: r => '\n' :: lines r
  | c :: r => (if c == '\r' || c == '\u0085' then '\n' else c) :: lines r

/-- Whether a text has ended, or goes on with a space, a tab or a line break. -/
def endsWord : List Char → Bool
  | [] => true
  | c :: _ => isGap c || isBreak c

/-- Whether a text goes on with a marker between documents. -/
def atMarker : List Char → Bool
  | '-' :: '-' :: '-' :: r => endsWord r
  | '.' :: '.' :: '.' :: r => endsWord r
  | _ => false

/-- Characters of names: letters, digits, `_` and `-` of ASCII. -/
def isNameChar (c : Char) : Bool :=
  c.isAlphanum || c == '_' || c == '-'

theorem lines_eq_self (cs : List Char) (h : ∀ c ∈ cs, c ≠ '\r' ∧ c ≠ '\u0085') : lines cs = cs := by
  induction cs with
  | nil => rfl
  | cons c r ih =>
    have hc := h c (by simp)
    have hr := ih fun d hd => h d (by simp [hd])
    unfold lines
    split
    · simp_all
    · rename_i heq; simp at heq; exact absurd heq.1 hc.1
    · rename_i heq; simp at heq; simp [← heq.1, ← heq.2, hc, hr]

/-! ## Positions -/

/-- What is left of a text, with the line and column where it starts. -/
structure Cursor where
  rest : List Char
  line : Nat := 0
  column : Nat := 0
  deriving Repr, DecidableEq

namespace Cursor

/-- The cursor behind `n` characters of the same line. -/
def skip (n : Nat) (c : Cursor) : Cursor :=
  ⟨c.rest.drop n, c.line, c.column + n⟩

/-- The cursor behind all characters of the line that satisfy `p`. -/
def skipWhile (p : Char → Bool) (c : Cursor) : Cursor :=
  ⟨c.rest.dropWhile p, c.line, c.column + (c.rest.takeWhile p).length⟩

/-- The cursor behind the line break where it stands. -/
def nextLine (c : Cursor) : Cursor :=
  ⟨c.rest.drop 1, c.line + 1, 0⟩

/-- The cursor behind a comment, if it stands at one. -/
def skipComment (c : Cursor) : Cursor :=
  match c.rest with
  | '#' :: _ => c.skipWhile (!isBreak ·)
  | _ => c

/-- The cursor on the next line, if nothing but blanks and a comment is left of this one. -/
def endLine? (c : Cursor) : Option Cursor :=
  let c := (c.skipWhile isGap).skipComment
  match c.rest with
  | [] => some c
  | d :: _ => if isBreak d then some c.nextLine else none

end Cursor

end FunctionLoad.Yaml
