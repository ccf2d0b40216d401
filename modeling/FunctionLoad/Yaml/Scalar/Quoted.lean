import FunctionLoad.Yaml.Scalar.Gap

/-!
# Quoted scalars

* `Quoted.single?`: a scalar between single quotes, where two of them are one quote.
* `Quoted.double?`: a scalar between double quotes, with escapes.
* `Quoted.escaped?`, `Quoted.codePoint?`: the characters that escapes stand for.
-/

namespace FunctionLoad.Yaml.Quoted

open FunctionLoad.Text

/-- The rest of a scalar between single quotes after a gap, and the cursor behind it. -/
def singleFrom : (line column : Nat) → Gap → List Char → Option (List Char × Cursor)
  | _, _, _, [] => none
  | line, column, gap, '\'' :: '\'' :: r =>
    (singleFrom line (column + 2) .none r).map fun p => (gap.text ++ '\'' :: p.1, p.2)
  | line, column, gap, c :: r =>
    if isGap c then singleFrom line (column + 1) (gap.space c) r
    else if isBreak c then singleFrom (line + 1) 0 (gap.lineBreak c) r
    else if column == 0 && atMarker (c :: r) then none
    else if c == '\'' then some (gap.text, ⟨r, line, column + 1⟩)
    else (singleFrom line (column + 1) .none r).map fun p => (gap.text ++ c :: p.1, p.2)

/-- **A scalar after its opening single quote**, and the cursor behind the closing one. -/
def single? (cursor : Cursor) : Option (List Char × Cursor) :=
  singleFrom cursor.line cursor.column .none cursor.rest

/-- The character that a letter after a backslash stands for. -/
def escaped? (c : Char) : Option Char :=
  if c == '0' then some (Char.ofNat 0)
  else if c == 'a' then some (Char.ofNat 7)
  else if c == 'b' then some (Char.ofNat 8)
  else if c == 't' || c == '\t' then some '\t'
  else if c == 'n' then some '\n'
  else if c == 'v' then some (Char.ofNat 11)
  else if c == 'f' then some (Char.ofNat 12)
  else if c == 'r' then some '\r'
  else if c == 'e' then some (Char.ofNat 27)
  else if c == ' ' || c == '"' || c == '/' || c == '\\' then some c
  else if c == 'N' then some '\u0085'
  else if c == '_' then some '\u00a0'
  else if c == 'L' then some '\u2028'
  else if c == 'P' then some '\u2029'
  else none

/-- The character with the code point that hexadecimal digits denote. -/
def codePoint? (ds : List Char) : Option Char := do
  let n ← ds.foldlM (fun n d => (hexValue? d).map (n * 16 + ·)) 0
  if n < 0xD800 ∨ (0xE000 ≤ n ∧ n < 0x110000) then some (Char.ofNat n) else none

/-- The rest of a scalar between double quotes after a gap, and the cursor behind it. -/
def doubleFrom : (line column : Nat) → Gap → List Char → Option (List Char × Cursor)
  | _, _, _, [] => none
  | line, column, gap, '\\' :: 'x' :: a :: b :: r =>
    (codePoint? [a, b]).bind fun c =>
      (doubleFrom line (column + 4) .none r).map fun p => (gap.text ++ c :: p.1, p.2)
  | line, column, gap, '\\' :: 'u' :: a :: b :: c :: d :: r =>
    (codePoint? [a, b, c, d]).bind fun c =>
      (doubleFrom line (column + 6) .none r).map fun p => (gap.text ++ c :: p.1, p.2)
  | line, column, gap, '\\' :: 'U' :: a :: b :: c :: d :: e :: f :: g :: h :: r =>
    (codePoint? [a, b, c, d, e, f, g, h]).bind fun c =>
      (doubleFrom line (column + 10) .none r).map fun p => (gap.text ++ c :: p.1, p.2)
  | line, column, gap, '\\' :: c :: r =>
    if isBreak c then
      (doubleFrom (line + 1) 0 (.broken none []) r).map fun p => (gap.text ++ p.1, p.2)
    else
      (escaped? c).bind fun c =>
        (doubleFrom line (column + 2) .none r).map fun p => (gap.text ++ c :: p.1, p.2)
  | line, column, gap, c :: r =>
    if isGap c then doubleFrom line (column + 1) (gap.space c) r
    else if isBreak c then doubleFrom (line + 1) 0 (gap.lineBreak c) r
    else if column == 0 && atMarker (c :: r) then none
    else if c == '"' then some (gap.text, ⟨r, line, column + 1⟩)
    else if c == '\\' then none
    else (doubleFrom line (column + 1) .none r).map fun p => (gap.text ++ c :: p.1, p.2)

/-- **A scalar after its opening double quote**, and the cursor behind the closing one. -/
def double? (cursor : Cursor) : Option (List Char × Cursor) :=
  doubleFrom cursor.line cursor.column .none cursor.rest

end FunctionLoad.Yaml.Quoted
