import FunctionLoad.Text.Quoted.Table

/-!
# Quoted text for readers of messages

* `Quoted.escape`: one character as it stands between quotes.
* `quoted`: a text between double quotes, with everything that cannot be read on a terminal written
  as an escape; `quotedPath` escapes single quotes too.
-/

namespace FunctionLoad.Text

open FunctionLoad.Decimal

namespace Quoted

/-- The hexadecimal digits of a number in front of `rest`. -/
def hexBefore (n : Nat) (rest : List Char) : List Char :=
  if n < 16 then hexDigit n :: rest else hexBefore (n / 16) (hexDigit (n % 16) :: rest)
termination_by n
decreasing_by omega

/-- An escape that names the code point. -/
def codePoint (c : Char) : List Char :=
  ['\\', 'u', '\x7b'] ++ hexBefore c.toNat ['\x7d']

/-- One character as it stands between quotes. -/
def escape (c : Char) : List Char :=
  if c = '"' then ['\\', '"']
  else if c = '\\' then ['\\', '\\']
  else if c = '\t' then ['\\', 't']
  else if c = '\r' then ['\\', 'r']
  else if c = '\n' then ['\\', 'n']
  else if c.toNat = 0 then ['\\', '0']
  else if 0x20 ≤ c.toNat ∧ c.toNat < 0x7F then [c]
  else if graphemeExtend.holds c || unprintable.holds c then codePoint c
  else [c]

end Quoted

/-- A text between double quotes, with escapes. -/
def quoted (s : String) : String :=
  String.ofList ('"' :: s.toList.flatMap Quoted.escape ++ ['"'])

/-- The path of a file between double quotes, with escapes for single quotes too. -/
def quotedPath (s : String) : String :=
  let escape (c : Char) : List Char := if c = '\'' then ['\\', '\''] else Quoted.escape c
  String.ofList ('"' :: s.toList.flatMap escape ++ ['"'])

end FunctionLoad.Text
