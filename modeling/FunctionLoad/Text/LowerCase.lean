import FunctionLoad.Text.LowerCase.Table

/-!
# Lower case of texts

* `lowerChar`: the small letter or letters of one character.
* `lower`: a text in lower case. A capital sigma that ends a word becomes the final small sigma;
  every other character is mapped on its own.
-/

namespace FunctionLoad.Text

open LowerCase

/-- The run that holds a code point. -/
def LowerCase.run? (n : Nat) : Option Run :=
  runs.find? fun r => r.first ≤ n && n ≤ r.last && (n - r.first) % r.step == 0

/-- The small letter or letters of a character. The capital I with dot has two of them. -/
def lowerChar (c : Char) : List Char :=
  if c.toNat < 128 then [lowerAscii c]
  else if c.toNat = 0x130 then [Char.ofNat 0x69, Char.ofNat 0x307]
  else
    match run? c.toNat with
    | some r => [Char.ofNat ((c.toNat : Int) + r.distance).toNat]
    | none => [c]

/-- Whether the first character that is not case-ignorable is cased. -/
def meetsCased (cs : List Char) : Bool :=
  match cs.dropWhile caseIgnorable.holds with
  | c :: _ => cased.holds c
  | [] => false

/-- Lower case of what follows the characters `before`, the nearest first. -/
def lowerAfter (before : List Char) : List Char → List Char
  | [] => []
  | c :: r =>
    let small :=
      if c.toNat = 0x3A3 then
        if meetsCased before && !meetsCased r then [Char.ofNat 0x3C2] else [Char.ofNat 0x3C3]
      else lowerChar c
    small ++ lowerAfter (c :: before) r

/-- A text in lower case. -/
def lower (s : String) : String :=
  String.ofList (lowerAfter [] s.toList)

end FunctionLoad.Text
