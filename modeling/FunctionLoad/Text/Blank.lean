/-!
# Blank characters and trimming

* `isBlank`: the Unicode property White_Space.
* `trim`, `trimStart`, `trimEnd`: a text without blanks at both ends, at its start, at its end.
-/

namespace FunctionLoad.Text

/-- The 25 characters of the Unicode property White_Space. -/
def isBlank (c : Char) : Bool :=
  let n := c.toNat
  (9 ≤ n && n ≤ 13) || n == 0x20 || n == 0x85 || n == 0xA0 || n == 0x1680 ||
    (0x2000 ≤ n && n ≤ 0x200A) || n == 0x2028 || n == 0x2029 || n == 0x202F || n == 0x205F ||
    n == 0x3000

/-- A text without its leading blanks. -/
def trimStart (s : String) : String :=
  String.ofList (s.toList.dropWhile isBlank)

/-- A text without its trailing blanks. -/
def trimEnd (s : String) : String :=
  String.ofList (s.toList.reverse.dropWhile isBlank).reverse

/-- A text without blanks at either end. -/
def trim (s : String) : String :=
  trimEnd (trimStart s)

theorem toList_trimStart (s : String) : (trimStart s).toList = s.toList.dropWhile isBlank := by
  simp [trimStart]

end FunctionLoad.Text
