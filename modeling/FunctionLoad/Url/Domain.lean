import FunctionLoad.Url.Punycode
import FunctionLoad.Url.Domain.Mapping
import FunctionLoad.Url.Domain.Labels
import FunctionLoad.Url.Domain.Normal

/-!
# Domain names in ASCII

* `isForbidden`: the ASCII characters that no domain name may hold.
* `map?`: a name with every character replaced by its canonical one, in composed normal form.
* `isLabel`, `isDirected`: what a label outside ASCII has to satisfy.
* **`toAscii?`**: the ASCII form of a domain name, if it is one.

An encoded label starts with `xn--`; it has to encode a label outside ASCII that would be encoded
in just this way. Hyphens may stand anywhere and labels may be empty.
-/

namespace FunctionLoad.Url.Domain

open FunctionLoad.Text FunctionLoad.Text.LowerCase

/-- The ASCII characters that no domain name may hold. -/
def isForbidden (c : Char) : Bool :=
  c.toNat ≤ 0x20 || c.toNat == 0x7F || "%#/:<>?@[\\]^|".toList.contains c

/-- Whether a character is an ASCII character. -/
def isAscii (c : Char) : Bool :=
  c.toNat < 128

/-- What a label in its encoded form starts with. -/
def mark : List Char :=
  ['x', 'n', '-', '-']

/-- Whether a label is marked as encoded. -/
def isEncoded (label : List Char) : Bool :=
  mark.isPrefixOf label

/-! ## Mapping -/

/-- The code points in place of one; none if a domain name must not hold it. ASCII is only put into
lower case. -/
def replacement? (n : Nat) : Option (List Nat) :=
  if n < 128 then some [(lowerAscii (Char.ofNat n)).toNat]
  else if valid.holdsCode n then some [n]
  else if ignored.holdsCode n then some []
  else
    match runs.find? fun r => r.first ≤ n && n ≤ r.last && (n - r.first) % r.step == 0 with
    | some r => some [((n : Int) + r.distance).toNat]
    | none => replacements.lookup n

/-- A name with every character replaced by its canonical one, in composed normal form. -/
def map? (cs : List Char) : Option (List Char) :=
  (cs.mapM fun c => replacement? c.toNat).map fun ns => (normalize ns.flatten).map Char.ofNat

/-! ## Labels -/

/-- Whether a joiner after the characters `before`, the nearest first, joins with `following`. -/
def joins (c : Char) (before following : List Char) : Bool :=
  let afterVirama := (before.head?.map fun d => combiningClass d.toNat == 9).getD false
  if c.toNat = 0x200D then afterVirama
  else if c.toNat = 0x200C then
    afterVirama ||
      (((before.dropWhile joinThrough.holds).head?.map joinLeft.holds).getD false &&
        ((following.dropWhile joinThrough.holds).head?.map joinRight.holds).getD false)
  else true

/-- Whether every joiner of a label joins. -/
def joinsAll (before : List Char) : List Char → Bool
  | [] => true
  | c :: r => joins c before r && joinsAll (c :: before) r

/-- Whether a label may stand in a domain name, direction of writing apart. -/
def isLabel (label : List Char) : Bool :=
  !(label.head?.map marks.holds).getD false && label.all valid.holds && joinsAll [] label &&
    label.length ≤ 1000

/-- Whether a character makes a name one that is written in both directions. -/
def isOpposed (c : Char) : Bool :=
  rightToLeft.holds c || arabicNumber.holds c

/-- Whether the last character that takes no direction from another satisfies `p`. -/
def endsIn (p : Char → Bool) (label : List Char) : Bool :=
  ((label.reverse.dropWhile nonspacing.holds).head?.map p).getD false

/-- Whether a label can be read in a name that is written in both directions. -/
def isDirected (label : List Char) : Bool :=
  match label with
  | [] => true
  | c :: _ =>
    let number := europeanNumber.holds
    let weak := fun d => number d || neutral.holds d || nonspacing.holds d
    if rightToLeft.holds c then
      label.all (fun d => isOpposed d || weak d) &&
        endsIn (fun d => isOpposed d || number d) label &&
        !(label.any number && label.any arabicNumber.holds)
    else if number c || neutral.holds c || nonspacing.holds c || arabicNumber.holds c then false
    else label.all (fun d => !isOpposed d) && endsIn (fun d => number d || !weak d) label

/-- The label that stands in a mapped name, decoded if it is encoded. -/
def decodeLabel? (label : List Char) : Option (List Char) :=
  if isEncoded label then
    let code := label.drop 4
    if 2000 < code.length ∨ !code.all isAscii then none
    else
      match Punycode.decode? code with
      | none => none
      | some decoded =>
        if decoded.all isAscii ∨ isEncoded decoded ∨ !isLabel decoded ∨
            (normalize (decoded.map Char.toNat)).map Char.ofNat ≠ decoded then none
        else some decoded
  else if label.all isAscii ∨ isLabel label then some label
  else none

/-- The ASCII form of a label. -/
def encodeLabel (label : List Char) : List Char :=
  if label.all isAscii then label else mark ++ Punycode.encode label

/-- The ASCII form of a name that may hold any character. -/
def toAsciiAny? (cs : List Char) : Option (List Char) := do
  let mapped ← map? cs
  let labels ← (splitWhere (· == '.') mapped).mapM decodeLabel?
  if labels.any (fun l => l.any isForbidden) then none
  else if labels.any (fun l => l.any isOpposed) && !labels.all isDirected then none
  else some (List.intercalate ['.'] (labels.map encodeLabel))

/-- Whether a name is ASCII and has no encoded label. -/
def isSimple (cs : List Char) : Bool :=
  cs.all isAscii && !(splitWhere (· == '.') (cs.map lowerAscii)).any isEncoded

/-- **The ASCII form of a domain name, if it is one.** An ASCII name without encoded labels is only
put into lower case. -/
def toAscii? (cs : List Char) : Option (List Char) :=
  if isSimple cs then
    if cs.any isForbidden then none else some (cs.map lowerAscii)
  else toAsciiAny? cs

end FunctionLoad.Url.Domain
