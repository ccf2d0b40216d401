import FunctionLoad.Text.Ascii

/-!
# Percent encoding

* `encodeChar`: a character, or its UTF-8 bytes after percent signs if a set asks for that.
* `inFragment`, `inPath`, `inUser`, `inQuery`: the characters that the parts of a URL must not hold
  as they are.
* `decode?`: a text with the escaped bytes put back, if they are UTF-8.
-/

namespace FunctionLoad.Url.Percent

open FunctionLoad.Text

/-- One byte after a percent sign. -/
def encodeByte (b : UInt8) : List Char :=
  ['%', hexDigitUpper (b.toNat / 16), hexDigitUpper (b.toNat % 16)]

/-- A character, or its UTF-8 bytes after percent signs if `set` holds it. -/
def encodeChar (set : Char → Bool) (c : Char) : List Char :=
  if set c then (utf8 c).flatMap encodeByte else [c]

/-- A text with the characters of `set` escaped. -/
def encode (set : Char → Bool) (cs : List Char) : List Char :=
  cs.flatMap (encodeChar set)

/-- Control characters and everything outside ASCII. -/
def inControls (c : Char) : Bool :=
  c.toNat < 0x20 || 0x7F ≤ c.toNat

/-- What a fragment must not hold as it is. -/
def inFragment (c : Char) : Bool :=
  inControls c || c == ' ' || c == '"' || c == '<' || c == '>' || c.toNat == 0x60

/-- What a path must not hold as it is. -/
def inPath (c : Char) : Bool :=
  inFragment c || c == '#' || c == '?' || c == '\x7b' || c == '\x7d'

/-- What a user name or password must not hold as it is. -/
def inUser (c : Char) : Bool :=
  inPath c || "/:;=@[\\]^|".toList.contains c

/-- What a query must not hold as it is; on the web no quote either. -/
def inQuery (web : Bool) (c : Char) : Bool :=
  inControls c || c == ' ' || c == '"' || c == '#' || c == '<' || c == '>' || (web && c == '\'')

/-- The bytes of a text, escaped ones put back. -/
def bytes : List Char → List UInt8
  | '%' :: a :: b :: r =>
    match hexValue? a, hexValue? b with
    | some x, some y => (x * 16 + y).toUInt8 :: bytes r
    | _, _ => utf8 '%' ++ bytes (a :: b :: r)
  | c :: r => utf8 c ++ bytes r
  | [] => []

/-- A text with the escaped bytes put back, if they are UTF-8. -/
def decode? (cs : List Char) : Option (List Char) :=
  if cs.contains '%' then (String.fromUTF8? ⟨(bytes cs).toArray⟩).map String.toList else some cs

end FunctionLoad.Url.Percent
