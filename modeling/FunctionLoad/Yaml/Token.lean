/-!
# Tokens of YAML

* `Style`: how a scalar is written.
* `Token`: what a YAML text is made of. A tag keeps its bytes, which need not be text.
-/

namespace FunctionLoad.Yaml

/-- How a scalar is written. -/
inductive Style where
  | plain
  | singleQuoted
  | doubleQuoted
  | literal
  | folded
  deriving Repr, DecidableEq

/-- What a YAML text is made of. -/
inductive Token where
  | streamEnd
  /-- The version of YAML that a document asks for. -/
  | version (major minor : Nat)
  /-- An abbreviation for the start of tags. -/
  | tagHandle (handle : List Char) (start : List UInt8)
  | documentStart
  | documentEnd
  | blockSequenceStart
  | blockMappingStart
  | blockEnd
  | flowSequenceStart
  | flowSequenceEnd
  | flowMappingStart
  | flowMappingEnd
  | blockEntry
  | flowEntry
  | key
  | value
  | alias (name : List Char)
  | anchor (name : List Char)
  | tag (handle : List Char) (suffix : List UInt8)
  | scalar (text : List Char) (style : Style)
  deriving Repr, DecidableEq

end FunctionLoad.Yaml
