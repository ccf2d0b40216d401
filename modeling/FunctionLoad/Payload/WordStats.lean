import FunctionLoad.Payload.Seed

/-!
# Texts for word statistics

* `WordStats`: a text, and how many of its most frequent words are asked for.
* `sentence`, `sentences`: the sentences of a seed, some of them repeated.
* **`WordStats.ofSeed`**: the input of a seed.
* `WordStats.toValue`, `WordStats.ofValue?`: the input as JSON.
-/

namespace FunctionLoad.Payload

/-- A text, and how many of its most frequent words are asked for. -/
structure WordStats where
  text : String
  top : UInt32
  deriving Repr, DecidableEq

namespace WordStats

/-! ## Sentences -/

def adjectives : List String :=
  ["quick", "silent", "brisk", "patient", "curious", "bold", "calm"]

def nouns : List String :=
  ["fox", "dog", "engineer", "runner", "team", "service", "cluster"]

def verbs : List String :=
  ["jumps", "analyzes", "builds", "observes", "tests", "measures", "scales"]

def adverbs : List String :=
  ["quickly", "carefully", "daily", "smoothly", "loudly", "correctly", "safely"]

/-- How many different sentences a seed has. -/
def sentenceCount (seed : Nat) : Nat :=
  3 + seed % 5

/-- Sentence `i` of a seed. -/
def sentence (seed i : Nat) : String :=
  "The " ++ pick adjectives seed (i + 1) ++ " " ++ pick nouns seed (i + 7) ++ " " ++
    pick verbs seed (i + 13) ++ " " ++ pick adverbs seed (i + 19)

/-- How often sentence `i` of a seed is said. -/
def repeats (seed i : Nat) : Nat :=
  1 + (seed + i * 3) % 4

/-- All sentences of a seed in order. -/
def sentences (seed : Nat) : List String :=
  (List.range (sentenceCount seed)).flatMap fun i =>
    List.replicate (repeats seed i) (sentence seed i)

/-- **The input of a seed.** -/
def ofSeed (seed : Nat) : WordStats where
  text := String.intercalate ". " (sentences seed) ++ "."
  top := UInt32.ofNat (3 + seed % 6)

/-! ## JSON -/

/-- The input as JSON. -/
def toValue (x : WordStats) : Json.Value :=
  .object [("text", .text x.text), ("topN", .nat x.top.toUInt64)]

/-- The JSON that inputs are read from. -/
def shape : Json.Shaped :=
  .record [⟨"text", .text, true⟩, ⟨"topN", .integer 0 (UInt32.size - 1), true⟩]

/-- The input that a JSON value stands for. -/
def ofValue? (v : Json.Value) : Option WordStats :=
  match v.fields? [("text", true), ("topN", true)] with
  | some [some text, some top] => do
    return ⟨← text.text?, UInt32.ofNat (← top.nat? UInt32.size)⟩
  | _ => none

end WordStats

end FunctionLoad.Payload
