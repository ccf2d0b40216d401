import FunctionLoad.Url.Domain.Composition

/-!
# The composed normal form

* `decompose`: a character as its base and what combines with it.
* `reorder`: characters that combine with the same base, sorted by combining class.
* `compose`: each base joined with what combines with it, as far as a single character exists.
* **`normalize`**: the three in turn.

Texts are lists of code points. Hangul syllables are composed by arithmetic, all other characters
by the table of pairs. The tables start beyond ASCII, at `firstComposed` and `firstCombining`, and
are not looked into before.
-/

namespace FunctionLoad.Url.Domain

open FunctionLoad.Text

/-- The first character that is composed of others. -/
def firstComposed : Nat := 0xC0

/-- The first character that combines with the one before. -/
def firstCombining : Nat := 0x300

/-- How a character combines with the one before; zero if it does not. -/
def combiningClass (n : Nat) : Nat :=
  if n < firstCombining then 0
  else ((classes.find? fun p => p.2.holdsCode n).map Prod.fst).getD 0

/-- Whether a code point is a Hangul syllable. -/
def isSyllable (n : Nat) : Bool :=
  0xAC00 ≤ n && n < 0xD7A4

/-- The letters of a Hangul syllable. -/
def lettersOf (n : Nat) : List Nat :=
  let i := n - 0xAC00
  [0x1100 + i / 588, 0x1161 + i % 588 / 28] ++ (if i % 28 = 0 then [] else [0x11A7 + i % 28])

/-- A character as its base and what combines with it, given how its base is decomposed. -/
def decomposeBy (base : Nat → List Nat) (n : Nat) : List Nat :=
  if n < firstComposed then [n]
  else if isSyllable n then lettersOf n
  else
    match pairs.find? fun p => p.composed == n with
    | some p => base p.first ++ [p.second]
    | none => [n]

/-- A character as its base and what combines with it; composed characters are nested a few times
at most. -/
def decompose : Nat → Nat → List Nat
  | 0, n => [n]
  | fuel + 1, n => decomposeBy (decompose fuel) n

/-- A character put among those before it, the nearest first, past those of a higher class. -/
def settle (x : Nat × Nat) : List (Nat × Nat) → List (Nat × Nat)
  | [] => [x]
  | y :: r => if 0 < x.2 ∧ x.2 < y.2 then y :: settle x r else x :: y :: r

/-- Characters that combine with the same base, sorted by combining class. -/
def reorder (ns : List Nat) : List (Nat × Nat) :=
  (ns.foldl (fun done n => settle (n, combiningClass n) done) []).reverse

/-- The single character that two make. -/
def join? (a b : Nat) : Option Nat :=
  if b < firstCombining then none
  else if 0x1100 ≤ a ∧ a < 0x1113 ∧ 0x1161 ≤ b ∧ b < 0x1176 then
    some (0xAC00 + ((a - 0x1100) * 21 + (b - 0x1161)) * 28)
  else if isSyllable a ∧ (a - 0xAC00) % 28 = 0 ∧ 0x11A7 < b ∧ b < 0x11C3 then
    some (a + (b - 0x11A7))
  else (pairs.find? fun p => p.first == a && p.second == b).map Pair.composed

/-- Characters after a base, joined with it unless one of the same or a higher class stands in
between. `waiting` holds those in between, the last first, and `last` the class of the last. -/
def composeFrom (base : Nat) (waiting : List Nat) (last : Option Nat) :
    List (Nat × Nat) → List Nat
  | [] => base :: waiting.reverse
  | (n, k) :: r =>
    let free :=
      match last with
      | none => true
      | some l => l < k
    match if free then join? base n else none with
    | some joined => composeFrom joined waiting last r
    | none =>
      if k = 0 then base :: waiting.reverse ++ composeFrom n [] none r
      else composeFrom base (n :: waiting) (some k) r

/-- Each base joined with what combines with it. -/
def compose : List (Nat × Nat) → List Nat
  | [] => []
  | (n, k) :: r => if k = 0 then composeFrom n [] none r else n :: compose r

/-- **The composed normal form of a text.** -/
def normalize (ns : List Nat) : List Nat :=
  compose (reorder (ns.flatMap (decompose 8)))

end FunctionLoad.Url.Domain
