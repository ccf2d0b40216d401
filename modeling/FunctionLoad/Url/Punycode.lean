/-!
# Punycode

Labels outside ASCII as ASCII text: the ASCII characters first, then for each other character, in
ascending order, how far it is from the one before, as a number of variable length whose digits
adapt to the numbers so far.

* `encode`: a label as ASCII text.
* `decode?`: the label that an ASCII text encodes.
-/

namespace FunctionLoad.Url.Punycode

/-- The digit of a value below 36. -/
def digit (d : Nat) : Char :=
  if d < 26 then Char.ofNat (97 + d) else Char.ofNat (22 + d)

/-- The value of a digit. -/
def digitValue? (c : Char) : Option Nat :=
  let n := c.toNat
  if 97 ≤ n ∧ n < 123 then some (n - 97)
  else if 65 ≤ n ∧ n < 91 then some (n - 65)
  else if 48 ≤ n ∧ n < 58 then some (n - 22)
  else none

/-- The threshold of the digit at a position. -/
def threshold (bias position : Nat) : Nat :=
  if position ≤ bias then 1 else if bias + 26 ≤ position then 26 else position - bias

theorem threshold_pos (bias position : Nat) : 0 < threshold bias position := by
  unfold threshold
  split
  · omega
  · split <;> omega

/-- A distance brought into the range of the last digit, and the positions passed. -/
def shrink (delta passed : Nat) : Nat × Nat :=
  if 455 < delta then shrink (delta / 35) (passed + 36) else (delta, passed)
termination_by delta
decreasing_by omega

/-- The bias after a distance, given how many characters are placed. -/
def adapt (delta placed : Nat) (first : Bool) : Nat :=
  let delta := if first then delta / 700 else delta / 2
  let p := shrink (delta + delta / placed) 0
  p.2 + 36 * p.1 / (p.1 + 38)

/-- A number in digits of variable length. -/
def digitsOf (bias : Nat) (q position : Nat) : List Char :=
  let t := threshold bias position
  if q < t then [digit q]
  else digit (t + (q - t) % (36 - t)) :: digitsOf bias ((q - t) / (36 - t)) (position + 36)
termination_by q
decreasing_by
  have := threshold_pos bias position
  have h := Nat.div_le_self (q - threshold bias position) (36 - threshold bias position)
  omega

/-- What is carried from one character to the next while encoding. -/
structure Progress where
  delta : Nat
  bias : Nat
  placed : Nat
  next : Nat
  out : List Char

/-- One code point of the label as seen while the code point `m` is being placed. -/
def Progress.see (basic m : Nat) (p : Progress) (c : Nat) : Progress :=
  if c < m then { p with delta := p.delta + 1 }
  else if c = m then
    { p with
      delta := 0
      bias := adapt p.delta (p.placed + 1) (p.placed == basic)
      placed := p.placed + 1
      out := p.out ++ digitsOf p.bias p.delta 36 }
  else p

/-- All places of the code point `m`. -/
def Progress.place (basic : Nat) (codes : List Nat) (p : Progress) (m : Nat) : Progress :=
  let p := { p with delta := p.delta + (m - p.next) * (p.placed + 1) }
  let p := codes.foldl (Progress.see basic m) p
  { p with delta := p.delta + 1, next := m + 1 }

/-- A label as ASCII text. -/
def encode (label : List Char) : List Char :=
  let ascii := label.filter fun c => c.toNat < 128
  let codes := label.map Char.toNat
  let others := ((codes.filter fun n => 128 ≤ n).mergeSort (· ≤ ·)).eraseDups
  let start := if ascii = [] then [] else ascii ++ ['-']
  (others.foldl (Progress.place ascii.length codes) ⟨0, 72, ascii.length, 128, start⟩).out

/-- A number in digits of variable length added to `i`, and what follows it. -/
def number? (bias : Nat) (i weight position : Nat) : List Char → Option (Nat × List Char)
  | [] => none
  | c :: r => do
    let d ← digitValue? c
    let i := i + d * weight
    let t := threshold bias position
    if d < t then return (i, r) else number? bias i (weight * (36 - t)) (position + 36) r

/-- The characters of a label with those that the digits place put in. -/
def insertAll (fuel : Nat) (n i bias : Nat) (out : List Char) (cs : List Char) :
    Option (List Char) :=
  match fuel, cs with
  | _, [] => some out
  | 0, _ => none
  | fuel + 1, cs => do
    let (j, r) ← number? bias i 1 36 cs
    let length := out.length + 1
    let bias := adapt (j - i) length (i == 0)
    let n := n + j / length
    let i := j % length
    if 0x110000 ≤ n ∨ (0xD800 ≤ n ∧ n < 0xE000) then none
    else insertAll fuel n (i + 1) bias (out.insertIdx i (Char.ofNat n)) r

/-- The label that an ASCII text encodes. -/
def decode? (cs : List Char) : Option (List Char) :=
  let tail := cs.reverse.takeWhile (· ≠ '-')
  let head := (cs.reverse.dropWhile (· ≠ '-')).reverse
  if head.length ≤ 1 then insertAll cs.length 128 0 72 [] cs
  else insertAll tail.length 128 0 72 (head.dropLast) tail.reverse

end FunctionLoad.Url.Punycode
