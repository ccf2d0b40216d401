import FunctionLoad.Url.Basic
import FunctionLoad.Url.Percent
import FunctionLoad.Url.Domain

/-!
# Reading of hosts

* `ipv4?`: an address of one to four numbers, each decimal, octal or hexadecimal.
* `ipv6?`: an address of eight pieces, some zeros left out, the last two perhaps as an IPv4 address.
* **`Host.ofWeb`**: the host of a web URL, a domain name or an address.
* **`Host.ofOther`**: the host of any other URL, which is not looked into.
-/

namespace FunctionLoad.Url

open FunctionLoad.Text FunctionLoad.Decimal

/-! ## IPv4 -/

/-- A number in the base that its start tells. -/
def ipv4Number? (cs : List Char) : Option Nat :=
  let of (base : Nat) (ds : List Char) : Option Nat :=
    if ds = [] then some 0 else Decimal.unsigned? base ds
  match cs with
  | [] => none
  | '0' :: 'x' :: r => of 16 r
  | '0' :: 'X' :: r => of 16 r
  | '0' :: c :: r => of 8 (c :: r)
  | r => of 10 r

/-- The parts of a name between points, without an empty one at the end. -/
def ipv4Parts (cs : List Char) : List (List Char) :=
  let parts := splitWhere (· == '.') cs
  if parts.getLast? = some [] ∧ 1 < parts.length then parts.dropLast else parts

/-- Whether the last part of a name is a number, so that the name can only be an address. -/
def endsInNumber (cs : List Char) : Bool :=
  match (ipv4Parts cs).getLast? with
  | some part => (part ≠ [] && part.all isDigit) || (ipv4Number? part).isSome
  | none => false

/-- The address of a name that ends in a number. All parts but the last are bytes; the last one
fills the bytes that are left. -/
def ipv4? (cs : List Char) : Option Nat := do
  let numbers ← (ipv4Parts cs).mapM ipv4Number?
  let last ← numbers.getLast?
  let front := numbers.dropLast
  if 3 < front.length ∨ front.any (255 < ·) ∨ Nat.pow 256 (4 - front.length) ≤ last then none
  else some (front.foldr (fun b high => b * 0x1000000 + high / 256) 0 + last)

/-! ## IPv6 -/

/-- A byte in decimal, without leading zeros. -/
def byte? (cs : List Char) : Option Nat :=
  if cs.head? = some '0' ∧ 1 < cs.length then none
  else (Decimal.unsigned? 10 cs).filter (· < 256)

/-- The two pieces of an IPv4 address at the end. -/
def ipv4Tail? (cs : List Char) : Option (List Nat) :=
  match (splitWhere (· == '.') cs).mapM byte? with
  | some [a, b, c, d] => some [a * 256 + b, c * 256 + d]
  | _ => none

/-- A piece of at most four hexadecimal digits. -/
def piece? (cs : List Char) : Option Nat :=
  if 4 < cs.length then none else Decimal.unsigned? 16 cs

/-- Pieces between colons, the last ones perhaps an IPv4 address. -/
def pieces? (tail : Bool) : List (List Char) → Option (List Nat)
  | [] => some []
  | [part] => if tail && part.contains '.' then ipv4Tail? part else (piece? part).map fun p => [p]
  | part :: r => do
    let p ← piece? part
    let ps ← pieces? tail r
    return p :: ps

/-- The pieces of a text between colons; none of an empty text. -/
def pieceList? (tail : Bool) (cs : List Char) : Option (List Nat) :=
  if cs = [] then some [] else pieces? tail (splitWhere (· == ':') cs)

/-- What stands before and after the first double colon. -/
def splitAtGap : List Char → Option (List Char × List Char)
  | [] => none
  | ':' :: ':' :: r => some ([], r)
  | c :: r => (splitAtGap r).map fun p => (c :: p.1, p.2)

/-- The eight pieces of an address. A double colon stands for the zeros that are missing. -/
def ipv6? (cs : List Char) : Option (List Nat) :=
  match splitAtGap cs with
  | some (left, right) => do
    let front ← pieceList? false left
    let back ← pieceList? true right
    let count := front.length + back.length
    if 7 < count then none else some (front ++ List.replicate (8 - count) 0 ++ back)
  | none => (pieces? true (splitWhere (· == ':') cs)).filter fun ps => ps.length == 8

/-! ## Hosts -/

/-- The address between brackets, if the text starts with one. -/
def Host.bracketed? (cs : List Char) : Option (Except Error Host) :=
  match cs with
  | '[' :: r =>
    some <|
      match r.reverse with
      | ']' :: inner =>
        match ipv6? inner.reverse with
        | some pieces => .ok (.ipv6 pieces)
        | none => .error .invalidIpv6
      | _ => .error .invalidIpv6
  | _ => none

/-- **The host of a web URL.** -/
def Host.ofWeb (cs : List Char) : Except Error Host :=
  match bracketed? cs with
  | some result => result
  | none =>
    match (Percent.decode? cs).bind Domain.toAscii? with
    | none => .error .invalidDomainName
    | some [] => .error .emptyHost
    | some name =>
      if endsInNumber name then
        match ipv4? name with
        | some address => .ok (.ipv4 address)
        | none => .error .invalidIpv4
      else .ok (.domain name)

/-- The characters that no host may hold. -/
def isForbiddenInHost (c : Char) : Bool :=
  c.toNat == 0 || c == '\t' || c == '\n' || c == '\r' || " #/:<>?@[\\]^|".toList.contains c

/-- **The host of any other URL.** -/
def Host.ofOther (cs : List Char) : Except Error Host :=
  match bracketed? cs with
  | some result => result
  | none =>
    if cs.any isForbiddenInHost then .error .invalidDomainCharacter
    else .ok (.domain (Percent.encode Percent.inControls cs))

end FunctionLoad.Url
