import FunctionLoad.Decimal.Digits

/-!
# URLs

* `Url`: a parsed URL, with its path apart from query and fragment.
* `Url.Host`: a domain name, an address, or the name of a host outside the web.
* `Url.Error`: why a text is no URL.
* `Url.text`: the URL written out; `Host.text` writes the host.
-/

namespace FunctionLoad

open FunctionLoad.Text FunctionLoad.Decimal

namespace Url

/-- Why a text is no URL. -/
inductive Error where
  | relative
  | emptyHost
  | invalidPort
  | invalidIpv4
  | invalidIpv6
  | invalidDomainCharacter
  | invalidDomainName
  deriving Repr, DecidableEq

/-- The wording of an error. -/
def Error.message : Error → String
  | .relative => "relative URL without a base"
  | .emptyHost => "empty host"
  | .invalidPort => "invalid port number"
  | .invalidIpv4 => "invalid IPv4 address"
  | .invalidIpv6 => "invalid IPv6 address"
  | .invalidDomainCharacter => "invalid domain character"
  | .invalidDomainName => "invalid international domain name"

/-- What a URL addresses. -/
inductive Host where
  | domain (name : List Char)
  | ipv4 (address : Nat)
  | ipv6 (pieces : List Nat)
  deriving Repr, DecidableEq

/-- A path: the segments after each slash, or a text without structure. -/
inductive Path where
  | segments (parts : List (List Char))
  | unstructured (text : List Char)
  deriving Repr, DecidableEq

/-- The text of a path. -/
def Path.chars : Path → List Char
  | .segments parts => parts.flatMap ('/' :: ·)
  | .unstructured text => text

end Url

/-- A parsed URL. -/
structure Url where
  scheme : List Char
  username : List Char := []
  password : List Char := []
  host : Option Url.Host := none
  port : Option Nat := none
  path : Url.Path
  query : Option (List Char) := none
  fragment : Option (List Char) := none
  deriving Repr, DecidableEq

namespace Url

/-! ## Addresses -/

/-- Four numbers between points. -/
def ipv4Chars (address : Nat) : List Char :=
  List.intercalate ['.']
    [digits (address / 0x1000000 % 256), digits (address / 0x10000 % 256),
      digits (address / 0x100 % 256), digits (address % 256)]

/-- A number in hexadecimal digits, in front of `rest`. -/
def hexBefore (n : Nat) (rest : List Char) : List Char :=
  if n < 16 then hexDigit n :: rest else hexBefore (n / 16) (hexDigit (n % 16) :: rest)
termination_by n
decreasing_by omega

/-- The length of the run of zeros at the start. -/
def zeros (pieces : List Nat) : Nat :=
  (pieces.takeWhile (· == 0)).length

/-- The first longest run of zeros, as where it starts and how long it is, given the position of
the pieces and the longest run before them. -/
def longestZeros (position : Nat) (best : Nat × Nat) : List Nat → Nat × Nat
  | [] => best
  | p :: r =>
    let here := zeros (p :: r)
    longestZeros (position + 1) (if best.2 < here then (position, here) else best) r

/-- Eight numbers between colons, the first longest run of several zeros left out. -/
def ipv6Chars (pieces : List Nat) : List Char :=
  let colon (ps : List Nat) := List.intercalate [':'] (ps.map fun p => hexBefore p [])
  let (start, count) := longestZeros 0 (0, 0) pieces
  if count < 2 then colon pieces
  else colon (pieces.take start) ++ ':' :: ':' :: colon (pieces.drop (start + count))

/-- The text of a host. -/
def Host.chars : Host → List Char
  | .domain name => name
  | .ipv4 address => ipv4Chars address
  | .ipv6 pieces => '[' :: ipv6Chars pieces ++ [']']

/-! ## Writing -/

/-- The user in front of a host. -/
def userChars (u : Url) : List Char :=
  if u.username = [] ∧ u.password = [] then []
  else u.username ++ (if u.password = [] then [] else ':' :: u.password) ++ ['@']

/-- User, host and port. -/
def authorityChars (u : Url) : List Char :=
  match u.host with
  | none => []
  | some h =>
    '/' :: '/' :: userChars u ++ h.chars ++
      (match u.port with
        | none => []
        | some p => ':' :: digits p)

/-- A part that need not be there, after the character that announces it. -/
def partChars (c : Char) : Option (List Char) → List Char
  | none => []
  | some cs => c :: cs

/-- A URL written out. -/
def chars (u : Url) : List Char :=
  u.scheme ++ ':' :: authorityChars u ++ u.path.chars ++ partChars '?' u.query ++
    partChars '#' u.fragment

/-- A URL written out. -/
def text (u : Url) : String :=
  String.ofList u.chars

/-- The scheme of a URL. -/
def schemeText (u : Url) : String :=
  String.ofList u.scheme

/-- Whether a URL is one of the web, which a request can be sent to. -/
def isWeb (u : Url) : Bool :=
  u.schemeText == "http" || u.schemeText == "https"

end Url

end FunctionLoad
