import FunctionLoad.Url.Host
import FunctionLoad.Text.Blank

/-!
# Reading of URLs

* `scheme?`: the scheme of a text and what follows its colon.
* `authority`: user, host and port.
* `pathOf`, `segmentsOf`: the path, with single and double dots resolved.
* **`Url.parse`**: the URL of a text, or the first reason why it is none.

Control characters and spaces around a text do not count, nor do tabs and line breaks inside it.
On the web, a scheme of `webPort?` or `file`, backslashes are slashes and any number of slashes may
follow the scheme.
-/

namespace FunctionLoad.Url

open FunctionLoad.Text FunctionLoad.Decimal

/-! ## Scheme -/

/-- The usual port of a web scheme. -/
def webPort? (scheme : List Char) : Option Nat :=
  if scheme = "http".toList ∨ scheme = "ws".toList then some 80
  else if scheme = "https".toList ∨ scheme = "wss".toList then some 443
  else if scheme = "ftp".toList then some 21
  else none

/-- Whether a character is an ASCII letter. -/
def isLetter (c : Char) : Bool :=
  ('a' ≤ c && c ≤ 'z') || ('A' ≤ c && c ≤ 'Z')

/-- Whether a character may stand in a scheme after its first one. -/
def isInScheme (c : Char) : Bool :=
  isLetter c || isDigit c || c == '+' || c == '-' || c == '.'

/-- The scheme of a text, in lower case, and what follows its colon. -/
def scheme? (cs : List Char) : Option (List Char × List Char) :=
  match cs with
  | c :: _ =>
    if isLetter c then
      match cs.dropWhile isInScheme with
      | ':' :: r => some ((cs.takeWhile isInScheme).map lowerAscii, r)
      | _ => none
    else none
  | [] => none

/-! ## Authority -/

/-- Whether a character ends the authority. -/
def endsAuthority (web : Bool) (c : Char) : Bool :=
  c == '/' || c == '?' || c == '#' || (web && c == '\\')

/-- What stands before and after the last at sign. -/
def splitUser (cs : List Char) : Option (List Char × List Char) :=
  if cs.contains '@' then
    some ((cs.reverse.dropWhile (· ≠ '@')).tail.reverse, (cs.reverse.takeWhile (· ≠ '@')).reverse)
  else none

/-- The host at the start of a text and what follows it: up to a colon outside brackets. -/
def splitHost (inside : Bool) : List Char → List Char × List Char
  | [] => ([], [])
  | c :: r =>
    if c = ':' ∧ ¬ inside then ([], c :: r)
    else
      let p := splitHost (if c = '[' then true else if c = ']' then false else inside) r
      (c :: p.1, p.2)

/-- The port after a host; none if it is the usual one. Where a backslash does not end the
authority it ends the port, and what follows is returned. -/
def portOf (usual : Option Nat) (cs : List Char) :
    Except Error (Option Nat × List Char) :=
  match cs with
  | ':' :: r =>
    let ds := r.takeWhile isDigit
    let rest := r.dropWhile isDigit
    if rest ≠ [] ∧ rest.head? ≠ some '\\' then .error .invalidPort
    else if ds = [] then .ok (none, rest)
    else
      let n := ofDigits 10 ds
      if 65535 < n then .error .invalidPort
      else .ok (if usual = some n then none else some n, rest)
  | r => .ok (none, r)

/-- User, host and port. -/
structure Authority where
  username : List Char
  password : List Char
  host : Option Host
  port : Option Nat

/-- User, host and port of a text up to the path, and what is left of it. With an at sign there has
to be a host, unless nothing at all follows. -/
def authority (usual : Option Nat) (final : Bool) (cs : List Char) :
    Except Error (Authority × List Char) := do
  let web := usual.isSome
  if splitUser cs = some ([], []) ∧ ¬ final then throw .emptyHost
  let (user, rest) := (splitUser cs).getD ([], cs)
  let username := Percent.encode Percent.inUser (user.takeWhile (· ≠ ':'))
  let password := Percent.encode Percent.inUser (user.dropWhile (· ≠ ':')).tail
  let (name, rest) := splitHost false rest
  if name = [] ∧ web then throw .emptyHost
  let host ← if web then Host.ofWeb name else Host.ofOther name
  let empty := host == .domain []
  if empty ∧ rest.head? = some ':' then throw .emptyHost
  let (port, rest) ← portOf usual rest
  if empty ∧ (username ≠ [] ∨ password ≠ []) then throw .emptyHost
  return (⟨username, password, some host, port⟩, rest)

/-! ## Path -/

/-- A segment without the spellings of its dots. -/
def plainDots : List Char → List Char
  | '%' :: '2' :: c :: r => if c = 'e' ∨ c = 'E' then '.' :: plainDots r else '%' :: '2' :: c :: r
  | '.' :: r => '.' :: plainDots r
  | r => r

/-- Segments put after those before, the last first. A single dot stays where it is, a double dot
goes one up; at the end both leave an empty segment. -/
def resolve (before : List (List Char)) : List (List Char) → List (List Char)
  | [] => before.reverse
  | s :: r =>
    if plainDots s = ['.'] then resolve (if r = [] then [] :: before else before) r
    else if plainDots s = ['.', '.'] then
      resolve (if r = [] then [] :: before.tail else before.tail) r
    else resolve (s :: before) r

/-- The segments of a path after its first slash. -/
def segmentsOf (web : Bool) (cs : List Char) : List (List Char) :=
  resolve [] ((splitWhere (fun c => c == '/' || (web && c == '\\')) cs).map
    (Percent.encode Percent.inPath))

/-- The path of a text that starts at the path. -/
def pathOf (web : Bool) (cs : List Char) : Path :=
  match cs with
  | [] => .segments (if web then [[]] else [])
  | c :: r => .segments (segmentsOf web (if c = '/' ∨ (web ∧ c = '\\') then r else c :: r))

/-! ## The whole -/

/-- Whether a character ends the path. -/
def endsPath (c : Char) : Bool :=
  c == '?' || c == '#'

/-- Query and fragment of a text that starts at one of them. -/
def queryAndFragment (web : Bool) (cs : List Char) : Option (List Char) × Option (List Char) :=
  let fragment (cs : List Char) : Option (List Char) :=
    match cs with
    | '#' :: r => some (Percent.encode Percent.inFragment r)
    | _ => none
  match cs with
  | '?' :: r =>
    (some (Percent.encode (Percent.inQuery web) (r.takeWhile (· ≠ '#'))),
      fragment (r.dropWhile (· ≠ '#')))
  | r => (none, fragment r)

/-- The URL of an authority and what follows its slashes. -/
def withAuthority (scheme : List Char) (cs : List Char) : Except Error Url := do
  let usual := webPort? scheme
  let web := usual.isSome
  let body := cs.dropWhile fun c => !endsAuthority web c
  let (a, left) ← authority usual (body == []) (cs.takeWhile fun c => !endsAuthority web c)
  let rest := left ++ body
  let (query, fragment) := queryAndFragment web (rest.dropWhile fun c => !endsPath c)
  return { scheme, username := a.username, password := a.password, host := a.host, port := a.port,
           path := pathOf web (rest.takeWhile fun c => !endsPath c), query, fragment }

/-- The URL of a text without authority. -/
def withoutAuthority (scheme : List Char) (web : Bool) (cs : List Char) : Url :=
  let body := cs.takeWhile fun c => !endsPath c
  let (query, fragment) := queryAndFragment web (cs.dropWhile fun c => !endsPath c)
  let path :=
    match body with
    | '/' :: _ => pathOf web body
    | _ => if web then pathOf web body else .unstructured (Percent.encode Percent.inControls body)
  { scheme, path, query, fragment }

/-- Whether a text is a drive letter with its colon or bar. -/
def isDrive : List Char → Bool
  | [a, b] => isLetter a && (b == ':' || b == '|')
  | _ => false

/-- The URL of a file. Its host may be missing, and is when it is the local one or a drive. -/
def ofFile (scheme : List Char) (cs : List Char) : Except Error Url :=
  let isSlash (c : Char) : Bool := c == '/' || c == '\\'
  match cs with
  | a :: b :: r =>
    if isSlash a && isSlash b then
      let name := r.takeWhile fun c => !endsAuthority true c
      if name = [] ∨ isDrive name then .ok (withoutAuthority scheme true r)
      else do
        let host ← Host.ofWeb name
        let u := withoutAuthority scheme true (r.dropWhile fun c => !endsAuthority true c)
        return { u with host := if host = .domain "localhost".toList then none else some host }
    else .ok (withoutAuthority scheme true cs)
  | _ => .ok (withoutAuthority scheme true cs)

/-- Whether a character around a text does not count. -/
def isPadding (c : Char) : Bool :=
  c.toNat ≤ 0x20

/-- The characters of a text that count. -/
def significant (s : String) : List Char :=
  (((s.toList.dropWhile isPadding).reverse.dropWhile isPadding).reverse).filter fun c =>
    c ≠ '\t' ∧ c ≠ '\n' ∧ c ≠ '\r'

/-- **The URL of a text, or the first reason why it is none.** -/
def parse (s : String) : Except Error Url :=
  match scheme? (significant s) with
  | none => .error .relative
  | some (scheme, r) =>
    if (webPort? scheme).isSome then
      withAuthority scheme (r.dropWhile fun c => c == '/' || c == '\\')
    else if scheme = "file".toList then ofFile scheme r
    else
      match r with
      | '/' :: '/' :: r => withAuthority scheme r
      | r => .ok (withoutAuthority scheme false r)

end FunctionLoad.Url
