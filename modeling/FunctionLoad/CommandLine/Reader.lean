import FunctionLoad.CommandLine.Basic

/-!
# Reading of command lines

* `Found`: the values of options so far, and the option whose value is still pending.
* `Menu.read`: the options at every command of a command line.
* **`CommandLine.parse`**: what a command line asks for.

A value is looked at only when the next option appears, or at the end; until then help can be asked
for. The options in front of a command are looked at after those behind it.
-/

namespace FunctionLoad.CommandLine

open FunctionLoad.Decimal FunctionLoad.Text

/-- The values of options so far. -/
structure Found where
  values : List (String × String) := []
  /-- An option that was not looked at yet, and its value once it has one. -/
  pending : Option (String × Option String) := none
  deriving Repr, DecidableEq

namespace Found

/-- Whether the next argument is the value of an option, unless it looks like an option. -/
def isWaiting (f : Found) : Bool :=
  f.pending.any (·.2.isNone)

/-- One more value. An option may come once, and its value must be of its kind. -/
def add (m : Menu) (name value : String) (f : Found) : Except Stop Found :=
  match m.options.lookup name with
  | none => .error .usage
  | some kind =>
    if (kind ≠ .names ∧ (f.values.lookup name).isSome) ∨ !kind.accepts value then .error .usage
    else .ok { f with values := f.values ++ [(name, value)] }

/-- Looks at the pending option. -/
def settle (m : Menu) (f : Found) : Except Stop Found :=
  match f.pending with
  | none => .ok f
  | some (_, none) => .error .usage
  | some (name, some value) => add m name value { f with pending := none }

/-- The value of an option. -/
def value? (name : String) (f : Found) : Option String :=
  f.values.lookup name

/-- The names that an option lists. -/
def names (name : String) (f : Found) : List String :=
  (f.values.filter (·.1 == name)).flatMap fun p => namesOf p.2

end Found

/-- An argument that looks like a long option: its name, and the value behind an equals sign. -/
def long? (a : String) : Option (String × Option String) :=
  match a.toList with
  | '-' :: '-' :: c :: r =>
    let name := String.ofList ((c :: r).takeWhile (· != '='))
    match (c :: r).dropWhile (· != '=') with
    | _ :: value => some (name, some (String.ofList value))
    | [] => some (name, none)
  | _ => none

/-- The first letter of an argument that looks like short options. -/
def short? (a : String) : Option Char :=
  match a.toList with
  | '-' :: c :: _ => if c = '-' then none else some c
  | _ => none

/-- Whether names lead from a menu to a command, so that help on it can be given. At every command
with further ones, `help` is one of them. -/
def Menu.hasPath (m : Menu) : List String → Bool
  | [] => true
  | name :: r =>
    match m.commands.lookup name with
    | some sub => sub.hasPath r
    | none => name == "help" && !m.commands.isEmpty && r.isEmpty

/-- **The options at every command of a command line**, with the name of the command. -/
def Menu.read (m : Menu) (command : String) (f : Found) :
    List String → Except Stop (List (String × Found))
  | [] => return [(command, ← f.settle m)]
  | a :: r =>
    let isHelp := a == "help" && !m.commands.isEmpty
    if !f.isWaiting && isHelp then .error (if m.hasPath r then .help else .usage)
    else
      match if f.isWaiting then none else m.commands.lookup a with
      | some sub => do
        let deeper ← sub.read a {} r
        return (command, ← f.settle m) :: deeper
      | none =>
        if a == "--" then
          if r.isEmpty then return [(command, ← f.settle m)] else .error .usage
        else
          match long? a, short? a with
          | some (name, value), _ =>
            if (m.options.lookup name).isSome then do
              let f ← f.settle m
              match value with
              | some value => m.read command (← f.add m name value) r
              | none => m.read command { f with pending := some (name, none) } r
            else if value.isNone && name == "help" then do
              let _ ← f.settle m
              .error .help
            else if value.isNone && name == "version" && m.hasVersion then do
              let _ ← f.settle m
              .error .version
            else .error .usage
          | none, some c =>
            if c == 'h' then do
              let _ ← f.settle m
              .error .help
            else if c == 'V' && m.hasVersion then do
              let _ ← f.settle m
              .error .version
            else .error .usage
          | none, none =>
            match f.pending with
            | some (name, none) => m.read command { f with pending := some (name, some a) } r
            | _ => .error .usage

/-! ## Commands -/

/-- The number of an option, or a default. -/
def wordOr (fallback : UInt64) (name : String) (f : Found) : UInt64 :=
  ((f.value? name).bind word?).getD fallback

/-- The command that was found, if nothing it needs is missing. A response has one body. -/
def commandOf : List (String × Found) → Except Stop (Option Command)
  | [] => .ok none
  | [("preview", f)] =>
    match f.value? "function" with
    | some function =>
      .ok (some (.preview function (wordOr 0 "iteration" f) (wordOr 1 "count" f)
        ((f.value? "seed").bind word?)))
    | none => .error .usage
  | [("check", f)] =>
    match f.value? "function", (f.value? "status").bind status?, f.value? "body",
      f.value? "body-file" with
    | some function, some status, some body, none =>
      .ok (some (.check function status (some body) none))
    | some function, some status, none, some file =>
      .ok (some (.check function status none (some file)))
    | _, _, _, _ => .error .usage
  | [("matrix", f)] => .ok (some (.matrix (f.names "workloads") (f.names "runtimes")))
  | [("config", _), ("show", _)] => .ok (some .showSettings)
  | [("config", _), ("sample", _)] => .ok (some .sampleSettings)
  | _ => .error .usage

/-- The value of an option that goes with every command: the one nearest to the end. -/
def globalValue? (name : String) (levels : List (String × Found)) : Option String :=
  levels.reverse.findSome? fun l => l.2.value? name

/-- **What a command line asks for.** -/
def parse (args : List String) : Except Stop CommandLine := do
  let levels ← Menu.root.read "" {} args
  return {
    settingsFile := globalValue? "config" levels
    logLevel := globalValue? "log-level" levels
    command := ← commandOf (levels.drop 1) }

end FunctionLoad.CommandLine
