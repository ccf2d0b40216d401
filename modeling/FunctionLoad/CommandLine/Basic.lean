import FunctionLoad.Log.Level

/-!
# Command lines

* `Command`, `CommandLine`: what a command line asks for; `CommandLine.files` are the files that it
  names.
* `CommandLine.threshold`: the least severe level of the events to show.
* `Kind`: what the value of an option is.
* `Menu`: the options and the commands that may follow a command.
* `Menu.root`: those of the whole program.
-/

namespace FunctionLoad

open FunctionLoad.Decimal FunctionLoad.Text

/-- What a command line asks for. -/
inductive Command where
  | preview (function : String) (first count : UInt64) (seed : Option UInt64)
  | check (function : String) (status : UInt16) (body bodyFile : Option String)
  | matrix (workloads runtimes : List String)
  | showSettings
  | sampleSettings
  deriving Repr, DecidableEq

/-- A command, and the options that go with every command. -/
structure CommandLine where
  settingsFile : Option String := none
  logLevel : Option String := none
  command : Option Command := none
  deriving Repr, DecidableEq

namespace CommandLine

/-- The paths of the files that a command line names. -/
def files (c : CommandLine) : List String :=
  c.settingsFile.toList ++
    match c.command with
    | some (.check _ _ _ bodyFile) => bodyFile.toList
    | _ => []

/-- The least severe level of the events to show: the one of the command line, or else the one of
the settings. What names no level stands for `info`. -/
def threshold (c : CommandLine) (configured : Log.Level) : Log.Level :=
  match c.logLevel with
  | some s => (Log.Level.parse s).toOption.getD .info
  | none => configured

/-- Why a command line is not run. -/
inductive Stop where
  /-- It asks for help. -/
  | help
  /-- It asks for the version. -/
  | version
  /-- It makes no sense. -/
  | usage
  deriving Repr, DecidableEq

/-! ## Values of options -/

/-- What the value of an option is. -/
inductive Kind where
  | text
  | path
  /-- An unsigned number of 64 bits. -/
  | word
  /-- An unsigned number of 16 bits. -/
  | status
  /-- Names with commas between; the option may come more than once. -/
  | names
  deriving Repr, DecidableEq

/-- The number of a status. -/
def status? (s : String) : Option UInt16 :=
  (integer? 10 s.toList).bind fun n =>
    if 0 ≤ n ∧ n < UInt16.size then some (UInt16.ofNat n.toNat) else none

/-- The names between commas. -/
def namesOf (s : String) : List String :=
  (splitWhere (· == ',') s.toList).map String.ofList

/-- Whether a text is a value of a kind. -/
def Kind.accepts (k : Kind) (s : String) : Bool :=
  match k with
  | .text => true
  | .path => s != ""
  | .word => (word? s).isSome
  | .status => (status? s).isSome
  | .names => true

/-! ## Menus -/

/-- The options and the commands that may follow a command. -/
inductive Menu where
  | mk (options : List (String × Kind)) (hasVersion : Bool) (commands : List (String × Menu))

namespace Menu

/-- The options after a command. -/
def options : Menu → List (String × Kind)
  | mk options _ _ => options

/-- Whether the version can be asked for. -/
def hasVersion : Menu → Bool
  | mk _ hasVersion _ => hasVersion

/-- The commands after a command. -/
def commands : Menu → List (String × Menu)
  | mk _ _ commands => commands

/-- The options that go with every command. -/
def global : List (String × Kind) :=
  [("config", .path), ("log-level", .text)]

/-- A command without further commands. -/
def leaf (options : List (String × Kind)) : Menu :=
  mk (options ++ global) false []

/-- **The options and commands of the program.** -/
def root : Menu :=
  mk global true [
    ("preview", leaf [("function", .text), ("iteration", .word), ("count", .word),
      ("seed", .word)]),
    ("check", leaf [("function", .text), ("status", .status), ("body", .text),
      ("body-file", .path)]),
    ("matrix", leaf [("workloads", .names), ("runtimes", .names)]),
    ("config", mk global false [("show", leaf []), ("sample", leaf [])])]

end Menu

end CommandLine

end FunctionLoad
