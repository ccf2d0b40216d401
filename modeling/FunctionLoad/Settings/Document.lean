import FunctionLoad.Settings.Override
import FunctionLoad.Yaml.Decode
import FunctionLoad.Yaml.Printer

/-!
# Settings as YAML

* `Settings.yaml`: settings as a YAML text.
* `Draft`: what was read of a YAML text, every setting as it stands there.
* `Draft.resolve`: the settings that a draft asks for; what it leaves out has its default.
* **`Settings.read`**: the settings in a YAML text, none if it holds something else.

Modes, levels and formats are written in small letters. They are read back in the way of their
kind: a mode leniently, a level and a format exactly.
-/

namespace FunctionLoad

namespace Settings

/-- Settings as a tree. A timeout is shown in whole seconds. -/
def tree (s : Settings) : List (String × Yaml.Tree) :=
  [("target", .mapping [
      ("base_url", .text s.target.baseUrl),
      ("invocation_mode", .text s.target.mode.name),
      ("timeout", .number s.target.timeout.seconds)]),
    ("payload", .mapping [
      ("selection_mode", .text s.payload.mode.name),
      ("pool_size", .number s.payload.size.toNat)]),
    ("logging", .mapping [
      ("level", .text s.logging.level.word),
      ("format", .text s.logging.format.name)])]

/-- **Settings as a YAML text.** -/
def yaml (s : Settings) : String :=
  Yaml.print s.tree

/-- A sample for a file of settings: all defaults. -/
def sample : String :=
  Settings.yaml {}

/-- What was read of a YAML text, every setting as it stands there. -/
structure Draft where
  baseUrl : Option String := none
  invocationMode : Option String := none
  timeout : Option UInt64 := none
  selectionMode : Option String := none
  poolSize : Option String := none
  level : Option String := none
  format : Option String := none
  deriving Repr, DecidableEq

namespace Draft

open Yaml

/-- The settings of a target. -/
def targetMembers : List (Member Draft) :=
  [.of "base_url" text? fun s d => { d with baseUrl := some s },
    .of "invocation_mode" text? fun s d => { d with invocationMode := some s },
    .of "timeout" word? fun n d => { d with timeout := some n }]

/-- The settings of a pool. -/
def payloadMembers : List (Member Draft) :=
  [.of "selection_mode" text? fun s d => { d with selectionMode := some s },
    .of "pool_size" numeral? fun s d => { d with poolSize := some s }]

/-- The settings of logging. -/
def loggingMembers : List (Member Draft) :=
  [.of "level" (choice? (Log.Level.all.map Log.Level.word)) fun s d => { d with level := some s },
    .of "format" (choice? (Log.Format.all.map Log.Format.name)) fun s d =>
      { d with format := some s }]

/-- The parts of the settings. -/
def partMembers : List (Member Draft) :=
  [⟨"target", record targetMembers⟩, ⟨"payload", record payloadMembers⟩,
    ⟨"logging", record loggingMembers⟩]

/-- The draft in a YAML text, and whether the text holds settings and nothing else. -/
def ofText (s : String) : Draft × Bool :=
  (Document.ofText s).decode partMembers {}

/-- The level with a word for a name. -/
def levelOf (word : String) : Log.Level :=
  (Log.Level.all.find? (·.word == word)).getD .info

/-- The format with a name. -/
def formatOf (name : String) : Log.Format :=
  (Log.Format.all.find? (·.name == name)).getD .text

/-- **The settings that a draft asks for.** What it leaves out has its default; an unknown selection
mode is noted. -/
def resolve (d : Draft) : Logged Settings := do
  let defaults : Settings := {}
  let mode ←
    match d.selectionMode with
    | some s => Selection.Mode.resolve s
    | none => pure defaults.payload.mode
  return {
    target := {
      baseUrl := d.baseUrl.getD defaults.target.baseUrl
      mode := (d.invocationMode.map Invocation.Mode.resolve).getD defaults.target.mode
      timeout := (d.timeout.map fun n => .ofSeconds n.toNat).getD defaults.target.timeout }
    payload := {
      mode := mode
      size := (d.poolSize.map (positiveOr defaultPoolSize)).getD defaults.payload.size }
    logging := {
      level := (d.level.map levelOf).getD defaults.logging.level
      format := (d.format.map formatOf).getD defaults.logging.format } }

end Draft

/-- **The settings in a YAML text**, none if it holds something else. What was read before a fault
may have been noted then. -/
def read (s : String) : Logged (Option Settings) :=
  let (draft, sound) := Draft.ofText s
  (fun settings => if sound then some settings else none) <$> draft.resolve

end Settings

end FunctionLoad
