import FunctionLoad.Named
import FunctionLoad.Text.Blank
import FunctionLoad.Text.LowerCase

/-!
# Catalog of functions

* `Workload`, `Runtime`: what a function computes, and where; a function is named after both.
* `Catalog.Error`: names that are not known.
* **`Workload.ofFunction`**: the workload that the name of a function starts with.
* **`Catalog.matrix`**: the functions of selected workloads and runtimes, in the order of the
  catalog. Letter case, blanks around names, repetitions and empty names do not matter.
-/

namespace FunctionLoad

open FunctionLoad.Text

/-- What a function computes. -/
inductive Workload where
  | wordStats
  | jsonTransform
  deriving Repr, DecidableEq

instance : Named Workload where
  all := [.wordStats, .jsonTransform]
  name
    | .wordStats => "word-stats"
    | .jsonTransform => "json-transform"

/-- Where a function runs. -/
inductive Runtime where
  | java
  | javaLite
  | python
  | exec
  deriving Repr, DecidableEq

instance : Named Runtime where
  all := [.java, .javaLite, .python, .exec]
  name
    | .java => "java"
    | .javaLite => "java-lite"
    | .python => "python"
    | .exec => "exec"

namespace Catalog

/-- Names that are not known. -/
inductive Error where
  | unknownWorkloads (names : List String)
  | unknownRuntimes (names : List String)
  | unknownFunction (name : String)
  deriving Repr, DecidableEq

/-- The wording of an error. -/
def Error.message : Error → String
  | .unknownWorkloads names => "unknown workloads: " ++ String.intercalate ", " names
  | .unknownRuntimes names => "unknown runtimes: " ++ String.intercalate ", " names
  | .unknownFunction name => "no workload matches function '" ++ name ++ "'"

/-- A name without blanks around it, in lower case. -/
def normal (s : String) : String :=
  lower (trim s)

end Catalog

open Catalog

namespace Workload

/-- A workload by its name in any case, with blanks around it. -/
def parse (s : String) : Except Error Workload :=
  match Named.ofName? (normal s) with
  | some w => .ok w
  | none => .error (.unknownWorkloads [normal s])

/-- The name of a function. -/
def functionName (w : Workload) (r : Runtime) : String :=
  Named.name w ++ "-" ++ Named.name r

/-- Whether a name is that of a workload, or goes on with a dash behind it. -/
def isStartOf (w : Workload) (name : String) : Bool :=
  name == Named.name w || ((Named.name w).toList ++ ['-']).isPrefixOf name.toList

/-- **The workload that the name of a function starts with.** -/
def ofFunction (function : String) : Except Error Workload :=
  match (Named.all : List Workload).find? (·.isStartOf (normal function)) with
  | some w => .ok w
  | none => .error (.unknownFunction function)

end Workload

namespace Runtime

/-- A runtime by its name in any case, with blanks around it. -/
def parse (s : String) : Except Error Runtime :=
  match Named.ofName? (normal s) with
  | some r => .ok r
  | none => .error (.unknownRuntimes [normal s])

end Runtime

namespace Catalog

/-- The normal forms of names, each once in the order of its first occurrence, without empty
ones. -/
def selection (names : List String) : List String :=
  names.foldl
    (fun known raw =>
      let name := normal raw
      if name = "" ∨ name ∈ known then known else known ++ [name])
    []

/-- The names that are refused when they are read. -/
def unknown {α : Type} (parse : String → Except Error α) (names : List String) : List String :=
  names.filter fun name => !(parse name).isOk

/-- The elements whose names are among those given, in their own order. -/
def selected (α : Type) [Named α] (names : List String) : List α :=
  (Named.all : List α).filter fun a => Named.name a ∈ names

/-- **The functions of selected workloads and runtimes**, in the order of the catalog. -/
def matrix (workloads runtimes : List String) : Except Error (List String) :=
  let ws := selection workloads
  let rs := selection runtimes
  if unknown Workload.parse ws ≠ [] then .error (.unknownWorkloads (unknown Workload.parse ws))
  else if unknown Runtime.parse rs ≠ [] then .error (.unknownRuntimes (unknown Runtime.parse rs))
  else
    .ok ((selected Workload ws).flatMap fun w => (selected Runtime rs).map w.functionName)

end Catalog

end FunctionLoad
