import FunctionLoad.Settings.Document
import FunctionLoad.File

/-!
# Loading of settings

* `LoadError`: why there are no settings.
* **`Settings.ofFile`**: the settings of a file, under the values of the keys.
* **`Settings.load`**: the settings of a file if one is named, else those of the keys alone.
-/

namespace FunctionLoad.Settings

/-- Why there are no settings. -/
inductive LoadError where
  | unreadable (fault : File.Fault)
  /-- The file holds no settings. -/
  | malformed
  | refused (refusal : Refusal)
  deriving Repr, DecidableEq

/-- The wording of an error. What exactly is wrong with a malformed file is not told. -/
def LoadError.message : LoadError → String
  | .unreadable fault => "Failed to read config file: " ++ fault.message
  | .malformed => "Failed to parse config"
  | .refused refusal => refusal.message

/-- A refusal as an error of loading. -/
def refusing (x : Except Refusal Settings) : Except LoadError Settings :=
  x.mapError .refused

/-- The settings in the text of a file, under the values of the keys. -/
def ofFileText (family : String) (lookup : Lookup) (text : String) :
    Logged (Except LoadError Settings) := do
  match ← Settings.read text with
  | none => return .error .malformed
  | some s => return refusing (← s.override family lookup).checked

/-- **The settings of a file**, under the values of the keys. -/
def ofFile (family : String) (lookup : Lookup) (path : String) (file : File) :
    Logged (Except LoadError Settings) := do
  Logged.note .debug ("Loading configuration from " ++ path)
  match file.text with
  | .error fault => return .error (.unreadable fault)
  | .ok text => ofFileText family lookup text

/-- **The settings of a file if one is named**, else those of the keys alone. -/
def load (family : String) (lookup : Lookup) (folder : Folder) (path : Option String) :
    Logged (Except LoadError Settings) :=
  match path with
  | some path => ofFile family lookup path (folder path)
  | none => refusing <$> ofKeys family lookup

end FunctionLoad.Settings
