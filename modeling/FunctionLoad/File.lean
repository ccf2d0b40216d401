/-!
# Files

* `File`: what is found at a place in a folder.
* `File.text`: the text of a file, or why there is none.
* `Folder`: what is found at every place, by its path.
-/

namespace FunctionLoad

/-- What is found at a place in a folder. -/
inductive File where
  | missing
  | directory
  | bytes (content : ByteArray)

namespace File

/-- Why a file has no text. -/
inductive Fault where
  | missing
  | isDirectory
  | notText
  deriving Repr, DecidableEq

/-- The wording of a fault. -/
def Fault.message : Fault → String
  | .missing => "No such file or directory (os error 2)"
  | .isDirectory => "Is a directory (os error 21)"
  | .notText => "stream did not contain valid UTF-8"

/-- Whether anything is found. -/
def found : File → Bool
  | .missing => false
  | _ => true

/-- **The text of a file**, or why there is none. -/
def text : File → Except Fault String
  | .missing => .error .missing
  | .directory => .error .isDirectory
  | .bytes content =>
    match String.fromUTF8? content with
    | some s => .ok s
    | none => .error .notText

end File

/-- What is found at every place, by its path. -/
abbrev Folder := String → File

end FunctionLoad
