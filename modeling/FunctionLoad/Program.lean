import FunctionLoad.CommandLine.Reader
import FunctionLoad.Preview
import FunctionLoad.Settings.Source

/-!
# The program

* `loadSettings`: the settings of a named file if it is there, else those of the keys.
* `functionNames`, `checkResponse`, `readBody`: what the commands do, apart from `Preview.build`.
* `Command.run`: what a command writes, and how it ends.
* **`Program.run`**: what the program does for a command line.
-/

namespace FunctionLoad

open FunctionLoad.Decimal FunctionLoad.Invocation FunctionLoad.Text

/-! ## Settings -/

/-- What exactly is wrong with a file that holds no settings. -/
def malformedDetail : String := "no mapping of settings"

/-- An error of loading as a failure. -/
def Settings.LoadError.failure : Settings.LoadError → Failure
  | .unreadable fault => ⟨(LoadError.unreadable fault).message, [fault.message]⟩
  | .malformed => ⟨LoadError.malformed.message ++ ": " ++ malformedDetail, [malformedDetail]⟩
  | .refused refusal => ⟨refusal.message, []⟩

/-- A failure to load settings, told with where they came from. -/
def loading (origin : String) (x : Except Settings.LoadError Settings) : Except Failure Settings :=
  x.mapError fun e => Failure.within ("Failed to load configuration from " ++ origin) e.failure

/-- **The settings of a named file if it is there**, else those of the keys. -/
def loadSettings (lookup : Settings.Lookup) (folder : Folder) (path : Option String) :
    Logged (Except Failure Settings) := do
  let ofKeys := loading "environment" <$>
    Settings.load Settings.defaultFamily lookup folder none
  match path with
  | none => do
    Logged.note .debug
      "No configuration file specified. Loading from environment or defaults."
    ofKeys
  | some path =>
    if (folder path).found then do
      Logged.note .info ("Loading configuration from: " ++ quotedPath path)
      loading (quotedPath path) <$>
        Settings.load Settings.defaultFamily lookup folder (some path)
    else do
      Logged.note .warn
        ("Configuration file not found: " ++ quotedPath path ++ ". Using defaults.")
      ofKeys

/-! ## Commands -/

/-- Names, or those of all elements where none is given. -/
def orAll (α : Type) [Named α] (names : List String) : List String :=
  if names.isEmpty then Named.names α else names

/-- **The functions of selected workloads and runtimes.** No selection selects all of them. -/
def functionNames (workloads runtimes : List String) : Except Failure (List String) :=
  (Catalog.matrix (orAll Workload workloads) (orAll Runtime runtimes)).mapError fun e =>
    Failure.within "Failed to build test matrix" ⟨e.message, []⟩

/-- The body of a response, as given or from a file. -/
def readBody (folder : Folder) (body bodyFile : Option String) : Except Failure String :=
  match body, bodyFile with
  | some body, _ => .ok body
  | none, some path =>
    (folder path).text.mapError fun fault =>
      Failure.within ("Failed to read response body from " ++ quotedPath path)
        ⟨fault.message, []⟩
  | none, none => .error ⟨"A response body is required (--body or --body-file)", []⟩

/-- **The outcome of a response to a function.** -/
def checkResponse (s : Settings) (function : String) (r : Response) :
    Logged (Except Failure Outcome) := do
  match ← Context.make s.target with
  | .error e =>
    return .error (Failure.within "Failed to build invocation context" (.ofChain e.chain))
  | .ok c =>
    (·.mapError fun e =>
      Failure.within ("Cannot check function '" ++ function ++ "'") (.ofChain e.chain)) <$>
      c.checkFunction function r

/-- What a command writes, and the failure it ends with, if any. -/
structure Result where
  output : String
  failure : Option Failure := none
  deriving Repr, DecidableEq

namespace Result

/-- A command that writes nothing and fails. -/
def failed (f : Failure) : Result :=
  ⟨"", some f⟩

end Result

/-- A JSON value as output. -/
def jsonOutput (v : Json.Value) : String :=
  v.pretty ++ "\n"

/-- What is told of a distribution of sizes. -/
def summaryMessage (s : Trend.Summary) : String :=
  payloadSize ++ ": count=" ++ decimal s.count ++ " min=" ++ decimal s.min.toNat ++ " mean=" ++
    fixed 1 s.mean ++ " max=" ++ decimal s.max.toNat

/-- The preview of some iterations. -/
def runPreview (s : Settings) (function : String) (first count seed : UInt64) :
    Logged Result := do
  match ← Preview.build s function first count (seeded seed) ({} : Trend) with
  | (.error f, _) => return .failed f
  | (.ok records, _, trend) =>
    match trend.summary payloadSize with
    | some summary => Logged.note .info (summaryMessage summary)
    | none => pure ()
    return { output := jsonOutput (.list (records.map Preview.Record.toValue)) }

/-- The check of a response. A response that fails is a failure of the command. -/
def runCheck (s : Settings) (folder : Folder) (function : String) (status : UInt16)
    (body bodyFile : Option String) : Logged Result := do
  match readBody folder body bodyFile with
  | .error f => return .failed f
  | .ok body =>
    match ← checkResponse s function ⟨status, body⟩ with
    | .error f => return .failed f
    | .ok outcome =>
      return {
        output := jsonOutput outcome.toValue
        failure :=
          if outcome.passed then none
          else some ⟨"Response failed checks: " ++ outcome.failedText, []⟩ }

/-- The list of functions. -/
def runMatrix (workloads runtimes : List String) : Result :=
  match functionNames workloads runtimes with
  | .error f => .failed f
  | .ok names => { output := String.join (names.map (· ++ "\n")) }

/-- **What a command writes**, and how it ends. Payloads without a seed of their own come from
`freshSeed`. -/
def Command.run (c : Command) (s : Settings) (folder : Folder) (freshSeed : UInt64) :
    Logged Result :=
  match c with
  | .preview function first count seed =>
    runPreview s function first count (seed.getD freshSeed)
  | .check function status body bodyFile => runCheck s folder function status body bodyFile
  | .matrix workloads runtimes => pure (runMatrix workloads runtimes)
  | .showSettings => pure { output := s.yaml }
  | .sampleSettings => pure { output := Settings.sample }

/-! ## Command lines -/

namespace Program

/-- The name and the version of the program. -/
def version : String := "loadgen 0.1.0"

/-- How the program ends. -/
inductive Ending where
  /-- Help was asked for. -/
  | help
  | version
  /-- The command line makes no sense. -/
  | usage
  /-- A command was run. -/
  | ran (r : Result)
  deriving Repr, DecidableEq

/-- The number that the program ends with. -/
def Ending.exitCode : Ending → Nat
  | .help => 0
  | .version => 0
  | .usage => 2
  | .ran r => if r.failure.isSome then 1 else 0

/-- What a command line that makes sense does. Without a command it gives help, once the settings
are loaded. -/
def execute (c : CommandLine) (lookup : Settings.Lookup) (folder : Folder) (freshSeed : UInt64) :
    Logged Ending := do
  match ← (loadSettings lookup folder c.settingsFile).upTo (c.threshold .info) with
  | .error f => return .ran (.failed f)
  | .ok s =>
    match c.command with
    | none => return .help
    | some command =>
      .ran <$> (command.run s folder freshSeed).upTo (c.threshold s.logging.level)

/-- **What the program does for a command line**, with the events that it shows. -/
def run (args : List String) (lookup : Settings.Lookup) (folder : Folder) (freshSeed : UInt64) :
    Logged Ending :=
  match CommandLine.parse args with
  | .error .help => pure .help
  | .error .version => pure .version
  | .error .usage => pure .usage
  | .ok c => execute c lookup folder freshSeed

end Program

end FunctionLoad
