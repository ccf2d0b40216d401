import FunctionLoad.Program

/-!
# Command line of the program

The outer layer: it reads the keys and files that a command line may name, lets `Program.run`
decide, and writes what comes out of it.
-/

namespace FunctionLoad.Main

/-- What help tells. -/
def usage : String :=
  String.intercalate "\n" [
    "Payloads, checks and settings for load tests of functions",
    "",
    "Usage: loadgen [OPTIONS] [COMMAND]",
    "",
    "Commands:",
    "  preview  Show the payloads of some iterations",
    "  check    Judge a response to a function",
    "  matrix   List the functions of workloads and runtimes",
    "  config   Show settings, or a sample of them",
    "  help     Show this text",
    "",
    "Options:",
    "      --config <FILE>      File of settings",
    "      --log-level <LEVEL>  Least severe level of events to show",
    "  -h, --help               Show this text",
    "  -V, --version            Show the version",
    ""]

/-- What is found at a path. -/
def readFile (path : String) : IO File := do
  try
    return .bytes (← IO.FS.readBinFile path)
  catch
    | .noFileOrDirectory .. => return .missing
    | .inappropriateType .. => return .directory
    | e => throw e

/-- The files that a command line names, each with what is found there. -/
def readFiles (args : List String) : IO (List (String × File)) :=
  match CommandLine.parse args with
  | .ok c => c.files.mapM fun path => return (path, ← readFile path)
  | .error _ => return []

/-- The values of all keys in the environment. -/
def readKeys : IO (List (String × String)) := do
  let found ← Settings.Key.all.mapM fun k => do
    let key := k.name Settings.defaultFamily
    return (key, ← IO.getEnv key)
  return found.filterMap fun p => p.2.map fun value => (p.1, value)

/-- A seed that differs from run to run. -/
def freshSeed : IO UInt64 := do
  let bytes ← IO.getRandomBytes 8
  return bytes.foldl (fun n b => n * 256 + b.toUInt64) 0

/-- Writes what a program ends with. -/
def write (e : Program.Ending) : IO Unit := do
  let out ← IO.getStdout
  let err ← IO.getStderr
  match e with
  | .help => out.putStr usage
  | .version => out.putStrLn Program.version
  | .usage => err.putStr usage
  | .ran r =>
    out.putStr r.output
    match r.failure with
    | some f => err.putStrLn ("Error: " ++ f.report)
    | none => return

/-- Writes the events of a run. -/
def writeEvents (events : List Log.Event) : IO Unit := do
  let err ← IO.getStderr
  for e in events do
    err.putStrLn e.line

end FunctionLoad.Main

/-- Runs the program for a command line. -/
def main (args : List String) : IO UInt32 := do
  let files ← FunctionLoad.Main.readFiles args
  let keys ← FunctionLoad.Main.readKeys
  let run := FunctionLoad.Program.run args (fun key => List.lookup key keys)
    (fun path => (List.lookup path files).getD .missing) (← FunctionLoad.Main.freshSeed)
  FunctionLoad.Main.writeEvents run.events
  FunctionLoad.Main.write run.value
  return UInt32.ofNat run.value.exitCode
